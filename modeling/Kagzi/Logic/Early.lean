import Kagzi.Logic.Process

/-!
# Programs that fail early

Some errors say that nothing was done.  A program `FailsEarly` with such an error if it
fails with it only before its first query that writes.  `Steps.failsEarly` carries this to
the runs of a pool: a request that has ended with the error has made no query that writes.
The judgement goes together with that of `Prog.Within`, which is about the rest of the
program, once something has been written.
-/

namespace Atomic

namespace Prog

variable {Q : Type} {A : Q → Type} {ε ε' α β : Type}

/-- With answers as `answers` has them, the program makes only allowed queries, and after a
query that `writes` it fails with no error that satisfies `X`. -/
def FailsEarly (answers : (q : Q) → A q → Prop) (allowed writes : Q → Prop) (X : ε → Prop) :
    Prog Q A ε α → Prop
  | .ret _ => True
  | .fail _ => True
  | .call q k => allowed q ∧ ∀ a, answers q a →
      (k a).Within answers allowed (fun _ => True) (fun x => ¬ X x) ∨
        ¬ writes q ∧ (k a).FailsEarly answers allowed writes X

section FailsEarly
variable {answers : (q : Q) → A q → Prop} {allowed writes : Q → Prop}
variable {P : α → Prop} {X : ε → Prop} {Y : ε' → Prop}

/-- A program that never fails with the error. -/
theorem Within.failsEarly {p : Prog Q A ε α} (hp : p.Within answers allowed P fun x => ¬ X x) :
    p.FailsEarly answers allowed writes X := by
  cases p with
  | ret a => trivial
  | fail x => trivial
  | call q k => exact ⟨hp.1, fun a ha => .inl ((hp.2 a ha).mono (fun _ _ => trivial) fun _ h => h)⟩

/-- A program that writes nothing, and then one that fails early. -/
theorem Within.bind_failsEarly {quiet : Q → Prop} {p : Prog Q A ε α} {f : α → Prog Q A ε β}
    {Z : ε → Prop} (hp : p.Within answers quiet P Z) (hquiet : ∀ q, quiet q → allowed q ∧ ¬ writes q)
    (hf : ∀ a, P a → (f a).FailsEarly answers allowed writes X) :
    (p >>= f).FailsEarly answers allowed writes X := by
  induction p with
  | ret a => exact hf a hp
  | fail x => trivial
  | call q k ih =>
      exact ⟨(hquiet q hp.1).1, fun a ha => .inr ⟨(hquiet q hp.1).2, ih a (hp.2 a ha)⟩⟩

/-- A program that fails early, and then one that never fails with the error. -/
theorem FailsEarly.bind {p : Prog Q A ε α} {f : α → Prog Q A ε β}
    (hp : p.FailsEarly answers allowed writes X)
    (hf : ∀ a, (f a).Within answers allowed (fun _ => True) fun x => ¬ X x) :
    (p >>= f).FailsEarly answers allowed writes X := by
  induction p with
  | ret a => exact (hf a).failsEarly
  | fail x => trivial
  | call q k ih =>
      refine ⟨hp.1, fun a ha => ?_⟩
      rcases hp.2 a ha with h | ⟨hquiet, h⟩
      · exact .inl (h.bind fun a _ => hf a)
      · exact .inr ⟨hquiet, ih a h⟩

theorem FailsEarly.mapError {g : ε → ε'} {p : Prog Q A ε α}
    (hp : p.FailsEarly answers allowed writes fun x => Y (g x)) :
    (p.mapError g).FailsEarly answers allowed writes Y := by
  induction p with
  | ret a => trivial
  | fail x => trivial
  | call q k ih =>
      refine ⟨hp.1, fun a ha => ?_⟩
      rcases hp.2 a ha with h | ⟨hquiet, h⟩
      · exact .inl (h.mapError fun _ h => h)
      · exact .inr ⟨hquiet, ih a h⟩

end FailsEarly

end Prog

section Runs
variable {Q : Type} {A : Q → Type} {σ E R ε α : Type} {S : Service Q A σ E R ε α}
variable {p p' : Pool Q A σ E R ε α}

/-- The request number `i` has made no query that writes. -/
def Quiet (writes : Q → Prop) (i : Nat) (trace : List (Event Q A E)) : Prop :=
  ∀ ran ∈ trace, ran.caller = i → ¬ writes ran.query

/-- A request in progress never fails with the error any more, or has written nothing so
far and will fail early. -/
def Early (answers : (q : Q) → A q → Prop) (allowed writes : Q → Prop) (X : ε → Prop) (i : Nat)
    (c : Prog Q A ε α) (trace : List (Event Q A E)) : Prop :=
  c.Within answers allowed (fun _ => True) (fun x => ¬ X x) ∨
    Quiet writes i trace ∧ c.FailsEarly answers allowed writes X

variable {answers : (q : Q) → A q → Prop} {allowed writes : Q → Prop} {X : ε → Prop}

theorem Early.query {i : Nat} {q : Q} {k : A q → Prog Q A ε α} {trace : List (Event Q A E)}
    (h : Early answers allowed writes X i (.call q k) trace) : allowed q := by
  rcases h with h | ⟨-, h⟩
  · exact h.1
  · exact h.1

/-- The request's own query. -/
theorem Early.made {i : Nat} {e : E} {q : Q} {a : A q} {k : A q → Prog Q A ε α}
    {trace : List (Event Q A E)} (h : Early answers allowed writes X i (.call q k) trace)
    (ha : answers q a) : Early answers allowed writes X i (k a) (⟨i, e, q, a⟩ :: trace) := by
  rcases h with h | ⟨hquiet, h⟩
  · exact .inl (h.2 a ha)
  · rcases h.2 a ha with h | ⟨hq, h⟩
    · exact .inl h
    · refine .inr ⟨fun ran hran hcaller => ?_, h⟩
      rcases List.mem_cons.mp hran with rfl | hran
      · exact hq
      · exact hquiet ran hran hcaller

/-- Another's query. -/
theorem Early.waited {i : Nat} {c : Prog Q A ε α} {trace : List (Event Q A E)} {ran : Event Q A E}
    (h : Early answers allowed writes X i c trace) (hne : ran.caller ≠ i) :
    Early answers allowed writes X i c (ran :: trace) := by
  rcases h with h | ⟨hquiet, h⟩
  · exact .inl h
  · refine .inr ⟨fun ran' hran hcaller => ?_, h⟩
    rcases List.mem_cons.mp hran with rfl | hran
    · exact absurd hcaller hne
    · exact hquiet ran' hran hcaller

/-- The error of a request that has ended with it says that it has written nothing. -/
theorem Early.quiet {i : Nat} {x : ε} {trace : List (Event Q A E)}
    (h : Early answers allowed writes X i (.fail x : Prog Q A ε α) trace) (hx : X x) :
    Quiet writes i trace := by
  rcases h with h | ⟨hquiet, -⟩
  · exact absurd hx h
  · exact hquiet

/-- What only writing queries can do, a request that has written nothing has not done. -/
theorem Quiet.not_did {M : Engine Q A σ E} {s : σ} {i : Nat} {P : Event Q A E → σ → σ → Prop}
    {trace : List (Event Q A E)} (h : Quiet writes i trace)
    (hP : ∀ ran w, ¬ writes ran.query → ¬ P ran w (M.exec ran.env ran.query w).2) :
    ¬ Did M s i P trace := by
  rintro ⟨later, ran, earlier, rfl, hcaller, hdid⟩
  exact hP ran _ (h ran (by simp) hcaller) hdid

/-- A property of the store that allowed queries keep, in the runs of programs that fail
early. -/
theorem Steps.failsEarly {I : Moment Q A σ E → Prop} {s : σ}
    (hans : ∀ i e q m, I m → S.admits i e q m → answers q (S.exec e q m.store).1)
    (hI : ∀ i e q m, I m → allowed q → S.admits i e q m → I (m.after S.toEngine i e q))
    (hspawn : ∀ r, S.accepts r → (S.spawn r).FailsEarly answers allowed writes X)
    (h : Steps S (.init s []) p) (hs : I ⟨s, []⟩) :
    I p.toMoment ∧ ∀ (i : Nat) (r : R) (c : Prog Q A ε α), p.calls[i]? = some (r, c) →
      Early answers allowed writes X i c p.trace := by
  have hnumbered : (Pool.init s [] : Pool Q A σ E R ε α).Numbered := by
    intro ran hran
    cases hran
  induction h with
  | refl =>
      refine ⟨hs, fun i r c hget => ?_⟩
      cases hget
  | tail hsteps hstep ih =>
      obtain ⟨hm, hearly⟩ := ih
      constructor
      · cases hstep with
        | start _ => exact hm
        | exec hc ha => exact hI _ _ _ _ hm (Early.query (hearly _ _ _ hc)) ha
      · intro i r c hget
        cases hstep.came hget with
        | stayed hold hm' => exact hm' ▸ hearly i r c hold
        | arrived hi ha hm' =>
            refine .inr ⟨fun ran hran hcaller => ?_, hspawn r ha⟩
            rw [hm'] at hran
            have hlt := hsteps.numbered hnumbered ran hran
            omega
        | made hold ha hm' => exact hm' ▸ Early.made (hearly i r _ hold) (hans _ _ _ _ hm ha)
        | waited hold hne _ hm' => exact hm' ▸ Early.waited (hearly i r c hold) hne

end Runs

end Atomic
