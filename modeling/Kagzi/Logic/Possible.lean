import Kagzi.Logic.Process

/-!
# What a program can do

`Sat` speaks about all the ways in which a program can be run among others.  `Prog.Can` is its
angelic counterpart: run by itself from a moment on, the program can be brought to an end that
satisfies the postcondition.  Its rules are those of a weakest precondition, and
`Prog.Can.steps` turns a judgement into a run of a service, in which a request arrives and is
handled while all the others wait.
-/

namespace Atomic

section Possible
variable {Q : Type} {A : Q → Type} {σ E R ε ε' α β : Type}

/-- As caller `i`, the program can return so that `P`, or fail so that `X`. -/
def Prog.Can (M : Engine Q A σ E) (i : Nat) (P : α → Moment Q A σ E → Prop)
    (X : ε → Moment Q A σ E → Prop) : Prog Q A ε α → Moment Q A σ E → Prop
  | .ret a, m => P a m
  | .fail x, m => X x m
  | .call q k, m =>
      ∃ e, M.admits i e q m ∧ (k (M.exec e q m.store).1).Can M i P X (m.after M i e q)

namespace Prog.Can

variable {M : Engine Q A σ E} {i : Nat} {m : Moment Q A σ E}
variable {P P' : α → Moment Q A σ E → Prop} {X X' : ε → Moment Q A σ E → Prop}

theorem mono {p : Prog Q A ε α} (h : p.Can M i P X m) (hP : ∀ a m, P a m → P' a m)
    (hX : ∀ x m, X x m → X' x m) : p.Can M i P' X' m := by
  induction p generalizing m with
  | ret a => exact hP a m h
  | fail x => exact hX x m h
  | call q k ih =>
      obtain ⟨e, ha, hk⟩ := h
      exact ⟨e, ha, ih _ hk⟩

theorem bind {p : Prog Q A ε α} {f : α → Prog Q A ε β} {R : β → Moment Q A σ E → Prop}
    (h : p.Can M i P X m) (hf : ∀ a m, P a m → (f a).Can M i R X m) :
    (p >>= f).Can M i R X m := by
  induction p generalizing m with
  | ret a => exact hf a m h
  | fail x => exact h
  | call q k ih =>
      obtain ⟨e, ha, hk⟩ := h
      exact ⟨e, ha, ih _ hk⟩

theorem mapError {g : ε → ε'} {p : Prog Q A ε α} {Y : ε' → Moment Q A σ E → Prop}
    (h : p.Can M i P X m) (hX : ∀ x m, X x m → Y (g x) m) : (p.mapError g).Can M i P Y m := by
  induction p generalizing m with
  | ret a => exact h
  | fail x => exact hX x m h
  | call q k ih =>
      obtain ⟨e, ha, hk⟩ := h
      exact ⟨e, ha, ih _ hk⟩

theorem attempt {p : Prog Q A ε α} {R : Except ε α → Moment Q A σ E → Prop}
    {Y : ε' → Moment Q A σ E → Prop} (h : p.Can M i P X m) (hP : ∀ a m, P a m → R (.ok a) m)
    (hX : ∀ x m, X x m → R (.error x) m) : p.attempt.Can M i R Y m := by
  induction p generalizing m with
  | ret a => exact hP a m h
  | fail x => exact hX x m h
  | call q k ih =>
      obtain ⟨e, ha, hk⟩ := h
      exact ⟨e, ha, ih _ hk⟩

/-- Any program can be brought to an end, whose queries can always be made and keep `K`. -/
theorem keeps {allowed : Q → Prop} {K : Moment Q A σ E → Prop} {p : Prog Q A ε α}
    (hp : p.Uses allowed)
    (hK : ∀ q m, allowed q → K m → ∃ e, M.admits i e q m ∧ K (m.after M i e q)) (hm : K m) :
    p.Can M i (fun _ => K) (fun _ => K) m := by
  induction p generalizing m with
  | ret a => exact hm
  | fail x => exact hm
  | call q k ih =>
      obtain ⟨e, ha, hm'⟩ := hK q m hp.1 hm
      exact ⟨e, ha, ih _ (hp.2 _) hm'⟩

end Prog.Can

/-- A call that has ended, and how. -/
inductive Ended (P : α → Prop) (X : ε → Prop) : Prog Q A ε α → Prop where
  | returned {a : α} : P a → Ended P X (.ret a)
  | failed {x : ε} : X x → Ended P X (.fail x)

theorem Ended.mono {P P' : α → Prop} {X X' : ε → Prop} {p : Prog Q A ε α} (h : Ended P X p)
    (hP : ∀ a, P a → P' a) (hX : ∀ x, X x → X' x) : Ended P' X' p := by
  cases h with
  | returned h => exact .returned (hP _ h)
  | failed h => exact .failed (hX _ h)

variable {S : Service Q A σ E R ε α} {P : α → Moment Q A σ E → Prop}
variable {X : ε → Moment Q A σ E → Prop}

/-- The last call of the pool runs to its end, and the others wait. -/
theorem Prog.Can.finish {m : Moment Q A σ E} {cs : List (R × Prog Q A ε α)} {r : R}
    {c : Prog Q A ε α} (h : c.Can S.toEngine cs.length P X m) :
    ∃ m' c', Steps S ⟨m, cs ++ [(r, c)]⟩ ⟨m', cs ++ [(r, c')]⟩ ∧
      Ended (fun a => P a m') (fun x => X x m') c' := by
  induction c generalizing m with
  | ret a => exact ⟨m, _, .refl, .returned h⟩
  | fail x => exact ⟨m, _, .refl, .failed h⟩
  | call q k ih =>
      obtain ⟨e, ha, hk⟩ := h
      obtain ⟨m', c', hsteps, hended⟩ := ih _ hk
      have hstep : Step S ⟨m, cs ++ [(r, .call q k)]⟩ _ :=
        .exec (i := cs.length) (r := r) (k := k) (by simp) ha
      have hset : (cs ++ [(r, Prog.call q k)]).set cs.length (r, k (S.exec e q m.store).1) =
          cs ++ [(r, k (S.exec e q m.store).1)] := by simp
      rw [hset] at hstep
      exact ⟨m', c', (Steps.single hstep).trans hsteps, hended⟩

/-- A request can arrive and be handled, and nothing else happens. -/
theorem Prog.Can.steps {p : Pool Q A σ E R ε α} {r : R} (hacc : S.accepts r)
    (h : (S.spawn r).Can S.toEngine p.calls.length P X p.toMoment) :
    ∃ m' c, Steps S p ⟨m', p.calls ++ [(r, c)]⟩ ∧ Ended (fun a => P a m') (fun x => X x m') c := by
  have harrived : Step S p ⟨p.toMoment, p.calls ++ [(r, S.spawn r)]⟩ := .start hacc
  obtain ⟨m', c, hsteps, hended⟩ := h.finish (S := S) (r := r)
  exact ⟨m', c, (Steps.single harrived).trans hsteps, hended⟩

end Possible

end Atomic
