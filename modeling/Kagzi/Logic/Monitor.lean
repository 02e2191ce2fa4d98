import Kagzi.Logic.Process

/-!
# Monitors

A monitor follows the queries of one request.  Its mode says how far the request has come,
and is read off the trace (`Monitor.mode`).  `Prog.Obeys` says of a program that it makes
only queries that its mode allows, whatever the answers are.  So in every run the rest of a
request obeys its monitor in the mode that the trace gives (`Steps.obeys`).

`Prog.translate` carries out the queries of a program by programs of other queries, and
`Prog.Obeys.translate` is the rule for it.
-/

namespace Atomic

/-! ## Other queries -/

section Translation
variable {Q Q' : Type} {A : Q → Type} {A' : Q' → Type} {ε ε' α β : Type}

/-- Carry out each query by a program of other queries. -/
def Prog.translate (f : (q : Q) → Prog Q' A' ε (A q)) : Prog Q A ε α → Prog Q' A' ε α
  | .ret a => .ret a
  | .fail x => .fail x
  | .call q k => f q >>= fun a => (k a).translate f

theorem Prog.Uses.translate {allowed : Q → Prop} {allowed' : Q' → Prop}
    {f : (q : Q) → Prog Q' A' ε (A q)} {p : Prog Q A ε α} (hp : p.Uses allowed)
    (hf : ∀ q, allowed q → (f q).Uses allowed') : (p.translate f).Uses allowed' := by
  induction p with
  | ret a => trivial
  | fail x => trivial
  | call q k ih => exact (hf q hp.1).bind fun a => ih a (hp.2 a)

end Translation

/-! ## Monitors -/

/-- The mode at the start, and what becomes of it with a query and its answer. -/
structure Monitor (Q : Type) (A : Q → Type) (D : Type) where
  init : D
  next : D → (q : Q) → A q → D

section Modes
variable {Q : Type} {A : Q → Type} {D E : Type}

/-- The mode of a caller after the queries of a trace. -/
def Monitor.mode (M : Monitor Q A D) (i : Nat) : List (Event Q A E) → D
  | [] => M.init
  | ran :: trace =>
      if ran.caller = i then M.next (M.mode i trace) ran.query ran.answer else M.mode i trace

variable (M : Monitor Q A D) {i : Nat}

theorem Monitor.mode_own {ran : Event Q A E} {trace : List (Event Q A E)} (h : ran.caller = i) :
    M.mode i (ran :: trace) = M.next (M.mode i trace) ran.query ran.answer :=
  if_pos h

theorem Monitor.mode_other {ran : Event Q A E} {trace : List (Event Q A E)} (h : ran.caller ≠ i) :
    M.mode i (ran :: trace) = M.mode i trace :=
  if_neg h

/-- A caller that has made no query is in the first mode. -/
theorem Monitor.mode_fresh {trace : List (Event Q A E)} (h : ∀ ran ∈ trace, ran.caller ≠ i) :
    M.mode i trace = M.init := by
  induction trace with
  | nil => rfl
  | cons ran trace ih =>
      rw [M.mode_other (h ran (List.mem_cons_self ..))]
      exact ih fun ran' h' => h ran' (List.mem_cons_of_mem _ h')

end Modes

/-! ## Programs that obey a monitor -/

section Obedience
variable {Q : Type} {A : Q → Type} {D ε ε' α β : Type}

/-- Started in a mode, the program makes only queries that are allowed in the mode it has
come to, and ends in a mode as `P` and `X` have it. -/
def Prog.Obeys (M : Monitor Q A D) (allowed : D → Q → Prop) :
    D → Prog Q A ε α → (α → D → Prop) → (ε → D → Prop) → Prop
  | d, .ret a, P, _ => P a d
  | d, .fail x, _, X => X x d
  | d, .call q k, P, X => allowed d q ∧ ∀ a, Obeys M allowed (M.next d q a) (k a) P X

variable {M : Monitor Q A D} {allowed : D → Q → Prop} {d : D}
variable {P P' : α → D → Prop} {X X' : ε → D → Prop}

namespace Prog.Obeys

theorem mono {p : Prog Q A ε α} (h : p.Obeys M allowed d P X) (hP : ∀ a d, P a d → P' a d)
    (hX : ∀ x d, X x d → X' x d) : p.Obeys M allowed d P' X' := by
  induction p generalizing d with
  | ret a => exact hP a d h
  | fail x => exact hX x d h
  | call q k ih => exact ⟨h.1, fun a => ih a (h.2 a)⟩

theorem bind {p : Prog Q A ε α} {f : α → Prog Q A ε β} {R : β → D → Prop}
    (hp : p.Obeys M allowed d P X) (hf : ∀ a d, P a d → (f a).Obeys M allowed d R X) :
    (p >>= f).Obeys M allowed d R X := by
  induction p generalizing d with
  | ret a => exact hf a d hp
  | fail x => exact hp
  | call q k ih => exact ⟨hp.1, fun a => ih a (hp.2 a)⟩

theorem mapError {g : ε → ε'} {p : Prog Q A ε α} {Y : ε' → D → Prop}
    (hp : p.Obeys M allowed d P X) (hX : ∀ x d, X x d → Y (g x) d) :
    (p.mapError g).Obeys M allowed d P Y := by
  induction p generalizing d with
  | ret a => exact hp
  | fail x => exact hX x d hp
  | call q k ih => exact ⟨hp.1, fun a => ih a (hp.2 a)⟩

theorem attempt {p : Prog Q A ε α} {R : Except ε α → D → Prop} {Y : ε' → D → Prop}
    (hp : p.Obeys M allowed d P X) (hP : ∀ a d, P a d → R (.ok a) d)
    (hX : ∀ x d, X x d → R (.error x) d) : p.attempt.Obeys M allowed d R Y := by
  induction p generalizing d with
  | ret a => exact hP a d hp
  | fail x => exact hX x d hp
  | call q k ih => exact ⟨hp.1, fun a => ih a (hp.2 a)⟩

theorem ofExcept {r : Except ε α} (hP : ∀ a, r = .ok a → P a d) (hX : ∀ x, r = .error x → X x d) :
    (Prog.ofExcept r).Obeys M allowed d P X := by
  cases r with
  | ok a => exact hP a rfl
  | error x => exact hX x rfl

/-- A program whose queries leave the mode alone. -/
theorem of_uses {ok : Q → Prop} {p : Prog Q A ε α} (hp : p.Uses ok)
    (hok : ∀ q, ok q → allowed d q ∧ ∀ a, M.next d q a = d) :
    p.Obeys M allowed d (fun _ d' => d' = d) (fun _ d' => d' = d) := by
  induction p with
  | ret a => rfl
  | fail x => rfl
  | call q k ih =>
      obtain ⟨hallowed, hnext⟩ := hok q hp.1
      refine ⟨hallowed, fun a => ?_⟩
      rw [hnext a]
      exact ih a (hp.2 a)

/-- The queries of the program are carried out by programs that do to the mode what the
queries do to the mode of another monitor. -/
theorem translate {Q' : Type} {A' : Q' → Type} {M' : Monitor Q' A' D} {allowed' : D → Q' → Prop}
    {f : (q : Q) → Prog Q' A' ε (A q)} {p : Prog Q A ε α} (hp : p.Obeys M allowed d P X)
    (hf : ∀ d q, allowed d q →
      (f q).Obeys M' allowed' d (fun a d' => d' = M.next d q a) (fun _ _ => False)) :
    (p.translate f).Obeys M' allowed' d P X := by
  induction p generalizing d with
  | ret a => exact hp
  | fail x => exact hp
  | call q k ih =>
      refine ((hf d q hp.1).mono (fun _ _ h => h) fun _ _ h => h.elim).bind ?_
      rintro a _ rfl
      exact ih a (hp.2 a)

end Prog.Obeys

/-- Whatever a request does next, its monitor allows. -/
theorem Steps.obeys {σ E R : Type} {S : Service Q A σ E R ε α} {p : Pool Q A σ E R ε α} {s : σ}
    {N : R → Monitor Q A D} {P : R → α → D → Prop} {X : R → ε → D → Prop}
    (hspawn : ∀ r, S.accepts r → (S.spawn r).Obeys (N r) allowed (N r).init (P r) (X r))
    (h : Steps S (.init s []) p) {i : Nat} {r : R} {c : Prog Q A ε α}
    (hget : p.calls[i]? = some (r, c)) :
    c.Obeys (N r) allowed ((N r).mode i p.trace) (P r) (X r) := by
  let C : Nat → R → Prog Q A ε α → Moment Q A σ E → Prop := fun i r c m =>
    c.Obeys (N r) allowed ((N r).mode i m.trace) (P r) (X r)
  refine h.calls_at (I := fun _ => True) (C := C) (fun _ _ _ _ _ _ => trivial) ?_ ?_ ?_ trivial
    (fun _ h => nomatch h) (fun _ _ _ h => nomatch h) i r c hget
  · intro i r m ha _ hfresh
    show (S.spawn r).Obeys (N r) allowed ((N r).mode i m.trace) (P r) (X r)
    rw [(N r).mode_fresh hfresh]
    exact hspawn r ha
  · intro i e r q k m _ hc _
    show (k _).Obeys (N r) allowed ((N r).mode i (_ :: m.trace)) (P r) (X r)
    rw [(N r).mode_own (i := i) rfl]
    exact hc.2 _
  · intro i j e r q c m _ hc hne _
    show c.Obeys (N r) allowed ((N r).mode i (_ :: m.trace)) (P r) (X r)
    rw [(N r).mode_other hne]
    exact hc

end Obedience

end Atomic
