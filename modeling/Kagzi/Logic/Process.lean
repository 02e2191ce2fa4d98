import Mathlib.Logic.Relation
import Mathlib.Data.List.Basic

/-!
# Programs of atomic queries

A server handles each request by a sequence of queries against one shared
store.  A query runs atomically, and between two queries of one request any
number of queries of other requests may run.  `Prog` is such a request handler,
`Engine` says what a query does, and a `Pool` is a store together with the
requests in progress and the trace of the queries made so far.  `Step` lets one
request run its next query, or a new request arrive.

*Interference.*  `Sat M Γ i K p P X` is a rely-guarantee judgement.  Started at
a moment where `K` holds, the program `p` of the caller `i` makes only queries
that satisfy the guarantee `Γ` when they run, returns only results that satisfy
`P` and fails only with errors that satisfy `X`, whatever the other callers do
in keeping with `Γ`.  What a program knows between two of its queries must be
stable under the queries of the others.  `Sat.bind` composes the judgement along
`Prog.bind`.

*Pools.*  If every request that may arrive satisfies its judgement, then every
run is a run in which all queries satisfy the guarantee (`Steps.sound`), and a
finished request has a result that satisfies its postcondition
(`Sound.result`).  `Steps.invariant` is the induction principle of runs.

*History.*  `Engine.replay` computes the store at any point of the past from the
trace, and `Replayed` says that it does so for the present.

*Conditions.*  `Engine.restrict` and `Service.restrict` keep only the runs whose
queries meet a condition on the moment they run at.

Nothing here knows what the store is or what the queries are.
-/

namespace Atomic

/-! ## Programs -/

/-- A program whose only effects are queries.  It returns, fails, or makes a
query and goes on with its answer. -/
inductive Prog (Q : Type) (A : Q → Type) (ε α : Type) : Type where
  | ret : α → Prog Q A ε α
  | fail : ε → Prog Q A ε α
  | call : (q : Q) → (A q → Prog Q A ε α) → Prog Q A ε α

namespace Prog

variable {Q : Type} {A : Q → Type} {ε ε' α β : Type}

/-- Sequencing.  A failure ends the program. -/
def bind : Prog Q A ε α → (α → Prog Q A ε β) → Prog Q A ε β
  | .ret a, f => f a
  | .fail x, _ => .fail x
  | .call q k, f => .call q fun a => (k a).bind f

instance : Monad (Prog Q A ε) where
  pure := .ret
  bind := Prog.bind

@[simp] theorem pure_eq (a : α) : (pure a : Prog Q A ε α) = .ret a := rfl

@[simp] theorem ret_bind (a : α) (f : α → Prog Q A ε β) : (Prog.ret a >>= f) = f a := rfl

@[simp] theorem fail_bind (x : ε) (f : α → Prog Q A ε β) : (Prog.fail x >>= f) = .fail x := rfl

@[simp] theorem call_bind (q : Q) (k : A q → Prog Q A ε α) (f : α → Prog Q A ε β) :
    (Prog.call q k >>= f) = .call q fun a => k a >>= f := rfl

theorem bind_assoc {γ : Type} (p : Prog Q A ε α) (f : α → Prog Q A ε β) (g : β → Prog Q A ε γ) :
    (p >>= f) >>= g = p >>= fun a => f a >>= g := by
  induction p with
  | ret a => rfl
  | fail x => rfl
  | call q k ih => exact congrArg (Prog.call q) (funext ih)

theorem bind_ret (p : Prog Q A ε α) : (p >>= fun a => .ret a) = p := by
  induction p with
  | ret a => rfl
  | fail x => rfl
  | call q k ih => exact congrArg (Prog.call q) (funext ih)

/-- A single query. -/
def query (q : Q) : Prog Q A ε (A q) := .call q .ret

/-- Return a result, or fail with an error, that is already there. -/
def ofExcept : Except ε α → Prog Q A ε α
  | .ok a => .ret a
  | .error x => .fail x

/-- Translate the errors of a program. -/
def mapError (g : ε → ε') : Prog Q A ε α → Prog Q A ε' α
  | .ret a => .ret a
  | .fail x => .fail (g x)
  | .call q k => .call q fun a => (k a).mapError g

theorem mapError_bind (g : ε → ε') (p : Prog Q A ε α) (f : α → Prog Q A ε β) :
    (p >>= f).mapError g = p.mapError g >>= fun a => (f a).mapError g := by
  induction p with
  | ret a => rfl
  | fail x => rfl
  | call q k ih => exact congrArg (Prog.call q) (funext ih)

theorem mapError_mapError {ε'' : Type} (g : ε → ε') (g' : ε' → ε'') (p : Prog Q A ε α) :
    (p.mapError g).mapError g' = p.mapError fun x => g' (g x) := by
  induction p with
  | ret a => rfl
  | fail x => rfl
  | call q k ih => exact congrArg (Prog.call q) (funext ih)

theorem mapError_id {g : ε → ε} (p : Prog Q A ε α) (hg : ∀ x, g x = x) : p.mapError g = p := by
  induction p with
  | ret a => rfl
  | fail x => exact congrArg Prog.fail (hg x)
  | call q k ih => exact congrArg (Prog.call q) (funext ih)

/-- Run a program and hand its result or its error to the caller. -/
def attempt : Prog Q A ε α → Prog Q A ε' (Except ε α)
  | .ret a => .ret (.ok a)
  | .fail x => .ret (.error x)
  | .call q k => .call q fun a => (k a).attempt

/-- Every query the program can make is allowed. -/
def Uses (allowed : Q → Prop) : Prog Q A ε α → Prop
  | .ret _ => True
  | .fail _ => True
  | .call q k => allowed q ∧ ∀ a, (k a).Uses allowed

section Uses
variable {allowed : Q → Prop}

@[simp] theorem uses_ret (a : α) : (Prog.ret a : Prog Q A ε α).Uses allowed := trivial

@[simp] theorem uses_fail (x : ε) : (Prog.fail x : Prog Q A ε α).Uses allowed := trivial

@[simp] theorem uses_query {q : Q} : (query q : Prog Q A ε (A q)).Uses allowed ↔ allowed q :=
  ⟨fun h => h.1, fun h => ⟨h, fun _ => trivial⟩⟩

theorem uses_ofExcept (r : Except ε α) : (ofExcept r : Prog Q A ε α).Uses allowed := by
  cases r <;> trivial

theorem Uses.bind {p : Prog Q A ε α} {f : α → Prog Q A ε β} (hp : p.Uses allowed)
    (hf : ∀ a, (f a).Uses allowed) : (p >>= f).Uses allowed := by
  induction p with
  | ret a => exact hf a
  | fail x => trivial
  | call q k ih => exact ⟨hp.1, fun a => ih a (hp.2 a)⟩

theorem Uses.mapError {g : ε → ε'} {p : Prog Q A ε α} (hp : p.Uses allowed) :
    (p.mapError g).Uses allowed := by
  induction p with
  | ret a => trivial
  | fail x => trivial
  | call q k ih => exact ⟨hp.1, fun a => ih a (hp.2 a)⟩

theorem Uses.attempt {p : Prog Q A ε α} (hp : p.Uses allowed) :
    (p.attempt : Prog Q A ε' (Except ε α)).Uses allowed := by
  induction p with
  | ret a => trivial
  | fail x => trivial
  | call q k ih => exact ⟨hp.1, fun a => ih a (hp.2 a)⟩

theorem Uses.mono {allowed' : Q → Prop} {p : Prog Q A ε α} (hp : p.Uses allowed)
    (h : ∀ q, allowed q → allowed' q) : p.Uses allowed' := by
  induction p with
  | ret a => trivial
  | fail x => trivial
  | call q k ih => exact ⟨h q hp.1, fun a => ih a (hp.2 a)⟩

theorem Uses.and {allowed' : Q → Prop} {p : Prog Q A ε α} (hp : p.Uses allowed) (hp' : p.Uses allowed') :
    p.Uses fun q => allowed q ∧ allowed' q := by
  induction p with
  | ret a => trivial
  | fail x => trivial
  | call q k ih => exact ⟨⟨hp.1, hp'.1⟩, fun a => ih a (hp.2 a) (hp'.2 a)⟩

end Uses

/-- With answers as `answers` has them, the program makes only allowed queries,
returns only results that satisfy `P` and fails only with errors that satisfy
`X`. -/
def Within (answers : (q : Q) → A q → Prop) (allowed : Q → Prop) (P : α → Prop) (X : ε → Prop) :
    Prog Q A ε α → Prop
  | .ret a => P a
  | .fail x => X x
  | .call q k => allowed q ∧ ∀ a, answers q a → (k a).Within answers allowed P X

section Within
variable {answers : (q : Q) → A q → Prop} {allowed : Q → Prop}
variable {P P' : α → Prop} {R : β → Prop} {X X' : ε → Prop} {Y : ε' → Prop}

theorem Within.bind {p : Prog Q A ε α} {f : α → Prog Q A ε β} (hp : p.Within answers allowed P X)
    (hf : ∀ a, P a → (f a).Within answers allowed R X) : (p >>= f).Within answers allowed R X := by
  induction p with
  | ret a => exact hf a hp
  | fail x => exact hp
  | call q k ih => exact ⟨hp.1, fun a ha => ih a (hp.2 a ha)⟩

theorem Within.mapError {g : ε → ε'} {p : Prog Q A ε α} (hp : p.Within answers allowed P X)
    (hX : ∀ x, X x → Y (g x)) : (p.mapError g).Within answers allowed P Y := by
  induction p with
  | ret a => exact hp
  | fail x => exact hX x hp
  | call q k ih => exact ⟨hp.1, fun a ha => ih a (hp.2 a ha)⟩

theorem Within.attempt {p : Prog Q A ε α} (hp : p.Within answers allowed P X) :
    (p.attempt : Prog Q A ε' (Except ε α)).Within answers allowed
      (fun r => match r with | .ok a => P a | .error x => X x) Y := by
  induction p with
  | ret a => exact hp
  | fail x => exact hp
  | call q k ih => exact ⟨hp.1, fun a ha => ih a (hp.2 a ha)⟩

theorem Within.mono {p : Prog Q A ε α} (hp : p.Within answers allowed P X)
    (hP : ∀ a, P a → P' a) (hX : ∀ x, X x → X' x) : p.Within answers allowed P' X' := by
  induction p with
  | ret a => exact hP a hp
  | fail x => exact hX x hp
  | call q k ih => exact ⟨hp.1, fun a ha => ih a (hp.2 a ha)⟩

theorem Uses.within {p : Prog Q A ε α} (hp : p.Uses allowed) :
    p.Within answers allowed (fun _ => True) (fun _ => True) := by
  induction p with
  | ret a => trivial
  | fail x => trivial
  | call q k ih => exact ⟨hp.1, fun a _ => ih a (hp.2 a)⟩

/-- Nothing is required. -/
theorem within_true (p : Prog Q A ε α) :
    p.Within answers (fun _ => True) (fun _ => True) (fun _ => True) := by
  induction p with
  | ret a => trivial
  | fail x => trivial
  | call q k ih => exact ⟨trivial, fun a _ => ih a⟩

theorem within_ofExcept {r : Except ε α} (hok : ∀ a, r = .ok a → P a)
    (herror : ∀ x, r = .error x → X x) :
    (ofExcept r : Prog Q A ε α).Within answers allowed P X := by
  cases r with
  | ok a => exact hok a rfl
  | error x => exact herror x rfl

end Within

end Prog

/-! ## Engines and the interference judgement -/

/-- A query that was run: by whom, with what supply, and what it answered. -/
structure Event (Q : Type) (A : Q → Type) (E : Type) where
  caller : Nat
  env : E
  query : Q
  answer : A query

/-- A store and the queries run so far, newest first. -/
structure Moment (Q : Type) (A : Q → Type) (σ E : Type) where
  store : σ
  trace : List (Event Q A E)

/-- A property of a query at the moment it runs: of its caller, its supply and
the moment before it. -/
abbrev Condition (Q : Type) (A : Q → Type) (σ E : Type) : Type :=
  Nat → E → Q → Moment Q A σ E → Prop

/-- What a query does.  `E` is what the environment supplies at that moment
(the clock, a fresh name, a fault), and `admits` says which supplies are
possible. -/
structure Engine (Q : Type) (A : Q → Type) (σ E : Type) where
  /-- Run a query. -/
  exec : E → (q : Q) → σ → A q × σ
  /-- The environment may supply this to the query at this moment. -/
  admits : Condition Q A σ E

section Engines
variable {Q : Type} {A : Q → Type} {σ E : Type}

/-- The same engine in an environment that meets one more condition. -/
def Engine.restrict (M : Engine Q A σ E) (C : Condition Q A σ E) : Engine Q A σ E :=
  { M with admits := fun i e q m => M.admits i e q m ∧ C i e q m }

@[simp] theorem Engine.restrict_exec (M : Engine Q A σ E) (C : Condition Q A σ E) :
    (M.restrict C).exec = M.exec := rfl

/-- The moment after a query. -/
def Moment.after (m : Moment Q A σ E) (M : Engine Q A σ E) (i : Nat) (e : E) (q : Q) :
    Moment Q A σ E :=
  ⟨(M.exec e q m.store).2, ⟨i, e, q, (M.exec e q m.store).1⟩ :: m.trace⟩

@[simp] theorem Moment.after_store (m : Moment Q A σ E) (M : Engine Q A σ E) (i : Nat) (e : E)
    (q : Q) : (m.after M i e q).store = (M.exec e q m.store).2 := rfl

@[simp] theorem Moment.after_trace (m : Moment Q A σ E) (M : Engine Q A σ E) (i : Nat) (e : E)
    (q : Q) : (m.after M i e q).trace = ⟨i, e, q, (M.exec e q m.store).1⟩ :: m.trace := rfl

/-- The store after the queries of a trace. -/
def Engine.replay (M : Engine Q A σ E) (s : σ) : List (Event Q A E) → σ
  | [] => s
  | ran :: trace => (M.exec ran.env ran.query (M.replay s trace)).2

/-- A property that the queries of the other callers cannot destroy. -/
def Stable (M : Engine Q A σ E) (Γ : Condition Q A σ E) (i : Nat)
    (K : Moment Q A σ E → Prop) : Prop :=
  ∀ j e q m, j ≠ i → K m → M.admits j e q m → Γ j e q m → K (m.after M j e q)

/-- A property that no query can destroy. -/
def Invariant (M : Engine Q A σ E) (K : Moment Q A σ E → Prop) : Prop :=
  ∀ i e q m, K m → M.admits i e q m → K (m.after M i e q)

variable {M : Engine Q A σ E} {Γ : Condition Q A σ E} {i : Nat}
variable {K L : Moment Q A σ E → Prop}

theorem Invariant.stable (h : Invariant (M.restrict Γ) K) : Stable M Γ i K :=
  fun j e q m _ hK ha hΓ => h j e q m hK ⟨ha, hΓ⟩

theorem Invariant.restrict {C : Condition Q A σ E} (h : Invariant M K) :
    Invariant (M.restrict C) K :=
  fun i e q m hK ha => h i e q m hK ha.1

/-- The store is what the queries so far have made of the store `s`. -/
def Replayed (M : Engine Q A σ E) (s : σ) (m : Moment Q A σ E) : Prop :=
  m.store = M.replay s m.trace

theorem replayed_invariant (M N : Engine Q A σ E) (hexec : N.exec = M.exec) (s : σ) :
    Invariant N (Replayed M s) := by
  intro i e q m hm _
  show (N.exec e q m.store).2 = (M.exec e q (M.replay s m.trace)).2
  rw [hexec, show m.store = M.replay s m.trace from hm]

theorem Engine.restrict_replay (M : Engine Q A σ E) (C : Condition Q A σ E) (s : σ)
    (trace : List (Event Q A E)) : (M.restrict C).replay s trace = M.replay s trace := by
  induction trace with
  | nil => rfl
  | cons ran trace ih => exact congrArg (fun s => (M.exec ran.env ran.query s).2) ih

/-- The query ran at the moment that the queries before it had led to, when the
environment could supply what it got, and was answered what the engine answers. -/
def RanAt (M : Engine Q A σ E) (s : σ) (ran : Event Q A E) (earlier : List (Event Q A E)) : Prop :=
  M.admits ran.caller ran.env ran.query ⟨M.replay s earlier, earlier⟩ ∧
    ran.answer = (M.exec ran.env ran.query (M.replay s earlier)).1

theorem RanAt.of_restrict {C : Condition Q A σ E} {s : σ} {ran : Event Q A E}
    {earlier : List (Event Q A E)} (h : RanAt (M.restrict C) s ran earlier) :
    RanAt M s ran earlier ∧ C ran.caller ran.env ran.query ⟨M.replay s earlier, earlier⟩ := by
  unfold RanAt at h
  rw [Engine.restrict_replay] at h
  exact ⟨⟨h.1.1, h.2⟩, h.1.2⟩

/-- The store is the one that the trace leads to, and every query of the trace ran
where it stands. -/
def Recalled (M : Engine Q A σ E) (s : σ) (m : Moment Q A σ E) : Prop :=
  Replayed M s m ∧ ∀ later ran earlier, m.trace = later ++ ran :: earlier → RanAt M s ran earlier

theorem recalled_invariant (M : Engine Q A σ E) (s : σ) : Invariant M (Recalled M s) := by
  intro i e q m hm ha
  refine ⟨replayed_invariant M M rfl s i e q m hm.1 ha, fun later ran earlier htrace => ?_⟩
  cases later with
  | nil =>
      obtain ⟨rfl, rfl⟩ := List.cons.inj htrace
      unfold RanAt
      rw [← show m.store = M.replay s m.trace from hm.1]
      exact ⟨ha, rfl⟩
  | cons _ later => exact hm.2 later ran earlier (List.cons.inj htrace).2

theorem recalled_nil (M : Engine Q A σ E) (s : σ) : Recalled M s ⟨s, []⟩ :=
  ⟨rfl, fun later ran earlier h => by
    have hnil : [] = later ++ ran :: earlier := h
    simp at hnil⟩

/-- A query of the caller satisfies `P`, of itself and the stores before and after
it.  `s` is the store at the start. -/
def Did (M : Engine Q A σ E) (s : σ) (i : Nat) (P : Event Q A E → σ → σ → Prop)
    (trace : List (Event Q A E)) : Prop :=
  ∃ later ran earlier, trace = later ++ ran :: earlier ∧ ran.caller = i ∧
    P ran (M.replay s earlier) (M.replay s (ran :: earlier))

section Did
variable {N : Engine Q A σ E} {s : σ} {P P' : Event Q A E → σ → σ → Prop}

theorem did_invariant : Invariant N fun m => Did M s i P m.trace := by
  rintro j e q m ⟨later, ran, earlier, htrace, h⟩ -
  exact ⟨_ :: later, ran, earlier, congrArg (List.cons _) htrace, h⟩

theorem Did.mono {trace : List (Event Q A E)} (h : Did M s i P trace)
    (hP : ∀ ran before after, P ran before after → P' ran before after) : Did M s i P' trace := by
  obtain ⟨later, ran, earlier, htrace, hcaller, h⟩ := h
  exact ⟨later, ran, earlier, htrace, hcaller, hP _ _ _ h⟩

/-- A query satisfies the property if the newest does or an earlier one does. -/
theorem did_cons {ran : Event Q A E} {trace : List (Event Q A E)} (h : Did M s i P (ran :: trace)) :
    ran.caller = i ∧ P ran (M.replay s trace) (M.replay s (ran :: trace)) ∨ Did M s i P trace := by
  obtain ⟨later, ran', earlier, htrace, hcaller, h⟩ := h
  cases later with
  | nil =>
      obtain ⟨rfl, rfl⟩ := List.cons.inj htrace
      exact .inl ⟨hcaller, h⟩
  | cons _ later => exact .inr ⟨later, ran', earlier, (List.cons.inj htrace).2, hcaller, h⟩

/-- What the caller has not done it has not done after a query that is another's, or
that does not satisfy the property. -/
theorem Replayed.not_did {j : Nat} {e : E} {q : Q} {m : Moment Q A σ E} (hm : Replayed M s m)
    (h : ¬ Did M s i P m.trace)
    (hq : j = i → ¬ P ⟨j, e, q, (M.exec e q m.store).1⟩ m.store (M.exec e q m.store).2) :
    ¬ Did M s i P (m.after M j e q).trace := by
  intro hdid
  rcases did_cons hdid with ⟨hcaller, hP⟩ | hdid
  · refine hq hcaller ?_
    rwa [Engine.replay, ← show m.store = M.replay s m.trace from hm] at hP
  · exact h hdid

/-- The query the caller has just made. -/
theorem Replayed.did {e : E} {q : Q} {m : Moment Q A σ E} (hm : Replayed M s m)
    (h : P ⟨i, e, q, (M.exec e q m.store).1⟩ m.store (M.exec e q m.store).2) :
    Did M s i P (m.after M i e q).trace := by
  refine ⟨[], _, m.trace, rfl, rfl, ?_⟩
  show P _ (M.replay s m.trace) (M.exec e q (M.replay s m.trace)).2
  rwa [← show m.store = M.replay s m.trace from hm]

end Did

/-- What the caller has not done, the others do not do for it. -/
theorem stable_not_did {N : Engine Q A σ E} {s : σ} {P : Event Q A E → σ → σ → Prop} :
    Stable N Γ i fun m => ¬ Did M s i P m.trace := by
  intro j e q m hj h _ _ hdid
  rcases did_cons hdid with ⟨hcaller, -⟩ | hdid
  · exact hj hcaller
  · exact h hdid

theorem Stable.restrict {C : Condition Q A σ E} (h : Stable M Γ i K) :
    Stable (M.restrict C) Γ i K :=
  fun j e q m hj hK ha hΓ => h j e q m hj hK ha.1 hΓ

theorem stable_true : Stable M Γ i fun _ => True :=
  fun _ _ _ _ _ _ _ _ => trivial

theorem Stable.and (hK : Stable M Γ i K) (hL : Stable M Γ i L) :
    Stable M Γ i fun m => K m ∧ L m :=
  fun j e q m hj h ha hΓ => ⟨hK j e q m hj h.1 ha hΓ, hL j e q m hj h.2 ha hΓ⟩

theorem Stable.forall {ι : Type} {K : ι → Moment Q A σ E → Prop}
    (hK : ∀ x, Stable M Γ i (K x)) : Stable M Γ i fun m => ∀ x, K x m :=
  fun j e q m hj h ha hΓ x => hK x j e q m hj (h x) ha hΓ

theorem Stable.imp {p : Prop} (hK : p → Stable M Γ i K) : Stable M Γ i fun m => p → K m :=
  fun j e q m hj h ha hΓ hp => hK hp j e q m hj (h hp) ha hΓ

theorem stable_const {p : Prop} : Stable M Γ i fun _ => p :=
  fun _ _ _ _ _ h _ _ => h

end Engines

section Judgement
variable {Q : Type} {A : Q → Type} {σ E ε ε' α β : Type}

/-- The rely-guarantee judgement. -/
def Sat (M : Engine Q A σ E) (Γ : Condition Q A σ E) (i : Nat) :
    (Moment Q A σ E → Prop) → Prog Q A ε α → (α → Moment Q A σ E → Prop) →
      (ε → Moment Q A σ E → Prop) → Prop
  | K, .ret a, P, _ => ∀ m, K m → P a m
  | K, .fail x, _, X => ∀ m, K m → X x m
  | K, .call q k, P, X => ∀ e m, K m → M.admits i e q m →
      Γ i e q m ∧ ∃ K', Stable M Γ i K' ∧ K' (m.after M i e q) ∧
        Sat M Γ i K' (k (M.exec e q m.store).1) P X

variable {M : Engine Q A σ E} {Γ : Condition Q A σ E} {i : Nat}
variable {K K' : Moment Q A σ E → Prop}
variable {P P' : α → Moment Q A σ E → Prop} {X X' : ε → Moment Q A σ E → Prop}

/-- A stronger start and weaker ends. -/
theorem Sat.mono {p : Prog Q A ε α} (h : Sat M Γ i K p P X) (hK : ∀ m, K' m → K m)
    (hP : ∀ a m, P a m → P' a m) (hX : ∀ x m, X x m → X' x m) : Sat M Γ i K' p P' X' := by
  induction p generalizing K K' with
  | ret a => exact fun m hm => hP a m (h m (hK m hm))
  | fail x => exact fun m hm => hX x m (h m (hK m hm))
  | call q k ih =>
      intro e m hm ha
      obtain ⟨hΓ, L, hL, hLm, hk⟩ := h e m (hK m hm) ha
      exact ⟨hΓ, L, hL, hLm, ih _ hk (fun _ hm => hm)⟩

/-- Only the start is strengthened. -/
theorem Sat.start {p : Prog Q A ε α} (h : Sat M Γ i K p P X) (hK : ∀ m, K' m → K m) :
    Sat M Γ i K' p P X :=
  h.mono hK (fun _ _ h => h) (fun _ _ h => h)

theorem Sat.bind {p : Prog Q A ε α} {f : α → Prog Q A ε β}
    {R : β → Moment Q A σ E → Prop} (hp : Sat M Γ i K p P X)
    (hf : ∀ a, Sat M Γ i (P a) (f a) R X) : Sat M Γ i K (p >>= f) R X := by
  induction p generalizing K with
  | ret a => exact (hf a).start hp
  | fail x => exact hp
  | call q k ih =>
      intro e m hm ha
      obtain ⟨hΓ, L, hL, hLm, hk⟩ := hp e m hm ha
      exact ⟨hΓ, L, hL, hLm, ih _ hk⟩

theorem Sat.mapError {g : ε → ε'} {p : Prog Q A ε α} {Y : ε' → Moment Q A σ E → Prop}
    (hp : Sat M Γ i K p P X) (hX : ∀ x m, X x m → Y (g x) m) :
    Sat M Γ i K (p.mapError g) P Y := by
  induction p generalizing K with
  | ret a => exact hp
  | fail x => exact fun m hm => hX x m (hp m hm)
  | call q k ih =>
      intro e m hm ha
      obtain ⟨hΓ, L, hL, hLm, hk⟩ := hp e m hm ha
      exact ⟨hΓ, L, hL, hLm, ih _ hk⟩

theorem Sat.of_mapError {g : ε → ε'} {p : Prog Q A ε α} {Y : ε' → Moment Q A σ E → Prop}
    (hp : Sat M Γ i K (p.mapError g) P Y) : Sat M Γ i K p P fun x => Y (g x) := by
  induction p generalizing K with
  | ret a => exact hp
  | fail x => exact hp
  | call q k ih =>
      intro e m hm ha
      obtain ⟨hΓ, L, hL, hLm, hk⟩ := hp e m hm ha
      exact ⟨hΓ, L, hL, hLm, ih _ hk⟩

theorem Sat.attempt {p : Prog Q A ε α} {R : Except ε α → Moment Q A σ E → Prop}
    {Y : ε' → Moment Q A σ E → Prop} (hp : Sat M Γ i K p P X)
    (hP : ∀ a m, P a m → R (.ok a) m) (hX : ∀ x m, X x m → R (.error x) m) :
    Sat M Γ i K p.attempt R Y := by
  induction p generalizing K with
  | ret a => exact fun m hm => hP a m (hp m hm)
  | fail x => exact fun m hm => hX x m (hp m hm)
  | call q k ih =>
      intro e m hm ha
      obtain ⟨hΓ, L, hL, hLm, hk⟩ := hp e m hm ha
      exact ⟨hΓ, L, hL, hLm, ih _ hk⟩

/-- What no query destroys may be assumed throughout. -/
theorem Sat.frame {L : Moment Q A σ E → Prop} {p : Prog Q A ε α} (hL : Invariant (M.restrict Γ) L)
    (h : Sat M Γ i K p P X) :
    Sat M Γ i (fun m => K m ∧ L m) p (fun a m => P a m ∧ L m) (fun x m => X x m ∧ L m) := by
  induction p generalizing K with
  | ret a => exact fun m hm => ⟨h m hm.1, hm.2⟩
  | fail x => exact fun m hm => ⟨h m hm.1, hm.2⟩
  | call q k ih =>
      intro e m hm ha
      obtain ⟨hΓ, K', hK', hKm', hk⟩ := h e m hm.1 ha
      exact ⟨hΓ, _, hK'.and hL.stable, ⟨hKm', hL i e q m hm.2 ⟨ha, hΓ⟩⟩, ih _ hk⟩

/-- An assumption that no query destroys holds at the end, too. -/
theorem Sat.keep {p : Prog Q A ε α} (hK : Invariant (M.restrict Γ) K) (h : Sat M Γ i K p P X) :
    Sat M Γ i K p (fun a m => P a m ∧ K m) (fun x m => X x m ∧ K m) :=
  (h.frame hK).start fun _ hm => ⟨hm, hm⟩

/-- Two judgements of one program. -/
theorem Sat.and {Γ' : Condition Q A σ E} {L : Moment Q A σ E → Prop} {p : Prog Q A ε α}
    {R : α → Moment Q A σ E → Prop} {Y : ε → Moment Q A σ E → Prop} (h : Sat M Γ i K p P X)
    (h' : Sat M Γ' i L p R Y) :
    Sat M (fun j e q m => Γ j e q m ∧ Γ' j e q m) i (fun m => K m ∧ L m) p
      (fun a m => P a m ∧ R a m) (fun x m => X x m ∧ Y x m) := by
  induction p generalizing K L with
  | ret a => exact fun m hm => ⟨h m hm.1, h' m hm.2⟩
  | fail x => exact fun m hm => ⟨h m hm.1, h' m hm.2⟩
  | call q k ih =>
      intro e m hm ha
      obtain ⟨hΓ, K', hK', hKm', hk⟩ := h e m hm.1 ha
      obtain ⟨hΓ', L', hL', hLm', hl⟩ := h' e m hm.2 ha
      have hstable : Stable M (fun j e q m => Γ j e q m ∧ Γ' j e q m) i fun m => K' m ∧ L' m :=
        fun j e q m hj hm ha hq => ⟨hK' j e q m hj hm.1 ha hq.1, hL' j e q m hj hm.2 ha hq.2⟩
      exact ⟨⟨hΓ, hΓ'⟩, _, hstable, ⟨hKm', hLm'⟩, ih _ hk hl⟩

/-- A judgement holds in an environment that meets one more condition. -/
theorem Sat.restrict {C : Condition Q A σ E} {p : Prog Q A ε α} (h : Sat M Γ i K p P X) :
    Sat (M.restrict C) Γ i K p P X := by
  induction p generalizing K with
  | ret a => exact h
  | fail x => exact h
  | call q k ih =>
      intro e m hm ha
      obtain ⟨hΓ, L, hL, hLm, hk⟩ := h e m hm ha.1
      exact ⟨hΓ, L, hL.restrict, hLm, ih _ hk⟩

/-- A fact about no moment in particular. -/
theorem Sat.of_fact {φ : Prop} {p : Prog Q A ε α} (h : φ → Sat M Γ i K p P X) :
    Sat M Γ i (fun m => φ ∧ K m) p P X := by
  cases p with
  | ret a => exact fun m hm => h hm.1 m hm.2
  | fail x => exact fun m hm => h hm.1 m hm.2
  | call q k => exact fun e m hm ha => h hm.1 e m hm.2 ha

/-- A start that names a value. -/
theorem Sat.of_exists {ι : Type} {K : ι → Moment Q A σ E → Prop} {p : Prog Q A ε α}
    (h : ∀ x, Sat M Γ i (K x) p P X) : Sat M Γ i (fun m => ∃ x, K x m) p P X := by
  cases p with
  | ret a => exact fun m ⟨x, hm⟩ => h x m hm
  | fail y => exact fun m ⟨x, hm⟩ => h x m hm
  | call q k => exact fun e m ⟨x, hm⟩ ha => h x e m hm ha

/-- Two possible starts. -/
theorem Sat.or {L : Moment Q A σ E → Prop} {p : Prog Q A ε α} (h : Sat M Γ i K p P X)
    (h' : Sat M Γ i L p P X) : Sat M Γ i (fun m => K m ∨ L m) p P X := by
  cases p with
  | ret a => exact fun m hm => hm.elim (h m) (h' m)
  | fail x => exact fun m hm => hm.elim (h m) (h' m)
  | call q k => exact fun e m hm ha => hm.elim (fun hm => h e m hm ha) fun hm => h' e m hm ha

/-- Where every query satisfies the guarantee, any program keeps what no query
destroys. -/
theorem Sat.of_invariant {p : Prog Q A ε α} (hΓ : ∀ e q m, Γ i e q m)
    (hK : Invariant (M.restrict Γ) K) : Sat M Γ i K p (fun _ => K) (fun _ => K) := by
  induction p with
  | ret a => exact fun _ h => h
  | fail x => exact fun _ h => h
  | call q k ih =>
      intro e m hm ha
      exact ⟨hΓ e q m, K, hK.stable, hK i e q m hm ⟨ha, hΓ e q m⟩, ih _⟩

/-- A result that is already there. -/
theorem Sat.ofExcept_bind {r : Except ε α} {f : α → Prog Q A ε β} {R : β → Moment Q A σ E → Prop}
    (hok : ∀ a, r = .ok a → Sat M Γ i K (f a) R X) (herror : ∀ x m, K m → X x m) :
    Sat M Γ i K (Prog.ofExcept r >>= f) R X := by
  cases r with
  | ok a => exact hok a rfl
  | error x => exact herror x

theorem Sat.ret {a : α} (h : ∀ m, K m → P a m) :
    Sat M Γ i K (.ret a : Prog Q A ε α) P X := h

theorem Sat.fail {x : ε} (h : ∀ m, K m → X x m) :
    Sat M Γ i K (.fail x : Prog Q A ε α) P X := h

/-- A query, and what is known when it has been answered. -/
theorem Sat.query_bind {q : Q} {f : A q → Prog Q A ε β} {R : β → Moment Q A σ E → Prop}
    {L : A q → Moment Q A σ E → Prop} (hL : ∀ a, Stable M Γ i (L a))
    (h : ∀ e m, K m → M.admits i e q m →
      Γ i e q m ∧ L (M.exec e q m.store).1 (m.after M i e q))
    (hf : ∀ a, Sat M Γ i (L a) (f a) R X) : Sat M Γ i K (Prog.query q >>= f) R X := by
  intro e m hm ha
  obtain ⟨hΓ, hLm⟩ := h e m hm ha
  exact ⟨hΓ, _, hL _, hLm, hf _⟩

/-- A program that makes only queries that satisfy the guarantee at any moment
where the stable property `K` holds, with what is known of its results. -/
theorem Sat.of_within {allowed : Q → Prop} {P : α → Prop} {X : ε → Prop} {p : Prog Q A ε α}
    (hp : p.Within (fun _ _ => True) allowed P X) (hK : Stable M Γ i K)
    (hΓ : ∀ e q m, allowed q → K m → M.admits i e q m → Γ i e q m ∧ K (m.after M i e q)) :
    Sat M Γ i K p (fun a m => P a ∧ K m) (fun x m => X x ∧ K m) := by
  induction p with
  | ret a => exact fun _ h => ⟨hp, h⟩
  | fail x => exact fun _ h => ⟨hp, h⟩
  | call q k ih =>
      intro e m hm ha
      obtain ⟨hΓm, hK'⟩ := hΓ e q m hp.1 hm ha
      exact ⟨hΓm, K, hK, hK', ih _ (hp.2 _ trivial)⟩

/-- The same, where nothing is asked of the results. -/
theorem Sat.of_uses {allowed : Q → Prop} {p : Prog Q A ε α} (hp : p.Uses allowed)
    (hK : Stable M Γ i K)
    (hΓ : ∀ e q m, allowed q → K m → M.admits i e q m → Γ i e q m ∧ K (m.after M i e q)) :
    Sat M Γ i K p (fun _ => K) (fun _ => K) :=
  (Sat.of_within hp.within hK hΓ).mono (fun _ h => h) (fun _ _ h => h.2) (fun _ _ h => h.2)

end Judgement

/-! ## Pools of requests in progress -/

/-- The programs a service runs: one for each request, for the requests it
accepts. -/
structure Service (Q : Type) (A : Q → Type) (σ E R ε α : Type) extends Engine Q A σ E where
  /-- The program that handles a request. -/
  spawn : R → Prog Q A ε α
  /-- The requests that may arrive. -/
  accepts : R → Prop

/-- The service in an environment that meets one more condition. -/
def Service.restrict {Q : Type} {A : Q → Type} {σ E R ε α : Type} (S : Service Q A σ E R ε α)
    (C : Condition Q A σ E) : Service Q A σ E R ε α :=
  { S with toEngine := S.toEngine.restrict C }

/-- The moment and the requests in progress, oldest first. -/
structure Pool (Q : Type) (A : Q → Type) (σ E R ε α : Type) extends Moment Q A σ E where
  /-- Each request with the rest of its program. -/
  calls : List (R × Prog Q A ε α)

section Runs
variable {Q : Type} {A : Q → Type} {σ E R ε α : Type}

/-- The request number `i` and its result, if it has returned one. -/
def Pool.returned (p : Pool Q A σ E R ε α) (i : Nat) : Option (R × α) :=
  match p.calls[i]? with
  | some (r, .ret a) => some (r, a)
  | _ => none

theorem Pool.calls_of_returned {p : Pool Q A σ E R ε α} {i : Nat} {r : R} {a : α}
    (h : p.returned i = some (r, a)) : p.calls[i]? = some (r, .ret a) := by
  unfold Pool.returned at h
  split at h
  next hget =>
    obtain ⟨rfl, rfl⟩ := Prod.mk.inj (Option.some.inj h)
    exact hget
  next => cases h

/-- The request number `i` and its error, if it has failed. -/
def Pool.failed (p : Pool Q A σ E R ε α) (i : Nat) : Option (R × ε) :=
  match p.calls[i]? with
  | some (r, .fail x) => some (r, x)
  | _ => none

theorem Pool.calls_of_failed {p : Pool Q A σ E R ε α} {i : Nat} {r : R} {x : ε}
    (h : p.failed i = some (r, x)) : p.calls[i]? = some (r, .fail x) := by
  unfold Pool.failed at h
  split at h
  next hget =>
    obtain ⟨rfl, rfl⟩ := Prod.mk.inj (Option.some.inj h)
    exact hget
  next => cases h

/-- A pool in which nothing has run yet. -/
def Pool.init (s : σ) (cs : List (R × Prog Q A ε α)) : Pool Q A σ E R ε α := ⟨⟨s, []⟩, cs⟩

/-- One step: a request arrives, or the request number `i` runs its next query.
A request that is never chosen again has crashed. -/
inductive Step (S : Service Q A σ E R ε α) :
    Pool Q A σ E R ε α → Pool Q A σ E R ε α → Prop where
  | start {m : Moment Q A σ E} {cs : List (R × Prog Q A ε α)} {r : R} :
      S.accepts r →
      Step S ⟨m, cs⟩ ⟨m, cs ++ [(r, S.spawn r)]⟩
  | exec {m : Moment Q A σ E} {cs : List (R × Prog Q A ε α)} {i : Nat} {e : E} {r : R} {q : Q}
      {k : A q → Prog Q A ε α} :
      cs[i]? = some (r, .call q k) →
      S.admits i e q m →
      Step S ⟨m, cs⟩ ⟨m.after S.toEngine i e q, cs.set i (r, k (S.exec e q m.store).1)⟩

/-- A run. -/
inductive Steps (S : Service Q A σ E R ε α) :
    Pool Q A σ E R ε α → Pool Q A σ E R ε α → Prop where
  | refl {p : Pool Q A σ E R ε α} : Steps S p p
  | tail {p p' p'' : Pool Q A σ E R ε α} : Steps S p p' → Step S p' p'' → Steps S p p''

theorem Steps.trans {S : Service Q A σ E R ε α} {p p' p'' : Pool Q A σ E R ε α}
    (h : Steps S p p') (h' : Steps S p' p'') : Steps S p p'' := by
  induction h' with
  | refl => exact h
  | tail _ hstep ih => exact ih.tail hstep

theorem Steps.single {S : Service Q A σ E R ε α} {p p' : Pool Q A σ E R ε α}
    (h : Step S p p') : Steps S p p' :=
  Steps.refl.tail h

variable {S : Service Q A σ E R ε α} {p p' : Pool Q A σ E R ε α}

/-- A restricted service makes only steps the service makes. -/
theorem Step.of_restrict {C : Condition Q A σ E} (h : Step (S.restrict C) p p') :
    Step S p p' := by
  cases h with
  | start ha => exact .start ha
  | exec hc ha => exact .exec hc ha.1

theorem Steps.of_restrict {C : Condition Q A σ E} (h : Steps (S.restrict C) p p') :
    Steps S p p' := by
  induction h with
  | refl => exact .refl
  | tail _ hstep ih => exact ih.tail hstep.of_restrict

/-- A run that meets a condition meets every weaker one. -/
theorem Steps.restrict_mono {C C' : Condition Q A σ E} (h : Steps (S.restrict C) p p')
    (hC : ∀ i e q m, C i e q m → C' i e q m) : Steps (S.restrict C') p p' := by
  induction h with
  | refl => exact .refl
  | tail _ hstep ih =>
      refine ih.tail ?_
      cases hstep with
      | start ha => exact .start ha
      | exec hc ha => exact .exec hc ⟨ha.1, hC _ _ _ _ ha.2⟩

/-- What no query destroys holds along a run. -/
theorem Steps.invariant {I : Moment Q A σ E → Prop} (hI : Invariant S.toEngine I)
    (h : Steps S p p') (hp : I p.toMoment) : I p'.toMoment := by
  induction h with
  | refl => exact hp
  | tail _ hstep ih =>
      cases hstep with
      | start _ => exact ih
      | exec _ ha => exact hI _ _ _ _ ih ha

/-- What is known of the past of a run. -/
theorem Steps.recalled {s : σ} (h : Steps S (.init s []) p) : Recalled S.toEngine s p.toMoment :=
  h.invariant (recalled_invariant S.toEngine s) (recalled_nil S.toEngine s)

theorem Steps.recalled_restrict {C : Condition Q A σ E} {s : σ}
    (h : Steps (S.restrict C) (.init s []) p) {later earlier : List (Event Q A E)} {ran : Event Q A E}
    (htrace : p.trace = later ++ ran :: earlier) :
    RanAt S.toEngine s ran earlier ∧
      C ran.caller ran.env ran.query ⟨S.replay s earlier, earlier⟩ :=
  (h.recalled.2 later ran earlier htrace).of_restrict

/-- The trace grows at its front. -/
theorem Steps.exists_later (h : Steps S p p') : ∃ later, p'.trace = later ++ p.trace := by
  induction h with
  | refl => exact ⟨[], rfl⟩
  | tail _ hstep ih =>
      obtain ⟨later, htrace⟩ := ih
      cases hstep with
      | start _ => exact ⟨later, htrace⟩
      | exec _ _ => exact ⟨_ :: later, congrArg (List.cons _) htrace⟩

/-- Requests stay in the pool, under the number they arrived with. -/
theorem Step.length_le (h : Step S p p') : p.calls.length ≤ p'.calls.length := by
  cases h with
  | start _ => simp
  | exec _ _ => simp

/-- Where a request of a pool comes from when a step has led to the moment `m'`. -/
inductive Came (S : Service Q A σ E R ε α) (p : Pool Q A σ E R ε α) (m' : Moment Q A σ E)
    (i : Nat) (r : R) : Prog Q A ε α → Prop where
  /-- Another request has arrived. -/
  | stayed {c : Prog Q A ε α} : p.calls[i]? = some (r, c) → m' = p.toMoment → Came S p m' i r c
  /-- It has arrived. -/
  | arrived : i = p.calls.length → S.accepts r → m' = p.toMoment → Came S p m' i r (S.spawn r)
  /-- It has made a query. -/
  | made {e : E} {q : Q} {k : A q → Prog Q A ε α} :
      p.calls[i]? = some (r, .call q k) → S.admits i e q p.toMoment →
      m' = p.toMoment.after S.toEngine i e q → Came S p m' i r (k (S.exec e q p.store).1)
  /-- Another request has made a query. -/
  | waited {j : Nat} {e : E} {q : Q} {c : Prog Q A ε α} :
      p.calls[i]? = some (r, c) → j ≠ i → S.admits j e q p.toMoment →
      m' = p.toMoment.after S.toEngine j e q → Came S p m' i r c

theorem Step.came (h : Step S p p') {i : Nat} {r : R} {c : Prog Q A ε α}
    (hget : p'.calls[i]? = some (r, c)) : Came S p p'.toMoment i r c := by
  cases h with
  | @start m cs r' ha =>
      rw [List.getElem?_append] at hget
      split at hget
      next => exact .stayed hget rfl
      next hlt =>
        rw [List.getElem?_singleton] at hget
        split at hget
        next hi =>
          obtain ⟨rfl, rfl⟩ := Prod.mk.inj (Option.some.inj hget)
          have hle : cs.length ≤ i := Nat.le_of_not_lt hlt
          exact .arrived (Nat.le_antisymm (Nat.sub_eq_zero_iff_le.mp hi) hle) ha rfl
        next => cases hget
  | @exec m cs j e r' q k hc ha =>
      rw [List.getElem?_set] at hget
      split at hget
      next heq =>
        subst heq
        split at hget
        next =>
          obtain ⟨rfl, rfl⟩ := Prod.mk.inj (Option.some.inj hget)
          exact .made hc ha rfl
        next => cases hget
      next hne => exact .waited hget hne ha rfl

/-- A request stays in the pool under its number. -/
theorem Step.stays (h : Step S p p') {i : Nat} {r : R} {c : Prog Q A ε α}
    (hget : p.calls[i]? = some (r, c)) : ∃ c', p'.calls[i]? = some (r, c') := by
  cases h with
  | start _ => exact ⟨c, by rw [List.getElem?_append_left (List.getElem?_eq_some_iff.mp hget).1, hget]⟩
  | @exec m cs j e r' q k hc _ =>
      by_cases hij : j = i
      · subst hij
        obtain ⟨rfl, -⟩ := Prod.mk.inj (Option.some.inj (hget.symm.trans hc))
        exact ⟨_, List.getElem?_set_self (List.getElem?_eq_some_iff.mp hget).1⟩
      · exact ⟨c, by rw [List.getElem?_set_ne hij, hget]⟩

/-- A property of the programs in progress that the rest of a program inherits
from it. -/
theorem Steps.calls {C : Nat → R → Prog Q A ε α → Prop}
    (hspawn : ∀ i r, S.accepts r → C i r (S.spawn r))
    (hcall : ∀ i r q k a, C i r (.call q k) → C i r (k a)) (h : Steps S p p')
    (hp : ∀ i r c, p.calls[i]? = some (r, c) → C i r c) :
    ∀ i r c, p'.calls[i]? = some (r, c) → C i r c := by
  induction h with
  | refl => exact hp
  | tail _ hstep ih =>
      intro i r c hget
      cases hstep.came hget with
      | stayed hold _ => exact ih i r c hold
      | arrived _ ha _ => exact hspawn i r ha
      | made hold _ _ => exact hcall i r _ _ _ (ih i r _ hold)
      | waited hold _ _ _ => exact ih i r c hold

/-- Each query was made by a request of the pool, which may make it. -/
def Pool.Asked (allowed : R → Q → Prop) (p : Pool Q A σ E R ε α) : Prop :=
  ∀ ran ∈ p.trace, ∃ r c, p.calls[ran.caller]? = some (r, c) ∧ allowed r ran.query

theorem Steps.asked {allowed : R → Q → Prop}
    (hspawn : ∀ r, S.accepts r → (S.spawn r).Uses (allowed r)) (h : Steps S p p')
    (hcalls : ∀ (i : Nat) (r : R) (c : Prog Q A ε α), p.calls[i]? = some (r, c) →
      c.Uses (allowed r))
    (hp : p.Asked allowed) :
    p'.Asked allowed := by
  induction h with
  | refl => exact hp
  | tail hsteps hstep ih =>
      have huses := hsteps.calls (C := fun _ r (c : Prog Q A ε α) => c.Uses (allowed r))
        (fun _ r ha => hspawn r ha) (fun _ _ _ _ a hc => hc.2 a) hcalls
      have hstays := fun i r c => hstep.stays (i := i) (r := r) (c := c)
      cases hstep with
      | start _ =>
          intro ran hran
          obtain ⟨r, c, hget, hq⟩ := ih ran hran
          obtain ⟨c', hget'⟩ := hstays _ _ _ hget
          exact ⟨r, c', hget', hq⟩
      | @exec m cs i e r q k hc _ =>
          intro ran hran
          rcases List.mem_cons.mp hran with rfl | hran
          · obtain ⟨c', hget'⟩ := hstays _ _ _ hc
            exact ⟨r, c', hget', (huses i r _ hc).1⟩
          · obtain ⟨r', c, hget, hq⟩ := ih ran hran
            obtain ⟨c', hget'⟩ := hstays _ _ _ hget
            exact ⟨r', c', hget', hq⟩

/-! ## Soundness of the judgement -/

/-- The callers in the trace are requests of the pool. -/
def Pool.Numbered (p : Pool Q A σ E R ε α) : Prop :=
  ∀ ran ∈ p.trace, ran.caller < p.calls.length

theorem Pool.Numbered.step (hp : p.Numbered) (h : Step S p p') : p'.Numbered := by
  cases h with
  | start _ =>
      intro ran hran
      exact Nat.lt_of_lt_of_le (hp ran hran) (by simp)
  | @exec m cs i e r q k hc ha =>
      intro ran hran
      obtain ⟨hlt, -⟩ := List.getElem?_eq_some_iff.mp hc
      rcases List.mem_cons.mp hran with rfl | hran
      · simpa using hlt
      · simpa using hp ran hran

theorem Steps.numbered (h : Steps S p p') (hp : p.Numbered) : p'.Numbered := by
  induction h with
  | refl => exact hp
  | tail _ hstep ih => exact ih.step hstep

/-- A property of a request in progress at a moment, which its own queries and those
of the others keep.  `I` is an invariant. -/
theorem Steps.calls_at {I : Moment Q A σ E → Prop}
    {C : Nat → R → Prog Q A ε α → Moment Q A σ E → Prop} (hinv : Invariant S.toEngine I)
    (hspawn : ∀ i r m, S.accepts r → I m → (∀ ran ∈ m.trace, ran.caller ≠ i) → C i r (S.spawn r) m)
    (hown : ∀ i e r q k m, I m → C i r (.call q k) m → S.admits i e q m →
      C i r (k (S.exec e q m.store).1) (m.after S.toEngine i e q))
    (hother : ∀ i j e r q c m, I m → C i r c m → j ≠ i → S.admits j e q m →
      C i r c (m.after S.toEngine j e q))
    (h : Steps S p p') (hI : I p.toMoment) (hnum : p.Numbered)
    (hp : ∀ i r c, p.calls[i]? = some (r, c) → C i r c p.toMoment) :
    ∀ i r c, p'.calls[i]? = some (r, c) → C i r c p'.toMoment := by
  induction h with
  | refl => exact hp
  | tail hsteps hstep ih =>
      intro i r c hget
      have hI' := hsteps.invariant hinv hI
      cases hstep.came hget with
      | stayed hold hm => exact hm ▸ ih i r c hold
      | arrived hi ha hm =>
          refine hm ▸ hspawn i r _ ha hI' fun ran hran hcaller => ?_
          have hlt := hsteps.numbered hnum ran hran
          omega
      | made hold ha hm => exact hm ▸ hown i _ r _ _ _ hI' (ih i r _ hold) ha
      | waited hold hne ha hm => exact hm ▸ hother i _ _ r _ c _ hI' (ih i r c hold) hne ha

/-- A request that has made no query is at its start. -/
theorem Steps.unstarted {s : σ} (h : Steps S (.init s []) p) {i : Nat} {r : R}
    {c : Prog Q A ε α} (hget : p.calls[i]? = some (r, c)) (hi : ∀ ran ∈ p.trace, ran.caller ≠ i) :
    c = S.spawn r := by
  let C : Nat → R → Prog Q A ε α → Moment Q A σ E → Prop := fun i r c m =>
    (∀ ran ∈ m.trace, ran.caller ≠ i) → c = S.spawn r
  refine h.calls_at (I := fun _ => True) (C := C) (fun _ _ _ _ _ _ => trivial)
    (fun _ _ _ _ _ _ _ => rfl) ?_ ?_ trivial (fun _ h => nomatch h) (fun _ _ _ h => nomatch h)
    i r c hget hi
  · exact fun i _ _ _ _ _ _ _ _ hnew => absurd rfl (hnew _ (List.mem_cons_self ..))
  · exact fun _ _ _ _ _ _ _ _ hc _ _ hnew => hc fun ran hran => hnew ran (List.mem_cons_of_mem _ hran)

/-- A request whose program is one query has made it at most once, and has nothing left to
do but what the answer says. -/
theorem Steps.one_query {s : σ} (h : Steps S (.init s []) p) {i : Nat} {r : R} {c : Prog Q A ε α}
    {q : Q} {k : A q → Prog Q A ε α} (hget : p.calls[i]? = some (r, c)) (hspawn : S.spawn r = .call q k)
    (hdone : ∀ a q' k', k a ≠ .call q' k') {ran : Event Q A E} (hran : ran ∈ p.trace)
    (hcaller : ran.caller = i) : ∃ e a, ran = ⟨i, e, q, a⟩ ∧ c = k a := by
  let C : Nat → R → Prog Q A ε α → Moment Q A σ E → Prop := fun i r c m =>
    ∀ q k, S.spawn r = .call q k → (∀ a q' k', k a ≠ .call q' k') →
      (c = .call q k ∧ ∀ ran ∈ m.trace, ran.caller ≠ i) ∨
        ∃ a, c = k a ∧ ∀ ran ∈ m.trace, ran.caller = i → ∃ e, ran = ⟨i, e, q, a⟩
  have hC : C i r c p.toMoment := by
    refine h.calls_at (I := fun _ => True) (C := C) (fun _ _ _ _ _ _ => trivial) ?_ ?_ ?_ trivial
      (fun _ h => nomatch h) (fun _ _ _ h => nomatch h) i r c hget
    · exact fun i r m _ _ hnew q k hspawn _ => .inl ⟨hspawn, hnew⟩
    · intro i e r q' k' m _ hc _ q k hspawn hdone
      rcases hc q k hspawn hdone with ⟨hcall, hnew⟩ | ⟨a, hcall, -⟩
      · cases hcall
        refine .inr ⟨_, rfl, fun ran hran hcaller => ?_⟩
        rcases List.mem_cons.mp hran with rfl | hran
        · exact ⟨e, rfl⟩
        · exact absurd hcaller (hnew ran hran)
      · exact absurd hcall.symm (hdone a q' k')
    · intro i j e r q' c m _ hc hne _ q k hspawn hdone
      rcases hc q k hspawn hdone with ⟨hcall, hnew⟩ | ⟨a, hcall, hold⟩
      · refine .inl ⟨hcall, fun ran hran => ?_⟩
        rcases List.mem_cons.mp hran with rfl | hran
        · exact hne
        · exact hnew ran hran
      · refine .inr ⟨a, hcall, fun ran hran hcaller => ?_⟩
        rcases List.mem_cons.mp hran with rfl | hran
        · exact absurd hcaller hne
        · exact hold ran hran hcaller
  rcases hC q k hspawn hdone with ⟨-, hnew⟩ | ⟨a, hc, hold⟩
  · exact absurd hcaller (hnew ran hran)
  · obtain ⟨e, he⟩ := hold ran hran hcaller
    exact ⟨e, a, he, hc⟩

/-- A request that fails at once has failed. -/
theorem Steps.failed_at_once {s : σ} (h : Steps S (.init s []) p) {i : Nat} {r : R}
    {c : Prog Q A ε α} {x : ε} (hget : p.calls[i]? = some (r, c)) (hspawn : S.spawn r = .fail x) :
    c = .fail x := by
  let C : Nat → R → Prog Q A ε α → Prop := fun _ r c => ∀ x, S.spawn r = .fail x → c = .fail x
  refine h.calls (C := C) (fun _ _ _ _ h => h) (fun i r q k a hc x hx => ?_) (fun _ _ _ h => nomatch h)
    i r c hget x hspawn
  cases hc x hx

/-- A property of the store that allowed queries keep, in the runs of programs that
make only allowed queries as long as the answers are those of a store with the
property. -/
theorem Steps.within {I : Moment Q A σ E → Prop} {answers : (q : Q) → A q → Prop}
    {allowed : R → Q → Prop}
    (hans : ∀ i e q m, I m → S.admits i e q m → answers q (S.exec e q m.store).1)
    (hI : ∀ i e r q m, I m → allowed r q → S.admits i e q m → I (m.after S.toEngine i e q))
    (hspawn : ∀ r, S.accepts r →
      (S.spawn r).Within answers (allowed r) (fun _ => True) (fun _ => True))
    (h : Steps S p p') (hp : I p.toMoment)
    (hcalls : ∀ (i : Nat) (r : R) (c : Prog Q A ε α), p.calls[i]? = some (r, c) →
      c.Within answers (allowed r) (fun _ => True) (fun _ => True)) :
    I p'.toMoment ∧ ∀ (i : Nat) (r : R) (c : Prog Q A ε α), p'.calls[i]? = some (r, c) →
      c.Within answers (allowed r) (fun _ => True) (fun _ => True) := by
  induction h with
  | refl => exact ⟨hp, hcalls⟩
  | tail _ hstep ih =>
      obtain ⟨hm, hwithin⟩ := ih
      constructor
      · cases hstep with
        | start _ => exact hm
        | exec hc ha => exact hI _ _ _ _ _ hm (hwithin _ _ _ hc).1 ha
      · intro i r c hget
        cases hstep.came hget with
        | stayed hold _ => exact hwithin i r c hold
        | arrived _ ha _ => exact hspawn r ha
        | made hold ha _ => exact (hwithin i r _ hold).2 _ (hans _ _ _ _ hm ha)
        | waited hold _ _ _ => exact hwithin i r c hold

/-- Every request in progress meets its judgement from here on. -/
structure Sound (S : Service Q A σ E R ε α) (Γ : Condition Q A σ E)
    (P : Nat → R → α → Moment Q A σ E → Prop) (X : Nat → R → ε → Moment Q A σ E → Prop)
    (p : Pool Q A σ E R ε α) : Prop where
  numbered : p.Numbered
  meets : ∀ i r c, p.calls[i]? = some (r, c) →
    ∃ K, Stable S.toEngine Γ i K ∧ K p.toMoment ∧ Sat S.toEngine Γ i K c (P i r) (X i r)

/-- Every request that may arrive meets its judgement.  When it arrives it has
made no queries. -/
def Serves (S : Service Q A σ E R ε α) (Γ : Condition Q A σ E) (I : Moment Q A σ E → Prop)
    (P : Nat → R → α → Moment Q A σ E → Prop) (X : Nat → R → ε → Moment Q A σ E → Prop) :
    Prop :=
  ∀ i r, S.accepts r →
    ∃ K, Stable S.toEngine Γ i K ∧
      (∀ m, I m → (∀ ran ∈ m.trace, ran.caller ≠ i) → K m) ∧
      Sat S.toEngine Γ i K (S.spawn r) (P i r) (X i r)

variable {Γ : Condition Q A σ E} {I : Moment Q A σ E → Prop}
variable {P : Nat → R → α → Moment Q A σ E → Prop} {X : Nat → R → ε → Moment Q A σ E → Prop}

theorem Serves.restrict {C : Condition Q A σ E} (h : Serves S Γ I P X) :
    Serves (S.restrict C) Γ I P X := by
  intro i r ha
  obtain ⟨K, hK, hKm, hsat⟩ := h i r ha
  exact ⟨K, hK.restrict, hKm, hsat.restrict⟩

theorem sound_nil (s : σ) : Sound S Γ P X (.init s []) where
  numbered := by
    intro ran hran
    cases hran
  meets := by
    intro i r c hget
    cases hget

/-- A step of a sound pool satisfies the guarantee. -/
theorem Step.guaranteed (hp : Sound S Γ P X p) (h : Step S p p') :
    Step (S.restrict Γ) p p' := by
  cases h with
  | start ha => exact .start ha
  | @exec m cs i e r q k hc ha =>
      obtain ⟨K, -, hKm, hsat⟩ := hp.meets i r _ hc
      exact .exec (S := S.restrict Γ) hc ⟨ha, (hsat e m hKm ha).1⟩

/-- A step of a sound pool satisfies the guarantee and leaves the pool sound.  Only
the requests of the pool after it have to be served, under their own numbers. -/
theorem Step.sound_of
    (hserve : ∀ i r c, p'.calls[i]? = some (r, c) → S.accepts r →
      ∃ K, Stable S.toEngine Γ i K ∧ (∀ m, I m → (∀ ran ∈ m.trace, ran.caller ≠ i) → K m) ∧
        Sat S.toEngine Γ i K (S.spawn r) (P i r) (X i r))
    (hI : I p.toMoment) (hp : Sound S Γ P X p) (h : Step S p p') :
    Step (S.restrict Γ) p p' ∧ Sound S Γ P X p' := by
  have hguard := h.guaranteed hp
  refine ⟨hguard, hp.numbered.step h, fun i r c hget => ?_⟩
  cases hguard.came hget with
  | stayed hold hm => exact hm ▸ hp.meets i r c hold
  | arrived hi ha hm =>
      obtain ⟨K, hK, hKm, hsat⟩ := hserve i r _ hget ha
      refine ⟨K, hK, hm ▸ hKm _ hI fun ran hran hcaller => ?_, hsat⟩
      have hlt := hp.numbered ran hran
      omega
  | @made e q k hold ha hm =>
      obtain ⟨K, hK, hKm, hsat⟩ := hp.meets i r _ hold
      obtain ⟨-, K', hK', hKm', hsat'⟩ := hsat e _ hKm ha.1
      exact ⟨K', hK', hm ▸ hKm', hsat'⟩
  | waited hold hne ha hm =>
      obtain ⟨K, hK, hKm, hsat⟩ := hp.meets i r c hold
      exact ⟨K, hK, hm ▸ hK _ _ _ _ hne hKm ha.1 ha.2, hsat⟩

theorem Step.sound (hserve : Serves S Γ I P X) (hI : I p.toMoment) (hp : Sound S Γ P X p)
    (h : Step S p p') : Step (S.restrict Γ) p p' ∧ Sound S Γ P X p' :=
  h.sound_of (fun i r _ _ => hserve i r) hI hp

/-- A run of a sound pool satisfies the guarantee throughout and leaves the pool
sound, when the requests of its last pool are served under the numbers they have
there. -/
theorem Steps.sound_of
    (hserve : ∀ i r c, p'.calls[i]? = some (r, c) → S.accepts r →
      ∃ K, Stable S.toEngine Γ i K ∧ (∀ m, I m → (∀ ran ∈ m.trace, ran.caller ≠ i) → K m) ∧
        Sat S.toEngine Γ i K (S.spawn r) (P i r) (X i r))
    (hinv : Invariant (S.toEngine.restrict Γ) I) (hI : I p.toMoment) (hp : Sound S Γ P X p)
    (h : Steps S p p') : Steps (S.restrict Γ) p p' ∧ Sound S Γ P X p' := by
  induction h with
  | refl => exact ⟨.refl, hp⟩
  | tail _ hstep ih =>
      have hbefore := ih fun i r c hget =>
        let ⟨c', hget'⟩ := hstep.stays hget
        hserve i r c' hget'
      have hI' := hbefore.1.invariant hinv hI
      obtain ⟨hstep', hp''⟩ := hstep.sound_of hserve hI' hbefore.2
      exact ⟨hbefore.1.tail hstep', hp''⟩

/-- A run of a sound pool satisfies the guarantee throughout and leaves the pool
sound.  `I` is an invariant of the runs that satisfy the guarantee. -/
theorem Steps.sound (hserve : Serves S Γ I P X) (hinv : Invariant (S.toEngine.restrict Γ) I)
    (hI : I p.toMoment) (hp : Sound S Γ P X p) (h : Steps S p p') :
    Steps (S.restrict Γ) p p' ∧ Sound S Γ P X p' :=
  h.sound_of (fun i r _ _ => hserve i r) hinv hI hp

/-- The result of a finished request satisfies its postcondition. -/
theorem Sound.result (hp : Sound S Γ P X p) {i : Nat} {r : R} {a : α}
    (h : p.calls[i]? = some (r, .ret a)) : P i r a p.toMoment := by
  obtain ⟨K, -, hKm, hsat⟩ := hp.meets i r _ h
  exact hsat _ hKm

theorem Sound.error (hp : Sound S Γ P X p) {i : Nat} {r : R} {x : ε}
    (h : p.calls[i]? = some (r, .fail x)) : X i r x p.toMoment := by
  obtain ⟨K, -, hKm, hsat⟩ := hp.meets i r _ h
  exact hsat _ hKm

end Runs

/-! ## A program that runs alone -/

section Alone
variable {Q : Type} {A : Q → Type} {σ E ε α : Type}

/-- The result of a program that runs alone, and the stores that its queries leave,
oldest first.  `sup n` is what its query number `n` gets. -/
def Engine.runAlone (M : Engine Q A σ E) (sup : Nat → E) :
    Prog Q A ε α → σ → Except ε α × List σ
  | .ret a, _ => (.ok a, [])
  | .fail x, _ => (.error x, [])
  | .call q k, s =>
      let rest := M.runAlone (fun n => sup (n + 1)) (k (M.exec (sup 0) q s).1)
        (M.exec (sup 0) q s).2
      (rest.1, (M.exec (sup 0) q s).2 :: rest.2)

variable {M : Engine Q A σ E} {answers : (q : Q) → A q → Prop} {allowed : Q → Prop}
variable {P : α → Prop} {X : ε → Prop}

/-- The result is one that the program may have under answers of that kind. -/
theorem Engine.runAlone_within {p : Prog Q A ε α} (hans : ∀ e q s, answers q (M.exec e q s).1)
    (hp : p.Within answers allowed P X) (sup : Nat → E) (s : σ) :
    (∃ a, (M.runAlone sup p s).1 = .ok a ∧ P a) ∨ ∃ x, (M.runAlone sup p s).1 = .error x ∧ X x := by
  induction p generalizing sup s with
  | ret a => exact .inl ⟨a, rfl, hp⟩
  | fail x => exact .inr ⟨x, rfl, hp⟩
  | call q k ih => exact ih _ (hp.2 _ (hans _ _ _)) _ _

/-- Two stores that no allowed query tells apart: the program has the same result in
both, and its queries keep them so. -/
theorem Engine.runAlone_agree {Rel : σ → σ → Prop} {p : Prog Q A ε α}
    (hans : ∀ e q s s', Rel s s' → answers q (M.exec e q s).1)
    (hrel : ∀ e q s s', Rel s s' → allowed q → (M.exec e q s).1 = (M.exec e q s').1 ∧
      Rel (M.exec e q s).2 (M.exec e q s').2)
    (hp : p.Within answers allowed P X) (sup : Nat → E) {s s' : σ} (h : Rel s s') :
    (M.runAlone sup p s).1 = (M.runAlone sup p s').1 ∧
      ∀ t ∈ (M.runAlone sup p s).2, ∃ t', Rel t t' := by
  induction p generalizing sup s s' with
  | ret a => exact ⟨rfl, fun t ht => by cases ht⟩
  | fail x => exact ⟨rfl, fun t ht => by cases ht⟩
  | call q k ih =>
      obtain ⟨hsame, hnext⟩ := hrel (sup 0) q s s' h hp.1
      obtain ⟨hresult, hstores⟩ :=
        ih _ (hp.2 _ (hans (sup 0) q s s' h)) (fun n => sup (n + 1)) hnext
      refine ⟨?_, fun t ht => ?_⟩
      · simp only [Engine.runAlone]
        rw [hresult, hsame]
      · rcases List.mem_cons.mp ht with rfl | ht
        · exact ⟨_, hnext⟩
        · exact hstores t ht

end Alone

/-! ## Running a schedule

A schedule names the request that runs next and what the environment supplies.
The results below turn a computed run into a derivation of `Steps`. -/

/-- One entry of a schedule. -/
inductive Action (E R : Type) where
  | start : R → Action E R
  | exec : Nat → E → Action E R

section Schedules
variable {Q : Type} {A : Q → Type} {σ E R ε α : Type}

/-- The entry can be carried out. -/
def Action.Enabled (S : Service Q A σ E R ε α) (p : Pool Q A σ E R ε α) : Action E R → Prop
  | .start r => S.accepts r
  | .exec i e =>
      match p.calls[i]? with
      | some (_, .call q _) => S.admits i e q p.toMoment
      | _ => False

instance (S : Service Q A σ E R ε α) [DecidablePred S.accepts]
    [∀ i e q m, Decidable (S.admits i e q m)] (p : Pool Q A σ E R ε α) (a : Action E R) :
    Decidable (a.Enabled S p) :=
  match a with
  | .start r => inferInstanceAs (Decidable (S.accepts r))
  | .exec i e =>
      match h : p.calls[i]? with
      | some (_, .call q _) =>
          decidable_of_iff (S.admits i e q p.toMoment) (by simp [Action.Enabled, h])
      | some (_, .ret _) => .isFalse (by simp [Action.Enabled, h])
      | some (_, .fail _) => .isFalse (by simp [Action.Enabled, h])
      | none => .isFalse (by simp [Action.Enabled, h])

/-- Carry out an entry.  An entry that is not enabled changes nothing. -/
def Action.fire (S : Service Q A σ E R ε α) (p : Pool Q A σ E R ε α) :
    Action E R → Pool Q A σ E R ε α
  | .start r => ⟨p.toMoment, p.calls ++ [(r, S.spawn r)]⟩
  | .exec i e =>
      match p.calls[i]? with
      | some (r, .call q k) =>
          ⟨p.toMoment.after S.toEngine i e q, p.calls.set i (r, k (S.exec e q p.store).1)⟩
      | _ => p

/-- A program runs by itself and makes a query in each of the supplies: the state, and
what is left of the program. -/
def Engine.alone {β : Type} (M : Engine Q A σ E) : List E → σ → Prog Q A ε β → σ × Prog Q A ε β
  | [], w, c => (w, c)
  | e :: es, w, .call q k => M.alone es (M.exec e q w).2 (k (M.exec e q w).1)
  | _ :: _, w, .ret a => (w, .ret a)
  | _ :: _, w, .fail x => (w, .fail x)

section Alone
variable {β : Type} (M : Engine Q A σ E)

@[simp] theorem Engine.alone_nil (w : σ) (c : Prog Q A ε β) : M.alone [] w c = (w, c) := rfl

@[simp] theorem Engine.alone_call (e : E) (es : List E) (w : σ) (q : Q) (k : A q → Prog Q A ε β) :
    M.alone (e :: es) w (.call q k) = M.alone es (M.exec e q w).2 (k (M.exec e q w).1) := rfl

@[simp] theorem Engine.alone_ret (es : List E) (w : σ) (a : β) :
    M.alone es w (.ret a : Prog Q A ε β) = (w, .ret a) := by
  cases es <;> rfl

@[simp] theorem Engine.alone_fail (es : List E) (w : σ) (x : ε) :
    M.alone es w (.fail x : Prog Q A ε β) = (w, .fail x) := by
  cases es <;> rfl

end Alone

/-- Carry out a whole schedule. -/
def fireAll (S : Service Q A σ E R ε α) : Pool Q A σ E R ε α → List (Action E R) →
    Pool Q A σ E R ε α
  | p, [] => p
  | p, a :: as => fireAll S (a.fire S p) as

theorem fireAll_append (S : Service Q A σ E R ε α) (p : Pool Q A σ E R ε α)
    (as bs : List (Action E R)) : fireAll S p (as ++ bs) = fireAll S (fireAll S p as) bs := by
  induction as generalizing p with
  | nil => rfl
  | cons a as ih => exact ih _

/-- A condition changes which entries are enabled, and nothing else. -/
theorem fireAll_restrict (S : Service Q A σ E R ε α) (C : Condition Q A σ E)
    (p : Pool Q A σ E R ε α) (as : List (Action E R)) :
    fireAll (S.restrict C) p as = fireAll S p as := by
  induction as generalizing p with
  | nil => rfl
  | cons a as ih =>
      have hfire : a.fire (S.restrict C) p = a.fire S p := by cases a <;> rfl
      rw [fireAll, fireAll, hfire, ih]

/-- A call that runs by itself. -/
theorem fireAll_alone {S : Service Q A σ E R ε α} {p : Pool Q A σ E R ε α} {i : Nat} {r : R}
    {c : Prog Q A ε α} (h : p.calls[i]? = some (r, c)) (es : List E) :
    (fireAll S p (es.map (.exec i))).store = (S.toEngine.alone es p.store c).1 ∧
      (fireAll S p (es.map (.exec i))).calls[i]? = some (r, (S.toEngine.alone es p.store c).2) := by
  have hi := (List.getElem?_eq_some_iff.mp h).1
  induction es generalizing p c with
  | nil => exact ⟨rfl, h⟩
  | cons e es ih =>
      cases c with
      | call q k =>
          have hfire : (Action.exec i e).fire S p =
              ⟨p.toMoment.after S.toEngine i e q, p.calls.set i (r, k (S.exec e q p.store).1)⟩ := by
            simp [Action.fire, h]
          simp only [List.map_cons, fireAll, hfire]
          exact ih (by simp [hi]) (by simpa using hi)
      | ret a =>
          have hfire : (Action.exec i e).fire S p = p := by simp [Action.fire, h]
          simp only [List.map_cons, fireAll, hfire]
          rw [S.toEngine.alone_ret, ← S.toEngine.alone_ret es]
          exact ih h hi
      | fail x =>
          have hfire : (Action.exec i e).fire S p = p := by simp [Action.fire, h]
          simp only [List.map_cons, fireAll, hfire]
          rw [S.toEngine.alone_fail, ← S.toEngine.alone_fail es]
          exact ih h hi

/-- A request that arrives and runs by itself. -/
theorem fireAll_arrival_alone (S : Service Q A σ E R ε α) (p : Pool Q A σ E R ε α) (r : R)
    (es : List E) :
    (fireAll S p (.start r :: es.map (.exec p.calls.length))).store =
        (S.toEngine.alone es p.store (S.spawn r)).1 ∧
      (fireAll S p (.start r :: es.map (.exec p.calls.length))).calls[p.calls.length]? =
        some (r, (S.toEngine.alone es p.store (S.spawn r)).2) :=
  fireAll_alone (p := ⟨p.toMoment, p.calls ++ [(r, S.spawn r)]⟩) (by simp) es

/-- A request that arrives and makes its first query at once. -/
theorem fireAll_arrival {S : Service Q A σ E R ε α} {p : Pool Q A σ E R ε α} {r : R} {e : E} {q : Q}
    {k : A q → Prog Q A ε α} (h : S.spawn r = .call q k) :
    fireAll S p [.start r, .exec p.calls.length e] =
      ⟨p.toMoment.after S.toEngine p.calls.length e q,
        p.calls ++ [(r, k (S.exec e q p.store).1)]⟩ := by
  simp [fireAll, Action.fire, h]

theorem steps_arrival {S : Service Q A σ E R ε α} {p : Pool Q A σ E R ε α} {r : R} {e : E} {q : Q}
    {k : A q → Prog Q A ε α} (hacc : S.accepts r) (h : S.spawn r = .call q k)
    (ha : S.admits p.calls.length e q p.toMoment) :
    Steps S p (fireAll S p [.start r, .exec p.calls.length e]) := by
  have harrived : Step S p ⟨p.toMoment, p.calls ++ [(r, S.spawn r)]⟩ := .start hacc
  have hmade : Step S ⟨p.toMoment, p.calls ++ [(r, .call q k)]⟩ _ :=
    .exec (i := p.calls.length) (r := r) (k := k) (by simp) ha
  rw [fireAll_arrival h]
  rw [h] at harrived
  simpa using (Steps.single harrived).tail hmade

/-- A request that arrives and is done at once. -/
theorem fireAll_arrival_done {S : Service Q A σ E R ε α} {p : Pool Q A σ E R ε α} {r : R} {e : E}
    (h : ∀ q k, S.spawn r ≠ .call q k) :
    fireAll S p [.start r, .exec p.calls.length e] = ⟨p.toMoment, p.calls ++ [(r, S.spawn r)]⟩ := by
  simp only [fireAll, Action.fire, List.getElem?_concat_length]
  cases hs : S.spawn r with
  | call q k => exact absurd hs (h q k)
  | _ => rfl

instance (S : Service Q A σ E R ε α) (C : Condition Q A σ E) [DecidablePred S.accepts] :
    DecidablePred (S.restrict C).accepts :=
  inferInstanceAs (DecidablePred S.accepts)

instance (S : Service Q A σ E R ε α) (C : Condition Q A σ E) (i : Nat) (e : E) (q : Q)
    (m : Moment Q A σ E) [Decidable (S.admits i e q m)] [Decidable (C i e q m)] :
    Decidable ((S.restrict C).admits i e q m) :=
  inferInstanceAs (Decidable (S.admits i e q m ∧ C i e q m))

/-- Every entry is enabled when its turn comes. -/
def AllEnabled (S : Service Q A σ E R ε α) : Pool Q A σ E R ε α → List (Action E R) → Prop
  | _, [] => True
  | p, a :: as => a.Enabled S p ∧ AllEnabled S (a.fire S p) as

instance AllEnabled.decidable (S : Service Q A σ E R ε α) [DecidablePred S.accepts]
    [∀ i e q m, Decidable (S.admits i e q m)] :
    ∀ (p : Pool Q A σ E R ε α) (as : List (Action E R)), Decidable (AllEnabled S p as)
  | _, [] => .isTrue trivial
  | p, a :: as =>
      haveI := AllEnabled.decidable S (a.fire S p) as
      inferInstanceAs (Decidable (_ ∧ _))

theorem Action.Enabled.step {S : Service Q A σ E R ε α} {p : Pool Q A σ E R ε α}
    {a : Action E R} (h : a.Enabled S p) : Step S p (a.fire S p) := by
  cases a with
  | start r => exact .start h
  | exec i e =>
      simp only [Action.Enabled] at h
      split at h
      case h_1 r q k hget =>
        simp only [Action.fire, hget]
        exact .exec hget h
      case h_2 => exact h.elim

/-- A schedule whose entries are all enabled is a run. -/
theorem AllEnabled.steps {S : Service Q A σ E R ε α} :
    ∀ {as : List (Action E R)} {p : Pool Q A σ E R ε α}, AllEnabled S p as →
      Steps S p (fireAll S p as)
  | [], _, _ => .refl
  | _ :: _, _, h => (Steps.single h.1.step).trans (AllEnabled.steps h.2)

end Schedules

end Atomic
