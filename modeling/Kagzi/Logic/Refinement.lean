import Kagzi.Logic.Monitor
import Mathlib.Data.List.Forall2

/-!
# Refinement up to hidden queries

A service may make queries that another one knows nothing of.  A `View` says which queries of
the first are queries of the second, and how their answers read; all others are hidden.

`Prog.Refines` compares programs: what the first program shows are the queries of the second
one, whatever the answers of its hidden queries are.  A `Refinement` of services asks this of
the programs of each request, and of the stores that they agree on the queries that are shown.
Then every run of the first service is seen as a run of the second one, with the same results
(`Steps.refines`).
-/

namespace Atomic

/-! ## Views -/

/-- The query that a query is seen as, and how its answer reads. -/
abbrev View (Q' : Type) (A' : Q' → Type) (Q : Type) (A : Q → Type) : Type :=
  (q : Q') → Option ((q' : Q) × (A' q → A q'))

section Views
variable {Q Q' : Type} {A : Q → Type} {A' : Q' → Type} {E E' : Type}

/-- What is seen of an event. -/
def View.event (V : View Q' A' Q A) (f : E' → E) (ran : Event Q' A' E') : Option (Event Q A E) :=
  (V ran.query).map fun seen => ⟨ran.caller, f ran.env, seen.1, seen.2 ran.answer⟩

/-- What is seen of a trace. -/
def View.trace (V : View Q' A' Q A) (f : E' → E) (trace : List (Event Q' A' E')) :
    List (Event Q A E) :=
  trace.filterMap (V.event f)

variable (V : View Q' A' Q A) {f : E' → E} {trace : List (Event Q' A' E')} (ran : Event Q' A' E')

theorem View.trace_hidden (h : V ran.query = none) : V.trace f (ran :: trace) = V.trace f trace :=
  List.filterMap_cons_none (by rw [View.event, h]; rfl)

theorem View.trace_shown {seen : (q : Q) × (A' ran.query → A q)} (h : V ran.query = some seen) :
    V.trace f (ran :: trace) =
      ⟨ran.caller, f ran.env, seen.1, seen.2 ran.answer⟩ :: V.trace f trace :=
  List.filterMap_cons_some (by rw [View.event, h]; rfl)

end Views

/-! ## Programs -/

section Programs
variable {Q Q' : Type} {A : Q → Type} {A' : Q' → Type} {ε ε' α α' β β' : Type}

/-- The program shows the queries of the other one, and ends as it does. -/
def Prog.Refines (V : View Q' A' Q A) (R : α' → α → Prop) (X : ε' → ε → Prop) :
    Prog Q' A' ε' α' → Prog Q A ε α → Prop
  | .ret a', p => ∃ a, p = .ret a ∧ R a' a
  | .fail x', p => ∃ x, p = .fail x ∧ X x' x
  | .call q' k', p =>
      match V q' with
      | none => ∀ a', (k' a').Refines V R X p
      | some seen => ∃ k, p = .call seen.1 k ∧ ∀ a', (k' a').Refines V R X (k (seen.2 a'))

variable {V : View Q' A' Q A} {R : α' → α → Prop} {X : ε' → ε → Prop}

namespace Prog.Refines

theorem hidden_iff {q' : Q'} {k' : A' q' → Prog Q' A' ε' α'} {p : Prog Q A ε α} (h : V q' = none) :
    (Prog.call q' k').Refines V R X p ↔ ∀ a', (k' a').Refines V R X p := by
  simp only [Prog.Refines, h]

theorem shown_iff {q' : Q'} {k' : A' q' → Prog Q' A' ε' α'} {p : Prog Q A ε α}
    {seen : (q : Q) × (A' q' → A q)} (h : V q' = some seen) :
    (Prog.call q' k').Refines V R X p ↔
      ∃ k, p = .call seen.1 k ∧ ∀ a', (k' a').Refines V R X (k (seen.2 a')) := by
  simp only [Prog.Refines, h]

theorem ret {a' : α'} {a : α} (h : R a' a) :
    (Prog.ret a' : Prog Q' A' ε' α').Refines V R X (.ret a : Prog Q A ε α) :=
  ⟨a, rfl, h⟩

theorem fail {x' : ε'} {x : ε} (h : X x' x) :
    (Prog.fail x' : Prog Q' A' ε' α').Refines V R X (.fail x : Prog Q A ε α) :=
  ⟨x, rfl, h⟩

theorem mono {R' : α' → α → Prop} {X' : ε' → ε → Prop} {p' : Prog Q' A' ε' α'} {p : Prog Q A ε α}
    (h : p'.Refines V R X p) (hR : ∀ a' a, R a' a → R' a' a) (hX : ∀ x' x, X x' x → X' x' x) :
    p'.Refines V R' X' p := by
  induction p' generalizing p with
  | ret a' =>
      obtain ⟨a, rfl, ha⟩ := h
      exact .ret (hR _ _ ha)
  | fail x' =>
      obtain ⟨x, rfl, hx⟩ := h
      exact .fail (hX _ _ hx)
  | call q' k' ih =>
      cases hv : V q' with
      | none =>
          rw [hidden_iff hv] at h ⊢
          exact fun a' => ih a' (h a')
      | some seen =>
          rw [shown_iff hv] at h ⊢
          obtain ⟨k, rfl, hk⟩ := h
          exact ⟨k, rfl, fun a' => ih a' (hk a')⟩

theorem bind {T : β' → β → Prop} {p' : Prog Q' A' ε' α'} {p : Prog Q A ε α}
    {f' : α' → Prog Q' A' ε' β'} {f : α → Prog Q A ε β} (hp : p'.Refines V R X p)
    (hf : ∀ a' a, R a' a → (f' a').Refines V T X (f a)) :
    (p' >>= f').Refines V T X (p >>= f) := by
  induction p' generalizing p with
  | ret a' =>
      obtain ⟨a, rfl, ha⟩ := hp
      exact hf a' a ha
  | fail x' =>
      obtain ⟨x, rfl, hx⟩ := hp
      exact .fail hx
  | call q' k' ih =>
      show (Prog.call q' fun a' => k' a' >>= f').Refines V T X (p >>= f)
      cases hv : V q' with
      | none =>
          rw [hidden_iff hv] at hp ⊢
          exact fun a' => ih a' (hp a')
      | some seen =>
          rw [shown_iff hv] at hp ⊢
          obtain ⟨k, rfl, hk⟩ := hp
          exact ⟨fun a => k a >>= f, rfl, fun a' => ih a' (hk a')⟩

/-- A program refines the one whose queries it carries out, when each is carried out so that
nothing else is shown. -/
theorem translate {f : (q : Q) → Prog Q' A' ε (A q)} (p : Prog Q A ε α)
    (hf : ∀ q, (f q).Refines V Eq (fun _ _ => False) (.query q : Prog Q A ε (A q))) :
    (p.translate f).Refines V Eq Eq p := by
  induction p with
  | ret a => exact .ret rfl
  | fail x => exact .fail rfl
  | call q k ih =>
      show (f q >>= fun a => (k a).translate f).Refines V Eq Eq (.query q >>= k)
      refine ((hf q).mono (fun _ _ h => h) fun _ _ h => h.elim).bind ?_
      rintro a _ rfl
      exact ih a

end Prog.Refines

end Programs

/-! ## Services -/

section Services
variable {Q Q' : Type} {A : Q → Type} {A' : Q' → Type} {σ σ' E E' R R' ε ε' α α' : Type}

/-- The first service does what the second one does, as far as it is seen. -/
structure Refinement (S' : Service Q' A' σ' E' R' ε' α') (S : Service Q A σ E R ε α) where
  view : View Q' A' Q A
  store : σ' → σ
  supply : E' → E
  request : R' → R
  /-- How the results of the two compare. -/
  result : α' → α → Prop
  error : ε' → ε → Prop
  hidden : ∀ e' q' s', view q' = none → store (S'.exec e' q' s').2 = store s'
  shown : ∀ e' q' s' seen, view q' = some seen →
    S.exec (supply e') seen.1 (store s') = (seen.2 (S'.exec e' q' s').1, store (S'.exec e' q' s').2)
  admits : ∀ i e' q' m' seen, view q' = some seen → S'.admits i e' q' m' →
    S.admits i (supply e') seen.1 ⟨store m'.store, view.trace supply m'.trace⟩
  accepts : ∀ r', S'.accepts r' → S.accepts (request r')
  spawn : ∀ r', S'.accepts r' → (S'.spawn r').Refines view result error (S.spawn (request r'))

variable {S' : Service Q' A' σ' E' R' ε' α'} {S : Service Q A σ E R ε α}

namespace Refinement

variable (F : Refinement S' S)

/-- What is seen of a moment. -/
def moment (m' : Moment Q' A' σ' E') : Moment Q A σ E :=
  ⟨F.store m'.store, F.view.trace F.supply m'.trace⟩

/-- A call and the one it is seen as. -/
def Call (c' : R' × Prog Q' A' ε' α') (c : R × Prog Q A ε α) : Prop :=
  c.1 = F.request c'.1 ∧ c'.2.Refines F.view F.result F.error c.2

/-- A pool and the one it is seen as. -/
structure Seen (p' : Pool Q' A' σ' E' R' ε' α') (p : Pool Q A σ E R ε α) : Prop where
  moment : p.toMoment = F.moment p'.toMoment
  calls : List.Forall₂ F.Call p'.calls p.calls

variable {F}

/-- The call of a number is seen as the one of that number. -/
theorem Seen.call {p' : Pool Q' A' σ' E' R' ε' α'} {p : Pool Q A σ E R ε α} (h : F.Seen p' p)
    {i : Nat} {r' : R'} {c' : Prog Q' A' ε' α'} (hget : p'.calls[i]? = some (r', c')) :
    ∃ c, p.calls[i]? = some (F.request r', c) ∧ c'.Refines F.view F.result F.error c := by
  obtain ⟨hlt, hget'⟩ := List.getElem?_eq_some_iff.mp hget
  have hlt' : i < p.calls.length := h.calls.length_eq ▸ hlt
  have hcall := h.calls.get hlt hlt'
  simp only [List.get_eq_getElem, hget'] at hcall
  obtain ⟨hrequest, hrefines⟩ := hcall
  refine ⟨p.calls[i].2, ?_, hrefines⟩
  rw [List.getElem?_eq_getElem hlt', ← hrequest]

/-- A step of the first service is seen as one of the second, or not at all. -/
theorem Seen.step {p' p'' : Pool Q' A' σ' E' R' ε' α'} {p : Pool Q A σ E R ε α} (h : F.Seen p' p)
    (hstep : Step S' p' p'') : ∃ q, Steps S p q ∧ F.Seen p'' q := by
  cases hstep with
  | @start m' cs' r' ha =>
      obtain ⟨m, cs⟩ := p
      refine ⟨⟨m, cs ++ [(F.request r', S.spawn (F.request r'))]⟩,
        .single (.start (F.accepts r' ha)),
        h.moment, ?_⟩
      exact List.rel_append h.calls (.cons ⟨rfl, F.spawn r' ha⟩ .nil)
  | @exec m' cs' i e' r' q' k' hget ha =>
      obtain ⟨c, hget', hrefines⟩ := h.call hget
      have hset : ∀ c, (k' (S'.exec e' q' m'.store).1).Refines F.view F.result F.error c →
          List.Forall₂ F.Call (cs'.set i (r', k' (S'.exec e' q' m'.store).1))
            (p.calls.set i (F.request r', c)) := by
        intro c hc
        refine List.forall₂_iff_get.mpr ⟨by simpa using h.calls.length_eq, fun j hj hj' => ?_⟩
        simp only [List.get_eq_getElem, List.getElem_set]
        split
        · exact ⟨rfl, hc⟩
        · exact h.calls.get (by simpa using hj) (by simpa using hj')
      cases hv : F.view q' with
      | none =>
          rw [Prog.Refines.hidden_iff hv] at hrefines
          refine ⟨p, .refl, ?_, ?_⟩
          · rw [h.moment]
            refine congrArg₂ Moment.mk (F.hidden e' q' m'.store hv).symm ?_
            exact (F.view.trace_hidden ⟨i, e', q', _⟩ hv).symm
          · have hsame : p.calls.set i (F.request r', c) = p.calls := by
              obtain ⟨hlt, hget''⟩ := List.getElem?_eq_some_iff.mp hget'
              rw [← hget'', List.set_getElem_self]
            exact hsame ▸ hset c (hrefines _)
      | some seen =>
          rw [Prog.Refines.shown_iff hv] at hrefines
          obtain ⟨k, rfl, hk⟩ := hrefines
          have hexec := F.shown e' q' m'.store seen hv
          have hadmits := F.admits i e' q' m' seen hv ha
          obtain ⟨m, cs⟩ := p
          obtain rfl : m = F.moment m' := h.moment
          refine ⟨_, .single (.exec hget' hadmits), ?_, ?_⟩
          · refine congrArg₂ Moment.mk (congrArg Prod.snd hexec) ?_
            refine Eq.trans ?_ (F.view.trace_shown ⟨i, e', q', _⟩ hv).symm
            exact congrArg (· :: _) (congrArg (Event.mk i (F.supply e') seen.1)
              (congrArg Prod.fst hexec))
          · refine hset _ ?_
            have ha' : (S.exec (F.supply e') seen.1 (F.moment m').store).1 =
                seen.2 (S'.exec e' q' m'.store).1 := congrArg Prod.fst hexec
            rw [ha']
            exact hk _

end Refinement

/-- Every run of a service that refines another one is seen as a run of the other one. -/
theorem Steps.refines (F : Refinement S' S) {p' q' : Pool Q' A' σ' E' R' ε' α'}
    {p : Pool Q A σ E R ε α} (h : Steps S' p' q') (hp : F.Seen p' p) : ∃ q, Steps S p q ∧
    F.Seen q' q := by
  induction h with
  | refl => exact ⟨p, .refl, hp⟩
  | tail _ hstep ih =>
      obtain ⟨q, hq, hseen⟩ := ih
      obtain ⟨r, hr, hseen'⟩ := hseen.step hstep
      exact ⟨r, hq.trans hr, hseen'⟩

end Services

end Atomic
