import Kagzi.Logic.Process

/-!
# Credit

A measure of the store that some events lower and others may raise by one.  While a
condition holds, the events that lower it are at most the measure at the start and the
events that raise it.  The condition is one that cannot begin: where it holds after a
query it held before.
-/

namespace Atomic

section Credit
variable {Q : Type} {A : Q → Type} {σ E R ε α : Type}

/-- While `W` holds, an event that `spends` lowers the measure, and only one that `earns`
raises it.  `I` is what is known of every moment. -/
structure Credit (M : Engine Q A σ E) (I W : Moment Q A σ E → Prop) (measure : Moment Q A σ E → Nat)
    (spends earns : Event Q A E → Bool) : Prop where
  known : Invariant M I
  before : ∀ i e q m, I m → M.admits i e q m → W (m.after M i e q) → W m
  pays : ∀ i e q m, I m → M.admits i e q m → W m → W (m.after M i e q) →
    measure (m.after M i e q) + (spends ⟨i, e, q, (M.exec e q m.store).1⟩).toNat ≤
      measure m + (earns ⟨i, e, q, (M.exec e q m.store).1⟩).toNat

variable {S : Service Q A σ E R ε α} {p p' : Pool Q A σ E R ε α}
variable {I W : Moment Q A σ E → Prop} {measure : Moment Q A σ E → Nat}
variable {spends earns : Event Q A E → Bool}

theorem countP_cons_toNat (P : Event Q A E → Bool) (ran : Event Q A E)
    (trace : List (Event Q A E)) :
    (ran :: trace).countP P = trace.countP P + (P ran).toNat := by
  cases h : P ran with
  | true => simp [h]
  | false => simp [h]

/-- Along a run at whose end the condition holds, it held from the start, and the events
that spend are paid for. -/
theorem Credit.run (hC : Credit S.toEngine I W measure spends earns) (h : Steps S p p')
    (hp : I p.toMoment) (hW : W p'.toMoment) :
    W p.toMoment ∧ ∃ later, p'.trace = later ++ p.trace ∧
      measure p'.toMoment + later.countP spends ≤ measure p.toMoment + later.countP earns := by
  induction h with
  | refl => exact ⟨hW, [], rfl, by simp⟩
  | tail hsteps hstep ih =>
      cases hstep with
      | start _ => exact ih hW
      | @exec m cs i e r q k _ ha =>
          have hI : I m := hsteps.invariant hC.known hp
          have hbefore : W m := hC.before i e q m hI ha hW
          have hpays := hC.pays i e q m hI ha hbefore hW
          obtain ⟨hstart, later, htrace, hle⟩ := ih hbefore
          refine ⟨hstart, _ :: later, congrArg (List.cons _) htrace, ?_⟩
          rw [countP_cons_toNat, countP_cons_toNat]
          show measure (m.after S.toEngine i e q) + _ ≤ _
          have hle' : measure m + later.countP spends ≤ measure p.toMoment + later.countP earns :=
            hle
          omega

end Credit

end Atomic
