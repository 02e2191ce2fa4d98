import Kagzi.Server.Status

/-!
# The coordinator

`coordinator.rs`.  A tick reads the clock and a batch of the templates that are
due, and then handles one template after the other, each as it was at the time
of the read.  What is to be done with a template is a pure function of the row
read and the time of the tick (`decision`); the statements follow from it
(`fireTemplate`).
-/

namespace Kagzi

open Atomic

namespace Coordinator

/-- What a tick does with a template. -/
inductive Decision where
  /-- Nothing: the template lacks a column. -/
  | ignore
  /-- End the tick. -/
  | abort (error : StoreError)
  /-- Move the next fire time without firing, and take the time of the tick for
  the last one. -/
  | skip (next : Int)
  /-- Create an instance for `fireAt`, and move on to `next`. -/
  | fire (fireAt next : Int)
deriving DecidableEq

/-- The point from which the missed occurrences are counted. -/
def cursor (template : RunRow) (currentFireAt : Int) : Int :=
  (template.lastFiredAt.or template.createdAt).getD currentFireAt

/-- The number of occurrences from the cursor up to `now`. -/
def missedCount (cron : Recurrence) (cursor now : Int) : Nat :=
  (cron.occurrences cursor now).length

/-- The time of the next occurrence, or a year from now when there is none. -/
def nextOrYear (cron : Recurrence) (after now : Int) : Int :=
  (cron.next after).getD (now + days 365)

/-- The loop body of `fire_due_schedules` up to its first statement. -/
def decision (cfg : Config) (now : Int) (template : RunRow) : Decision :=
  match template.availableAt, template.cronExpr with
  | none, _ => .ignore
  | some _, none => .ignore
  | some currentFireAt, some expr =>
      match cfg.cronSchedule expr with
      | .error e =>
          .abort (.invalidState ("Schedule " ++ cfg.uuidText template.runId
            ++ ": Invalid cron expression '" ++ expr ++ "': " ++ e))
      | .ok cron =>
          if template.maxCatchup = 0 then .skip (nextOrYear cron now now)
          else
            let from_ := cursor template currentFireAt
            let missed := missedCount cron from_ now
            let limit := asUsize template.maxCatchup
            if missed > limit then .skip ((cron.nth from_ (missed - limit)).getD now)
            else .fire currentFireAt (nextOrYear cron currentFireAt now)

/-- The loop body of `fire_due_schedules`. -/
def fireTemplate (cfg : Config) (now : Int) (template : WorkflowRun) : Store Unit :=
  match decision cfg now template.toRunRow with
  | .ignore => pure ()
  | .abort e => .fail e
  | .skip next => sql (.updateNextFire template.runId next (some now))
  | .fire fireAt next => do
      if ← sql .rateCheck then
        match ← sql (.createScheduleInstance template.runId fireAt) with
        | some _ => do
            let _ ← (sql (.notify template.ns template.taskQueue)).attempt
            sql (.updateNextFire template.runId next (some fireAt))
        | none => sql (.updateNextFire template.runId next (some fireAt))
      else pure ()

/-- The loop of `fire_due_schedules`. -/
def fireTemplates (cfg : Config) (now : Int) : List WorkflowRun → Store Unit
  | [] => pure ()
  | template :: templates => do
      fireTemplate cfg now template
      fireTemplates cfg now templates

/-- `fire_due_schedules`. -/
def fireDueSchedules (cfg : Config) : Store Unit := do
  let now ← sql .utcNow
  let templates ← sql (.findDueSchedules now cfg.coordinator.batchSize)
  fireTemplates cfg now templates

/-- The error of a part of a tick, which is logged. -/
def logged {α : Type} : Except StoreError α → List StoreError
  | .ok _ => []
  | .error e => [e]

/-- One turn of the loop of `run`. -/
def tick (cfg : Config) : Rpc (List StoreError) := do
  let fired ← (fireDueSchedules cfg).attempt
  let marked ← (sql (.markStaleOffline cfg.coordinator.workerStaleThresholdSecs)).attempt
  pure (logged fired ++ logged marked)

/-- `run`, for a number of turns. -/
def run (cfg : Config) : Nat → Rpc (List StoreError)
  | 0 => pure []
  | ticks + 1 => do
      let errors ← tick cfg
      let rest ← run cfg ticks
      pure (errors ++ rest)

end Coordinator

end Kagzi
