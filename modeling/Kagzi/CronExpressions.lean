import Kagzi.Server.Vouched
import Kagzi.Sdk.Builder

/-!
# Cron expressions

Three places read a cron expression, all with the parser of the `cron` crate.  The builder
of the SDK hands it the text as it is.  `parse_cron_expr` of the server counts the fields
first and demands six, and the coordinator hands it what is stored.  So the server refuses
the expressions of seven fields and the shorthands that the SDK lets pass, and whatever the
server stores the coordinator can read.
-/

namespace Kagzi

open Atomic

namespace CronExpressions

/-! ## What is claimed -/

/-- `parse_cron_expr` accepts what the builder of the SDK accepts. -/
def Agree (cfg : Config) : Prop :=
  ∀ (b : Sdk.ScheduleBuilder) (workflowType cron : String),
    b.validate cfg = .ok (workflowType, cron) → cfg.Parses cron

/-- The number of fields of an expression. -/
def fields (expr : String) : Nat := ScheduleService.countFields false expr.toList

/-- Of what the builder of the SDK accepts, `parse_cron_expr` accepts what has six fields,
and for that only the lack of a future occurrence is left to refuse it for. -/
def AgreeOnSixFields (cfg : Config) : Prop :=
  ∀ (b : Sdk.ScheduleBuilder) (workflowType cron : String),
    b.validate cfg = .ok (workflowType, cron) →
      (cfg.Parses cron ↔ fields cron = 6) ∧
        (fields cron = 6 → ∀ (now : Int) (x : Status),
          ScheduleService.nextFireFromNow cfg cron now = .error x →
            x = invalidArgumentError "Cron expression has no future occurrences")

/-- The coordinator can read the expression of every run. -/
def Readable (cfg : Config) (db : Db) : Prop :=
  ∀ r ∈ db.runs.rows, ∀ expr ∈ r.cronExpr, ∃ schedule, cfg.cronSchedule expr = .ok schedule

/-! ## The parser of the server -/

section Parser
variable {cfg : Config} {expr : String}

/-- The server accepts the expressions of six fields that the crate accepts. -/
theorem parses_iff :
    cfg.Parses expr ↔ fields expr = 6 ∧ ∃ schedule, cfg.cronSchedule expr = .ok schedule := by
  unfold Config.Parses ScheduleService.parseCronExpr fields
  by_cases hcount : ScheduleService.countFields false expr.toList = 6
  · cases cfg.cronSchedule expr <;> simp [hcount]
  · dsimp only
    split <;> simp [hcount]

/-- The builder of the SDK accepts only what the crate accepts. -/
theorem schedule_of_validate {b : Sdk.ScheduleBuilder} {workflowType cron : String}
    (h : b.validate cfg = .ok (workflowType, cron)) :
    ∃ schedule, cfg.cronSchedule cron = .ok schedule := by
  unfold Sdk.ScheduleBuilder.validate at h
  grind

/-- The only error that is left when the expression is accepted. -/
theorem nextFireFromNow_error {now : Int} {x : Status} (hparses : cfg.Parses expr)
    (h : ScheduleService.nextFireFromNow cfg expr now = .error x) :
    x = invalidArgumentError "Cron expression has no future occurrences" := by
  obtain ⟨cron, hcron⟩ := hparses
  unfold ScheduleService.nextFireFromNow at h
  rw [hcron] at h
  change ScheduleService.nextAfter cron now = .error x at h
  unfold ScheduleService.nextAfter at h
  split at h
  next => cases h
  next => exact (Except.error.inj h).symm

end Parser

/-! ## The coordinator -/

/-- That the coordinator can read an expression is all that has to be known. -/
def readable (cfg : Config) : Vouch cfg where
  expr e := ∃ schedule, cfg.cronSchedule e = .ok schedule
  bytes _ := True
  of_parses h := (parses_iff.mp h).2
  of_fits _ := trivial

theorem vouched_iff {cfg : Config} {db : Db} : db.Vouched (readable cfg) ↔ Readable cfg db :=
  ⟨fun h => h.cron, fun h => ⟨h, by simp [readable], by simp [readable], by simp [readable],
    by simp [readable]⟩⟩

/-- A tick is not ended by an expression that can be read. -/
theorem decision_ne_abort {cfg : Config} {r : RunRow} (now : Int) (x : StoreError)
    (h : ∀ expr ∈ r.cronExpr, ∃ schedule, cfg.cronSchedule expr = .ok schedule) :
    Coordinator.decision cfg now r ≠ .abort x := by
  unfold Coordinator.decision
  split
  next => simp
  next => simp
  next expr _ hcron =>
    obtain ⟨schedule, hschedule⟩ := h expr hcron
    rw [hschedule]
    dsimp only
    split
    next => simp
    next => split <;> simp

theorem agreeOnSixFields (cfg : Config) : AgreeOnSixFields cfg := by
  intro b workflowType cron hvalid
  have hschedule := schedule_of_validate hvalid
  have hparses : cfg.Parses cron ↔ fields cron = 6 := by simp [parses_iff, hschedule]
  exact ⟨hparses, fun hsix now x hx => nextFireFromNow_error (hparses.mpr hsix) hx⟩

/-- The SDK and the server agree on the expressions of six fields, and in every run of the
server the coordinator can read what is stored. -/
theorem accepted_and_read (cfg : Config) :
    AgreeOnSixFields cfg ∧ ∀ (w : World) (p : ServerState), Readable cfg w.db →
      Steps (server cfg fun _ => True) (.init w []) p →
        Readable cfg p.store.db ∧ ∀ r ∈ p.store.db.runs.rows, ∀ (now : Int) (x : StoreError),
          Coordinator.decision cfg now r ≠ .abort x := by
  refine ⟨agreeOnSixFields cfg, fun w p hw h => ?_⟩
  have hdb : Readable cfg p.store.db := vouched_iff.mp (stored_vouched (vouched_iff.mpr hw) h).1
  exact ⟨hdb, fun r hr now x => decision_ne_abort now x (hdb r hr)⟩

/-- A builder with the expression that comes every minute. -/
def everyMinute : Sdk.ScheduleBuilder :=
  { Sdk.schedule "s" with workflowType := some "type", cron := some "0 * * * * *" }

/-- Its expression is accepted, and the template of another one can be read. -/
theorem accepted_and_read_sample :
    Config.sample.Parses "0 * * * * *" ∧ Readable .sample (tenSecondsWorld 1).db := by
  obtain ⟨hagree, hread⟩ := accepted_and_read .sample
  have hvalid : everyMinute.validate .sample = .ok ("type", "0 * * * * *") := by decide +kernel
  have h : Steps (server .sample fun _ => True) (.init (.empty 0) [])
      (fireAll (server .sample fun _ => True) (.init (.empty 0) []) (createTenSeconds (some 1))) :=
    AllEnabled.steps (by decide +kernel)
  have hempty : Readable .sample (World.empty 0).db := fun r hr => by cases hr
  exact ⟨(hagree everyMinute _ _ hvalid).1.mpr (by decide +kernel), (hread _ _ hempty h).1⟩

/-- Settings with a parser that knows a shorthand. -/
def shorthands : Config :=
  { Config.sample with
    cronSchedule := fun expr =>
      if expr = "@daily" then .ok (.every 86400000000 (by decide)) else Config.sample.cronSchedule expr }

/-- The SDK accepts the shorthand, and the server does not. -/
theorem shorthand_is_refused : ¬ Agree shorthands := by
  intro hagree
  have hvalid : { everyMinute with cron := some "@daily" }.validate shorthands
      = .ok ("type", "@daily") := by decide +kernel
  obtain ⟨hsix, -⟩ := parses_iff.mp (hagree _ _ _ hvalid)
  exact absurd hsix (by decide +kernel)

end CronExpressions

end Kagzi
