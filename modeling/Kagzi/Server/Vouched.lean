import Kagzi.Logic.Early
import Kagzi.Server.Service
import Kagzi.Store.RunChange
import Kagzi.Store.StepChange

/-!
# What the server writes

The handlers look at some of the data before they store it: a cron expression is parsed, and
the size of an input or an output is checked.  A `Vouch` is something that is known of data
that has passed these checks.  A tick copies the input of a template to an instance, and an
edit of a template writes the expression back that it has read, so that what they write is
vouched for if what is stored already is.

`handle_failsEarly` says for every handler that it writes only such data, and that it fails
with the error of the size check only before it writes to the tables of the runs and steps.
`stored_vouched` is what follows for the runs of the server.
-/

namespace Kagzi

open Atomic Relational

/-! ## Data that has been checked -/

/-- The expression has been parsed by `parse_cron_expr`. -/
def Config.Parses (cfg : Config) (expr : String) : Prop :=
  ∃ cron, ScheduleService.parseCronExpr cfg expr = .ok cron

/-- The data is not larger than `payload_max_size_bytes`. -/
def Config.Fits (cfg : Config) (bytes : Bytes) : Prop := bytes.length ≤ cfg.payloadMaxSizeBytes

/-- What is known of the data in the store.  Checked data is such data. -/
structure Vouch (cfg : Config) where
  /-- A cron expression. -/
  expr : String → Prop
  /-- An input or an output. -/
  bytes : Bytes → Prop
  of_parses : ∀ {e : String}, cfg.Parses e → expr e
  of_fits : ∀ {b : Bytes}, cfg.Fits b → bytes b

/-- What the statement writes is vouched for. -/
def Stmt.Vouched {cfg : Config} (V : Vouch cfg) : Stmt → Prop
  | .createWorkflow params => V.bytes params.input ∧ ∀ expr ∈ params.cronExpr, V.expr expr
  | .updateWorkflow _ workflow => ∀ expr ∈ workflow.cronExpr, V.expr expr
  | .completeRun _ output => V.bytes output
  | .setOutput _ output => V.bytes output
  | .supersede step => (∀ input ∈ step.input, V.bytes input) ∧ ∀ output ∈ step.output, V.bytes output
  | .insertStep step => (∀ input ∈ step.input, V.bytes input) ∧ ∀ output ∈ step.output, V.bytes output
  | .completeRunningStep _ _ output => V.bytes output
  | .recordLatestStep _ _ _ output _ => ∀ bytes ∈ output, V.bytes bytes
  | _ => True

/-- What is stored is vouched for. -/
structure Db.Vouched {cfg : Config} (V : Vouch cfg) (db : Db) : Prop where
  cron : ∀ r ∈ db.runs.rows, ∀ expr ∈ r.cronExpr, V.expr expr
  input : ∀ p ∈ db.payloads.rows, V.bytes p.input
  output : ∀ p ∈ db.payloads.rows, ∀ output ∈ p.output, V.bytes output
  stepInput : ∀ s ∈ db.steps.rows, ∀ input ∈ s.input, V.bytes input
  stepOutput : ∀ s ∈ db.steps.rows, ∀ output ∈ s.output, V.bytes output

/-! ## One statement -/

section OneStatement
variable {cfg : Config} {V : Vouch cfg} {e : Env} {q : Stmt} {db : Db}

/-- A statement keeps the expression of a run, or writes one that has been checked. -/
theorem cron_of_change {old new : Option RunRow} (hq : q.Vouched V) (hc : RunChange e q old new)
    (h : ∀ r ∈ old, ∀ expr ∈ r.cronExpr, V.expr expr) :
    ∀ r ∈ new, ∀ expr ∈ r.cronExpr, V.expr expr := by
  rintro r' rfl
  cases hc with
  | same => exact h _ rfl
  | created => exact hq.2
  | instantiated => exact nofun
  | overwritten => exact hq
  | @claimed _ _ _ _ _ r _ => exact h r rfl
  | @extended _ _ r _ _ => exact h r rfl
  | @cancelledRunning _ r _ => exact h r rfl
  | @cancelledWaiting _ r _ => exact h r rfl
  | @completed _ r _ => exact h r rfl
  | @failed _ r _ => exact h r rfl
  | @slept _ r _ => exact h r rfl
  | @retried _ r _ => exact h r rfl
  | @nextFired _ _ r => exact h r rfl
  | @orphaned _ r _ _ => exact h r rfl

/-- An instance has the input of its template. -/
theorem createScheduleInstance_input {templateRunId : Uuid} {fireAt : Int} {p : PayloadRow}
    (hp : p ∈ (createScheduleInstance templateRunId fireAt e db).2.payloads.rows) :
    p ∈ db.payloads.rows ∨ p.output = none ∧ ∃ p₀ ∈ db.payloads.rows, p₀.input = p.input := by
  unfold createScheduleInstance at hp
  split at hp
  next => exact .inl hp
  next =>
    split at hp
    next => exact .inl hp
    next t _ _ =>
      have hget : Db.payload _ p.runId = some p := Table.get?_of_mem hp
      rcases Db.insertRun_payload db _ _ p.runId with h | ⟨bytes, hbytes, -, hsome⟩
      · exact .inl (Table.mem_of_get? (h.symm.trans hget))
      · obtain ⟨p₀, hp₀, hinput⟩ := Option.map_eq_some_iff.mp hbytes
        have hrow := Option.some.inj (hsome.symm.trans hget)
        exact .inr ⟨hrow ▸ rfl, p₀, Table.mem_of_get? hp₀, hrow ▸ hinput⟩

/-- The payloads after a statement. -/
theorem payload_of_exec {p : PayloadRow} (hq : q.Vouched V) (h : db.Vouched V)
    (hp : p ∈ (q.exec e db).2.payloads.rows) :
    V.bytes p.input ∧ ∀ output ∈ p.output, V.bytes output := by
  have hold : ∀ {runId p}, db.payload runId = some p →
      V.bytes p.input ∧ ∀ output ∈ p.output, V.bytes output := by
    intro runId p hp
    exact ⟨h.input p (Table.mem_of_get? hp), h.output p (Table.mem_of_get? hp)⟩
  have hchange := q.exec_payload e db p.runId
  rw [show (q.exec e db).2.payload p.runId = some p from Table.get?_of_mem hp] at hchange
  generalize hbefore : db.payload p.runId = before at hchange
  cases hchange with
  | same => exact hold hbefore
  | created => exact ⟨hq.1, nofun⟩
  | completed =>
      refine ⟨(hold hbefore).1, fun output houtput => ?_⟩
      obtain rfl := Option.some.inj houtput
      exact hq
  | written =>
      refine ⟨(hold hbefore).1, fun output houtput => ?_⟩
      obtain rfl := Option.some.inj houtput
      exact hq
  | @instantiated template fireAt input =>
      rcases Stmt.exec_cases e (.createScheduleInstance template fireAt) db with hx | hx
      · rw [hx] at hp
        exact ⟨h.input _ hp, h.output _ hp⟩
      · rw [hx] at hp
        rcases createScheduleInstance_input hp with hmem | ⟨-, p₀, hp₀, hinput⟩
        · exact ⟨h.input _ hmem, h.output _ hmem⟩
        · exact ⟨hinput ▸ h.input p₀ hp₀, nofun⟩

/-- An update of steps keeps their outputs, or sets one that is vouched for. -/
theorem stepUpdate_output {p : StepRow → Bool} {f : StepRow → StepRow} {s : StepRow}
    (hq : q.Vouched V) (hu : q.stepUpdate e = some (p, f))
    (hs : ∀ output ∈ s.output, V.bytes output) : ∀ output ∈ (f s).output, V.bytes output := by
  cases q with
  | supersede _ => cases hu; exact hs
  | completeRunningStep _ _ output =>
      cases hu
      rintro output houtput
      obtain rfl := Option.some.inj houtput
      exact hq
  | failRunningStep _ _ _ => cases hu; exact hs
  | failLatestStep _ _ _ => cases hu; exact hs
  | completePendingSleeps _ => cases hu; exact hs
  | recordLatestStep _ _ _ _ _ => cases hu; exact hq
  | _ => cases hu

/-- The steps after a statement. -/
theorem step_of_exec {s : StepRow} (hq : q.Vouched V) (h : db.Vouched V)
    (hs : s ∈ (q.exec e db).2.steps.rows) :
    (∀ input ∈ s.input, V.bytes input) ∧ ∀ output ∈ s.output, V.bytes output := by
  cases Stmt.exec_attempt hs with
  | kept hmem => exact ⟨h.stepInput s hmem, h.stepOutput s hmem⟩
  | @updated s₀ _ _ hmem hupdate _ =>
      have hinput := (Stmt.stepUpdate_keeps hupdate s₀).input
      exact ⟨hinput ▸ h.stepInput _ hmem, stepUpdate_output hq hupdate (h.stepOutput _ hmem)⟩
  | @inserted step ns n hinserted =>
      cases q with
      | supersede _ => cases hinserted; exact hq
      | insertStep _ => cases hinserted; exact hq
      | _ => cases hinserted

theorem Db.Vouched.exec (h : db.Vouched V) (hq : q.Vouched V) : (q.exec e db).2.Vouched V where
  cron := by
    intro r hr
    have hchange := q.exec_run e db r.runId
    rw [Db.run_of_mem hr] at hchange
    exact cron_of_change hq hchange (fun r₀ hr₀ => h.cron r₀ (Db.mem_of_run hr₀)) r rfl
  input p hp := (payload_of_exec hq h hp).1
  output p hp := (payload_of_exec hq h hp).2
  stepInput s hs := (step_of_exec hq h hs).1
  stepOutput s hs := (step_of_exec hq h hs).2

end OneStatement

/-! ## Errors of the size check -/

/-- What `validate_payload_size` is called on. -/
def payloadContexts : List String :=
  ["Workflow input", "Workflow output", "Step input", "Step output", "Lifecycle output"]

/-- The error says that some data is too large. -/
def Config.SizeError (cfg : Config) (status : Status) : Prop :=
  ∃ context ∈ payloadContexts, ∃ bytes x,
    validatePayloadSize cfg.payloadMaxSizeBytes bytes context = .error x ∧ status = mapStoreError x

section Sizes
variable {cfg : Config} {status : Status}

theorem fits_of_validate {bytes : Bytes} {context : String}
    (h : validatePayloadSize cfg.payloadMaxSizeBytes bytes context = .ok ()) : cfg.Fits bytes := by
  unfold validatePayloadSize at h
  split at h
  next => cases h
  next hle => exact Nat.le_of_not_gt hle

theorem fits_of_validateOptional {bytes : Option Bytes} {context : String}
    (h : validateOptionalSize cfg.payloadMaxSizeBytes bytes context = .ok ()) :
    ∀ b ∈ bytes, cfg.Fits b := by
  rintro b rfl
  exact fits_of_validate h

/-- Size errors are invalid arguments. -/
theorem code_of_sizeError (h : cfg.SizeError status) : status.code = .invalidArgument := by
  obtain ⟨context, -, bytes, x, hx, rfl⟩ := h
  unfold validatePayloadSize at hx
  split at hx
  next => cases hx; rfl
  next => cases hx

/-- The text of a size error begins with what was too large. -/
theorem message_of_sizeError (h : cfg.SizeError status) :
    ∃ context ∈ payloadContexts, (context ++ " exceeds").toList <+: status.message.toList := by
  obtain ⟨context, hcontext, bytes, x, hx, rfl⟩ := h
  refine ⟨context, hcontext, ?_⟩
  unfold validatePayloadSize at hx
  split at hx
  next =>
    cases hx
    have hsplit : " exceeds maximum size of ".toList = " exceeds".toList ++ " maximum size of ".toList :=
      rfl
    simp [mapStoreError, invalidArgumentError, errDetail, Status.message, hsplit]
  next => cases hx

/-- Errors of statements say nothing about sizes. -/
theorem not_sizeError_of_sql {x : StoreError} (h : x.OfSql) : ¬ cfg.SizeError (mapStoreError x) := by
  intro hsize
  cases h with
  | database => cases code_of_sizeError hsize
  | unique => cases code_of_sizeError hsize
  | foreignKey =>
      obtain ⟨context, hcontext, hprefix⟩ := message_of_sizeError hsize
      revert context
      decide

end Sizes

/-! ## Parts of handlers -/

/-- What a statement answers when everything that is stored has been checked. -/
def Vouch.Answers {cfg : Config} (V : Vouch cfg) (q : Stmt) (a : q.Result) : Prop :=
  ∃ e db, db.Vouched V ∧ a = (q.exec e db).1

/-- The statement writes to none of the tables of runs, payloads and steps. -/
def Stmt.isQuiet (q : Stmt) : Bool := q.sparesRuns && q.sparesSteps

/-- A statement that writes to none of these tables writes nothing that has to be checked. -/
theorem Stmt.vouched_of_isQuiet {cfg : Config} {V : Vouch cfg} {q : Stmt} (h : q.isQuiet = true) : q.Vouched V := by
  cases q with
  | createWorkflow _ => cases h
  | updateWorkflow _ _ => cases h
  | completeRun _ _ => cases h
  | setOutput _ _ => cases h
  | supersede _ => cases h
  | insertStep _ => cases h
  | completeRunningStep _ _ _ => cases h
  | recordLatestStep _ _ _ _ _ => cases h
  | _ => trivial

namespace Vouched

section Parts
variable {cfg : Config} {V : Vouch cfg} {ε α β : Type} {X : ε → Prop}

/-- The part of a handler fails with errors `X` only before it writes. -/
abbrev Early {cfg : Config} (V : Vouch cfg) (X : ε → Prop) (p : Prog Stmt Stmt.Result ε α) : Prop :=
  p.FailsEarly V.Answers (Stmt.Vouched V) (fun q => q.isQuiet = false) X

/-- The part of a handler fails with no errors `X`. -/
abbrev Safe {cfg : Config} (V : Vouch cfg) (X : ε → Prop) (p : Prog Stmt Stmt.Result ε α) : Prop :=
  p.Within V.Answers (Stmt.Vouched V) (fun _ => True) fun x => ¬ X x

/-- The part of a handler does not write, and what it returns satisfies `P`. -/
abbrev Reads {cfg : Config} (V : Vouch cfg) (P : α → Prop) (p : Prog Stmt Stmt.Result ε α) : Prop :=
  p.Within V.Answers (fun q => q.isQuiet = true) P fun _ => True

/-- The size errors of the store. -/
def StoreSizeError (cfg : Config) (x : StoreError) : Prop := cfg.SizeError (mapStoreError x)

theorem Safe.early {p : Prog Stmt Stmt.Result ε α} (h : Safe V X p) : Early V X p :=
  Prog.Within.failsEarly h

theorem Safe.andThen {p : Prog Stmt Stmt.Result ε α} {f : α → Prog Stmt Stmt.Result ε β}
    (h : Safe V X p) (hf : ∀ a, Safe V X (f a)) : Safe V X (p >>= f) :=
  Prog.Within.bind h fun a _ => hf a

theorem Reads.early {P : α → Prop} {p : Prog Stmt Stmt.Result ε α}
    {f : α → Prog Stmt Stmt.Result ε β} (h : Reads V P p) (hf : ∀ a, P a → Early V X (f a)) :
    Early V X (p >>= f) :=
  Prog.Within.bind_failsEarly h (fun _ hq => ⟨Stmt.vouched_of_isQuiet hq, by simp [hq]⟩) hf

theorem safe_call {f : Store α} (h : Safe V (StoreSizeError cfg) f) :
    Safe V cfg.SizeError (call f) :=
  Prog.Within.mapError h fun _ h => h

theorem early_call {f : Store α} (h : Early V (StoreSizeError cfg) f) :
    Early V cfg.SizeError (call f) :=
  Prog.FailsEarly.mapError h

theorem reads_call {P : α → Prop} {f : Store α} (h : Reads V P f) : Reads V P (call f) :=
  Prog.Within.mapError h fun _ _ => trivial

/-- Errors that are handed on are no errors. -/
theorem safe_attempt {ε' : Type} {Y : ε' → Prop} {p : Prog Stmt Stmt.Result ε α}
    (h : p.Uses (Stmt.Vouched V)) :
    Safe V Y (p.attempt : Prog Stmt Stmt.Result ε' (Except ε α)) :=
  (Prog.Within.attempt h.within).mono (fun _ _ => trivial) fun _ h => h

/-- A statement fails with no size error, and answers what the store has. -/
theorem answered_sql {q : Stmt} (h : q.Vouched V) :
    (sql q).Within V.Answers (Stmt.Vouched V) (fun a => V.Answers q (.ok a))
      fun x => ¬ StoreSizeError cfg x := by
  refine within_sql h (fun _ ha => ha) ?_
  rintro x ⟨e, db, -, hx⟩
  exact not_sizeError_of_sql (Stmt.exec_ofSql hx.symm)

theorem answered_stmt {q : Stmt} (h : q.Vouched V) :
    (stmt q).Within V.Answers (Stmt.Vouched V) (fun a => V.Answers q (.ok a))
      fun x => ¬ cfg.SizeError x :=
  Prog.Within.mapError (answered_sql h) fun _ h => h

theorem safe_sql {q : Stmt} (h : q.Vouched V) : Safe V (StoreSizeError cfg) (sql q) :=
  (answered_sql h).mono (fun _ _ => trivial) fun _ h => h

theorem safe_stmt {q : Stmt} (h : q.Vouched V) : Safe V cfg.SizeError (stmt q) :=
  safe_call (safe_sql h)

theorem reads_sql {q : Stmt} (h : q.isQuiet = true) :
    Reads V (fun a => V.Answers q (.ok a)) (sql q) :=
  within_sql h (fun _ ha => ha) fun _ _ => trivial

theorem reads_stmt {q : Stmt} (h : q.isQuiet = true) :
    Reads V (fun a => V.Answers q (.ok a)) (stmt q) :=
  reads_call (reads_sql h)

theorem early_ofExcept_bind {r : Except ε α} {f : α → Prog Stmt Stmt.Result ε β}
    (h : ∀ a, r = .ok a → Early V X (f a)) : Early V X (.ofExcept r >>= f) := by
  cases r with
  | ok a => exact h a rfl
  | error x => trivial

theorem early_orFail_bind {a : Option α} {status : Status} {f : α → Rpc β}
    (h : ∀ x, a = some x → Early V cfg.SizeError (f x)) :
    Early V cfg.SizeError (orFail a status >>= f) := by
  cases a with
  | none => trivial
  | some x => exact h x rfl

theorem early_uuid_bind {text message : String} {f : Uuid → Rpc β}
    (h : ∀ runId, Early V cfg.SizeError (f runId)) :
    Early V cfg.SizeError (cfg.uuid text message >>= f) :=
  early_orFail_bind fun runId _ => h runId

theorem early_requireNonEmpty_bind {value field : String} {f : Unit → Rpc β}
    (h : Early V cfg.SizeError (f ())) :
    Early V cfg.SizeError (requireNonEmpty value field >>= f) := by
  unfold requireNonEmpty
  split
  next => trivial
  next => exact h

end Parts

/-! ## The repositories -/

section Repositories
variable {cfg : Config} {V : Vouch cfg}

theorem reads_getOrCreate (ns : String) : Reads V (fun _ => True) (NamespaceRepository.getOrCreate ns) := by
  refine (reads_sql rfl).bind fun found _ => ?_
  cases found with
  | some _ => trivial
  | none =>
      refine (reads_sql rfl).bind fun now _ => ?_
      exact (reads_sql rfl).mono (fun _ _ => trivial) fun _ h => h

/-- A run is created only with an input that has passed the check. -/
theorem early_create {params : CreateWorkflow} (h : ∀ expr ∈ params.cronExpr, V.expr expr) :
    Early V (StoreSizeError cfg) (WorkflowRepository.create cfg.payloadMaxSizeBytes params) :=
  early_ofExcept_bind fun _ hsize =>
    Safe.early (p := sql (.createWorkflow params)) (safe_sql ⟨V.of_fits (fits_of_validate hsize), h⟩)

theorem safe_cancel (runId : Uuid) (ns : String) :
    Safe V (StoreSizeError cfg) (WorkflowRepository.cancel runId ns) := by
  refine Safe.andThen (safe_sql trivial) fun hit => ?_
  cases hit with
  | true => trivial
  | false => exact safe_sql trivial

theorem early_completeRun (runId : Uuid) (output : Bytes) :
    Early V (StoreSizeError cfg) (WorkflowRepository.complete cfg.payloadMaxSizeBytes runId output) := by
  refine early_ofExcept_bind fun _ hsize => ?_
  have hfits := V.of_fits (fits_of_validate hsize)
  refine Safe.early (Safe.andThen (safe_sql hfits) fun hit => ?_)
  cases hit with
  | true => trivial
  | false => exact safe_sql hfits

theorem safe_replaceLatest {step : NewStep}
    (h : (∀ input ∈ step.input, V.bytes input) ∧ ∀ output ∈ step.output, V.bytes output) :
    Safe V (StoreSizeError cfg) (StepRepository.replaceLatest step) := by
  refine Safe.andThen (safe_sql h) fun hit => ?_
  cases hit with
  | true => trivial
  | false => exact safe_sql h

theorem safe_latestStepKindStrict (runId : Uuid) (stepId : String) :
    Safe V (StoreSizeError cfg) (StepRepository.latestStepKindStrict runId stepId) := by
  refine Safe.andThen (safe_sql trivial) fun kind => ?_
  cases kind with
  | some kind => trivial
  | none => exact fun h => nomatch code_of_sizeError h

theorem early_begin (params : BeginStepParams) :
    Early V (StoreSizeError cfg) (StepRepository.begin cfg.payloadMaxSizeBytes params) := by
  refine early_ofExcept_bind fun _ hsize => Safe.early ?_
  refine Safe.andThen (safe_sql trivial) fun found => ?_
  split
  next => trivial
  next =>
    refine Safe.andThen (safe_sql trivial) fun attemptId => ?_
    exact Safe.andThen (safe_replaceLatest ⟨fun b hb =>
      V.of_fits (fits_of_validateOptional hsize b hb), nofun⟩) fun _ => trivial

/-- The completion of a step, after the check. -/
theorem safe_complete {runId : Uuid} {stepId : String} {output : Bytes} (h : cfg.Fits output) :
    Safe V (StoreSizeError cfg)
      (StepRepository.complete cfg.payloadMaxSizeBytes runId stepId output) := by
  have hsize : validatePayloadSize cfg.payloadMaxSizeBytes output "Step output" = .ok () :=
    if_neg (Nat.not_lt_of_le h)
  have houtput : ∀ bytes ∈ some output, V.bytes bytes := by
    rintro bytes hbytes
    obtain rfl := Option.some.inj hbytes
    exact V.of_fits h
  unfold StepRepository.complete
  rw [hsize]
  change Safe V _ (StepRepository.latestStepKindStrict runId stepId >>= _)
  refine Safe.andThen (safe_latestStepKindStrict runId stepId) fun kind => ?_
  refine Safe.andThen (safe_sql (V.of_fits h)) fun hit => ?_
  cases hit with
  | true => trivial
  | false =>
      refine Safe.andThen (safe_sql trivial) fun found => ?_
      split
      next => trivial
      next => exact Safe.andThen (safe_sql trivial) fun attemptId => safe_replaceLatest ⟨nofun, houtput⟩

theorem early_complete (runId : Uuid) (stepId : String) (output : Bytes) :
    Early V (StoreSizeError cfg)
      (StepRepository.complete cfg.payloadMaxSizeBytes runId stepId output) := by
  cases hsize : validatePayloadSize cfg.payloadMaxSizeBytes output "Step output" with
  | ok _ => exact (safe_complete (fits_of_validate hsize)).early
  | error x =>
      unfold StepRepository.complete
      rw [hsize]
      trivial

theorem safe_failForGood (params : FailStepParams) :
    Safe V (StoreSizeError cfg) (StepRepository.failForGood params) := by
  refine Safe.andThen (safe_latestStepKindStrict _ _) fun kind => ?_
  refine Safe.andThen (safe_sql trivial) fun hit => ?_
  cases hit with
  | true => trivial
  | false =>
      refine Safe.andThen (safe_sql trivial) fun attemptId => ?_
      exact Safe.andThen (safe_replaceLatest ⟨nofun, nofun⟩) fun _ => trivial

theorem safe_fail (params : FailStepParams) :
    Safe V (StoreSizeError cfg) (StepRepository.fail params) := by
  refine Safe.andThen (safe_sql trivial) fun info => ?_
  cases info with
  | none => exact safe_failForGood params
  | some info =>
      dsimp only
      split
      next =>
        refine Safe.andThen ?_ fun delayMs => Safe.andThen (safe_sql trivial) fun _ => trivial
        unfold StepRepository.retryDelayMs
        split
        next => trivial
        next => exact Safe.andThen (safe_sql trivial) fun _ => trivial
      next => exact safe_failForGood params

/-- An event is recorded only with an output that has passed the check. -/
theorem recordLifecycleEvent_vouched (runId : Uuid) (stepKind : StepKind) (output : Option Bytes) :
    (StepRepository.recordLifecycleEvent cfg.payloadMaxSizeBytes cfg.utf8 runId stepKind output).Uses
      (Stmt.Vouched V) := by
  unfold StepRepository.recordLifecycleEvent
  cases hsize : validateOptionalSize cfg.payloadMaxSizeBytes output "Lifecycle output" with
  | error x => trivial
  | ok _ =>
      have hfits := fun b hb => V.of_fits (fits_of_validateOptional hsize b hb)
      change (sql (.recordLatestStep _ _ _ output _) >>= _).Uses (Stmt.Vouched V)
      refine Prog.Uses.bind (uses_sql hfits) fun hit => ?_
      cases hit with
      | true => trivial
      | false =>
          refine Prog.Uses.bind (uses_sql trivial) fun attemptId => ?_
          refine Prog.Uses.bind (uses_sql ⟨nofun, hfits⟩) fun hit => ?_
          cases hit with
          | true => trivial
          | false => exact uses_sql ⟨nofun, hfits⟩

theorem safe_recordEvent {Y : Status → Prop} (runId : Uuid) (stepKind : StepKind) (output : Option Bytes) :
    Safe V Y (StepRepository.recordLifecycleEvent cfg.payloadMaxSizeBytes cfg.utf8 runId stepKind
      output).attempt :=
  safe_attempt (recordLifecycleEvent_vouched runId stepKind output)

end Repositories

/-! ## The handlers -/

section Handlers
variable {cfg : Config} (V : Vouch cfg)

/-- An error of another code is no size error. -/
theorem not_sizeError_of_code {status : Status} (h : status.code ≠ .invalidArgument) :
    ¬ cfg.SizeError status := fun hsize => h (code_of_sizeError hsize)

/-- The errors that are left when the size has been checked. -/
theorem within_attempt_create {params : CreateWorkflow} (h : (Stmt.createWorkflow params).Vouched V) :
    ((sql (.createWorkflow params)).attempt : Rpc (Except StoreError Uuid)).Within V.Answers
      (Stmt.Vouched V) (fun r => ∀ x, r = .error x → ¬ cfg.SizeError (mapStoreError x))
      (fun x => ¬ cfg.SizeError x) := by
  refine (Prog.Within.attempt (safe_sql h)).mono (fun r hr x hx => ?_) fun _ h => h
  subst hx
  exact hr

theorem early_startWorkflow (req : StartWorkflowRequest) :
    Early V cfg.SizeError (WorkflowService.startWorkflow cfg req) := by
  refine early_requireNonEmpty_bind (early_requireNonEmpty_bind (early_requireNonEmpty_bind
    (early_requireNonEmpty_bind ?_)))
  refine Reads.early (reads_call (reads_getOrCreate req.ns)) fun _ _ => ?_
  refine Reads.early (reads_stmt rfl) fun runId _ => ?_
  unfold WorkflowRepository.create
  dsimp only
  cases hsize : validatePayloadSize cfg.payloadMaxSizeBytes (payloadToBytes req.input) "Workflow input" with
  | error x =>
      -- the error is handed on, and nothing has been written
      change Early V cfg.SizeError (if x.isUniqueViolation then _ else _)
      split
      next =>
        refine Reads.early (reads_stmt rfl) fun existing _ => ?_
        exact early_orFail_bind fun _ _ => trivial
      next => trivial
  | ok _ =>
      refine Safe.early (Prog.Within.bind (within_attempt_create V ⟨V.of_fits (fits_of_validate hsize), ?_⟩)
        fun created hcreated => ?_)
      · intro expr hexpr
        cases hexpr
      · cases created with
        | ok id => exact Safe.andThen (safe_attempt (uses_sql trivial)) fun _ => trivial
        | error x =>
            dsimp only
            split
            next =>
              refine Safe.andThen (safe_stmt trivial) fun existing => ?_
              exact within_orFail_bind (fun _ _ => trivial) fun _ => hcreated x rfl
            next => exact hcreated x rfl

theorem early_getWorkflow (req : GetWorkflowRequest) :
    Early V cfg.SizeError (WorkflowService.getWorkflow cfg req) := by
  refine early_uuid_bind fun runId => early_requireNonEmpty_bind ?_
  refine Reads.early (reads_stmt rfl) fun found _ => ?_
  cases found with
  | none => trivial
  | some w =>
      dsimp only
      split
      next => trivial
      next => exact Reads.early (reads_stmt rfl) fun now _ => trivial

theorem early_cancelWorkflow (req : CancelWorkflowRequest) :
    Early V cfg.SizeError (WorkflowService.cancelWorkflow cfg req) := by
  refine early_uuid_bind fun runId => early_requireNonEmpty_bind (Safe.early ?_)
  refine Safe.andThen (safe_call (safe_cancel runId req.ns)) fun hit => ?_
  cases hit with
  | true => exact Safe.andThen (safe_recordEvent _ _ _) fun _ => trivial
  | false =>
      refine Safe.andThen (safe_stmt trivial) fun found => ?_
      split
      next => exact not_sizeError_of_code nofun
      next => exact not_sizeError_of_code nofun

theorem early_retryWorkflow (req : RetryWorkflowRequest) :
    Early V cfg.SizeError (WorkflowService.retryWorkflow cfg req) := by
  refine early_uuid_bind fun runId => early_requireNonEmpty_bind ?_
  refine Reads.early (reads_stmt rfl) fun found _ => early_orFail_bind fun workflow _ => ?_
  split
  next => trivial
  next =>
    refine Reads.early (reads_stmt rfl) fun newId _ => ?_
    refine (early_call (early_create fun expr hexpr => ?_)).bind fun _ => trivial
    cases hexpr

theorem early_terminateWorkflow (req : TerminateWorkflowRequest) :
    Early V cfg.SizeError (WorkflowService.terminateWorkflow cfg req) := by
  refine early_uuid_bind fun runId => early_requireNonEmpty_bind (Safe.early ?_)
  refine Safe.andThen (safe_call ?_) fun _ => trivial
  exact Safe.andThen (safe_sql trivial) fun _ => trivial

/-- The check that comes before the messages of an execution only reads. -/
theorem reads_validateWorkflowAction (runId : Uuid) :
    Reads V (fun _ => True) (WorkerService.validateWorkflowAction cfg runId) := by
  refine Prog.Within.bind (reads_stmt rfl) fun found _ => ?_
  refine within_orFail_bind (fun ns _ => ?_) fun _ => trivial
  refine Prog.Within.bind (reads_stmt rfl) fun check _ => ?_
  split
  next => trivial
  next =>
    split
    next => split <;> trivial
    next => trivial

theorem early_register (req : RegisterRequest) :
    Early V cfg.SizeError (WorkerService.register cfg req) := by
  unfold WorkerService.register
  split
  next => trivial
  next => exact early_requireNonEmpty_bind (Reads.early (reads_stmt rfl) fun _ _ => trivial)

theorem early_heartbeat (req : HeartbeatRequest) :
    Early V cfg.SizeError (WorkerService.heartbeat cfg req) := by
  refine early_uuid_bind fun workerId => Reads.early (reads_stmt rfl) fun hit _ => ?_
  cases hit with
  | false => trivial
  | true =>
      refine Safe.early (Safe.andThen (safe_stmt trivial) fun _ => ?_)
      exact Safe.andThen (safe_stmt trivial) fun worker => trivial

theorem early_deregister (req : DeregisterRequest) :
    Early V cfg.SizeError (WorkerService.deregister cfg req) := by
  refine early_uuid_bind fun workerId => Reads.early (reads_stmt rfl) fun found _ => ?_
  refine early_orFail_bind fun worker _ => ?_
  unfold WorkerService.leave
  split
  next => exact Reads.early (reads_stmt rfl) fun _ _ => trivial
  next => exact Reads.early (reads_stmt rfl) fun _ _ => trivial

theorem early_drainWorker (workerText : String) :
    Early V cfg.SizeError (WorkerService.drainWorker cfg workerText) := by
  refine early_uuid_bind fun workerId => Reads.early (reads_stmt rfl) fun found _ => ?_
  exact early_orFail_bind fun worker _ => Reads.early (reads_stmt rfl) fun _ _ => trivial

theorem safe_dispatch (item : ClaimedWorkflow) :
    Safe V cfg.SizeError (WorkerService.dispatch cfg item) := by
  refine Safe.andThen (safe_attempt (uses_sql trivial)) fun _ => ?_
  exact Safe.andThen (safe_recordEvent _ _ _) fun _ => trivial

theorem safe_pollLoop (req : PollTaskRequest) (types : List String) (waits : Nat) :
    Safe V cfg.SizeError (WorkerService.pollLoop cfg req types waits) := by
  induction waits with
  | zero =>
      refine Safe.andThen (safe_stmt trivial) fun item => ?_
      cases item with
      | some item => exact safe_dispatch V item
      | none => trivial
  | succ waits ih =>
      refine Safe.andThen (safe_stmt trivial) fun item => ?_
      cases item with
      | some item => exact safe_dispatch V item
      | none => exact ih

theorem early_pollTask (req : PollTaskRequest) (waits : Nat) :
    Early V cfg.SizeError (WorkerService.pollTask cfg req waits) := by
  refine early_uuid_bind fun workerId => ?_
  split
  next => trivial
  next =>
    refine early_requireNonEmpty_bind (Reads.early (reads_stmt rfl) fun found _ => ?_)
    refine early_orFail_bind fun worker _ => ?_
    split
    next => trivial
    next =>
      split
      next => trivial
      next =>
        split
        next => trivial
        next =>
          dsimp only
          split
          next => trivial
          next => exact (safe_pollLoop V req _ waits).early

theorem early_beginStep (req : BeginStepRequest) :
    Early V cfg.SizeError (WorkerService.beginStep cfg req) := by
  refine early_uuid_bind fun runId => Reads.early (reads_validateWorkflowAction V runId) fun _ _ => ?_
  refine Reads.early (reads_stmt rfl) fun policy _ => early_ofExcept_bind fun stepKind _ => ?_
  refine (early_call (early_begin _)).bind fun result => ?_
  refine Safe.andThen ?_ fun _ => trivial
  unfold WorkerService.finishSleep
  split
  next => exact safe_call (safe_complete (Nat.zero_le _))
  next => trivial

theorem early_completeStep (req : CompleteStepRequest) :
    Early V cfg.SizeError (WorkerService.completeStep cfg req) := by
  refine early_uuid_bind fun runId => Reads.early (reads_validateWorkflowAction V runId) fun ns _ => ?_
  refine (early_call (early_complete _ _ _)).bind fun _ => ?_
  refine Safe.andThen (safe_stmt trivial) fun rows => ?_
  exact within_orFail_bind (fun step _ => trivial) fun _ => not_sizeError_of_code nofun

theorem early_failStep (req : FailStepRequest) :
    Early V cfg.SizeError (WorkerService.failStep cfg req) := by
  refine early_uuid_bind fun runId => early_requireNonEmpty_bind (Safe.early ?_)
  refine Safe.andThen (safe_call (safe_fail _)) fun result => Safe.andThen ?_ fun _ => trivial
  unfold WorkerService.scheduleRetry
  split
  next => exact safe_call (Safe.andThen (safe_sql trivial) fun _ => trivial)
  next => trivial

theorem early_completeWorkflow (req : CompleteWorkflowRequest) :
    Early V cfg.SizeError (WorkerService.completeWorkflow cfg req) := by
  refine early_uuid_bind fun runId => Reads.early (reads_validateWorkflowAction V runId) fun _ _ => ?_
  refine (early_call (early_completeRun _ _)).bind fun _ => ?_
  exact Safe.andThen (safe_recordEvent _ _ _) fun _ => trivial

theorem early_failWorkflow (req : FailWorkflowRequest) :
    Early V cfg.SizeError (WorkerService.failWorkflow cfg req) := by
  refine early_uuid_bind fun runId => Reads.early (reads_validateWorkflowAction V runId) fun _ _ => ?_
  refine Safe.early (Safe.andThen (safe_call ?_) fun _ => ?_)
  · exact Safe.andThen (safe_sql trivial) fun _ => trivial
  · exact Safe.andThen (safe_recordEvent _ _ _) fun _ => trivial

theorem early_sleep (req : SleepRequest) : Early V cfg.SizeError (WorkerService.sleep cfg req) := by
  refine early_uuid_bind fun runId => early_orFail_bind fun duration _ => ?_
  refine early_orFail_bind fun secs _ => ?_
  split
  next => trivial
  next =>
    refine Safe.early (Safe.andThen (safe_call ?_) fun _ => trivial)
    exact Safe.andThen (safe_sql trivial) fun _ => trivial

/-! ## Schedules -/

variable {V} in
/-- The expression of a template that was found is vouched for. -/
theorem vouched_of_findById {runId : Uuid} {ns : String} {w : WorkflowRun}
    (h : V.Answers (.findById runId ns) (.ok (some w))) : ∀ expr ∈ w.cronExpr, V.expr expr := by
  obtain ⟨e, db, hdb, hres⟩ := h
  obtain ⟨hrun, -, -⟩ := run_of_findById (w := ⟨0, db, []⟩) hres.symm
  exact hdb.cron w.toRunRow (Db.mem_of_run hrun)

theorem parses_of_nextFireFromNow {expr : String} {now fire : Int}
    (h : ScheduleService.nextFireFromNow cfg expr now = .ok fire) : cfg.Parses expr := by
  unfold ScheduleService.nextFireFromNow at h
  unfold Config.Parses
  cases hparse : ScheduleService.parseCronExpr cfg expr with
  | error x =>
      rw [hparse] at h
      cases h
  | ok cron => exact ⟨cron, rfl⟩

/-- A text that does not say what was too large. -/
theorem not_sizeError_of_message {status : Status}
    (h : ∀ context ∈ payloadContexts, ¬ (context ++ " exceeds").toList <+: status.message.toList) :
    ¬ cfg.SizeError status := fun hsize => by
  obtain ⟨context, hcontext, hprefix⟩ := message_of_sizeError hsize
  exact h context hcontext hprefix

theorem safe_answer (w : WorkflowRun) : Safe V cfg.SizeError (ScheduleService.answer cfg w) := by
  refine Prog.Within.bind (Prog.within_ofExcept (P := fun _ => True) (fun _ _ => trivial) fun x hx => ?_)
    fun _ _ => trivial
  refine not_sizeError_of_message ?_
  unfold ScheduleService.workflowRunToScheduleProto at hx
  split at hx
  next => cases hx; decide
  next => cases hx; decide
  next => cases hx; decide
  next => cases hx

variable {V} in
theorem safe_updateWorkflow {runId : Uuid} {workflow : RunRow} {w : WorkflowRun}
    (h : ∀ expr ∈ w.cronExpr, V.expr expr) (hcron : workflow.cronExpr = w.cronExpr) :
    Safe V cfg.SizeError (stmt (.updateWorkflow runId workflow)) := by
  rw [← hcron] at h
  exact safe_stmt h

theorem early_find_bind {runId : Uuid} {ns scheduleId : String} {f : WorkflowRun → Rpc Response}
    (h : ∀ w : WorkflowRun, (∀ expr ∈ w.cronExpr, V.expr expr) → Early V cfg.SizeError (f w)) :
    Early V cfg.SizeError (ScheduleService.find runId ns scheduleId >>= f) := by
  change Early V cfg.SizeError ((stmt (.findById runId ns) >>= fun found => orFail found _) >>= f)
  rw [Prog.bind_assoc]
  refine Reads.early (reads_stmt rfl) fun found hfound => early_orFail_bind fun w hw => ?_
  subst hw
  exact h w (vouched_of_findById hfound)

theorem safe_find (runId : Uuid) (ns scheduleId : String) :
    Safe V cfg.SizeError (ScheduleService.find runId ns scheduleId) := by
  refine Safe.andThen (safe_stmt trivial) fun found => ?_
  cases found with
  | some w => trivial
  | none => exact not_sizeError_of_code nofun

theorem early_createWorkflowSchedule (req : CreateWorkflowScheduleRequest) :
    Early V cfg.SizeError (ScheduleService.createWorkflowSchedule cfg req) := by
  refine early_requireNonEmpty_bind (early_requireNonEmpty_bind (early_requireNonEmpty_bind
    (early_requireNonEmpty_bind (early_requireNonEmpty_bind ?_))))
  refine Reads.early (reads_call (reads_getOrCreate req.ns)) fun _ _ => ?_
  refine Reads.early (reads_stmt rfl) fun now _ => early_ofExcept_bind fun firstFire hfire => ?_
  have hparses : ∀ expr ∈ some req.cronExpr, V.expr expr := by
    rintro expr hexpr
    obtain rfl := Option.some.inj hexpr
    exact V.of_parses (parses_of_nextFireFromNow hfire)
  refine Reads.early (reads_stmt rfl) fun existing _ => ?_
  cases existing with
  | some existingRunId =>
      refine Reads.early (reads_stmt rfl) fun found _ => early_orFail_bind fun existing _ => ?_
      exact Safe.early (Safe.andThen (safe_stmt hparses) fun _ => safe_answer V _)
  | none =>
      refine Reads.early (reads_stmt rfl) fun runId _ => ?_
      refine (early_call (early_create hparses)).bind fun _ => ?_
      refine Prog.Within.bind (answered_stmt trivial) fun found hfound => ?_
      refine within_orFail_bind (fun template htemplate => ?_) fun _ => ?_
      · subst htemplate
        have hparses := vouched_of_findById hfound
        exact Safe.andThen (safe_updateWorkflow hparses rfl) fun _ => safe_answer V _
      · exact not_sizeError_of_message (by decide)

theorem reads_checkCron (cronExpr : Option String) :
    Reads V (fun _ => True) (ScheduleService.checkCron cfg cronExpr) := by
  cases cronExpr with
  | none => trivial
  | some expr =>
      refine Prog.Within.bind (Prog.within_ofExcept (P := fun _ => True) (fun _ _ => trivial) fun _ _ =>
        trivial) fun cron _ => ?_
      refine Prog.Within.bind (reads_stmt rfl) fun now _ => ?_
      exact Prog.Within.bind (Prog.within_ofExcept (P := fun _ => True) (fun _ _ => trivial) fun _ _ =>
        trivial) fun _ _ => trivial

theorem early_updateWorkflowSchedule (req : UpdateWorkflowScheduleRequest) :
    Early V cfg.SizeError (ScheduleService.updateWorkflowSchedule cfg req) := by
  refine early_uuid_bind fun runId => early_requireNonEmpty_bind ?_
  refine early_find_bind V fun current hcurrent => ?_
  refine Reads.early (reads_checkCron V req.cronExpr) fun _ _ => ?_
  refine Prog.FailsEarly.bind ?_ fun _ => Safe.andThen (safe_find V _ _ _) fun _ => safe_answer V _
  unfold ScheduleService.setEnabled
  split
  next =>
    refine early_ofExcept_bind fun cron _ => Reads.early (reads_stmt rfl) fun now _ => ?_
    refine early_ofExcept_bind fun fire _ => Safe.early ?_
    exact safe_updateWorkflow hcurrent rfl
  next =>
    refine Safe.early ?_
    exact safe_updateWorkflow hcurrent rfl
  next => trivial

theorem early_pauseWorkflowSchedule (req : ScheduleRequest) :
    Early V cfg.SizeError (ScheduleService.pauseWorkflowSchedule cfg req) := by
  refine early_uuid_bind fun runId => early_requireNonEmpty_bind ?_
  refine early_find_bind V fun schedule hschedule => Safe.early ?_
  exact Safe.andThen (safe_updateWorkflow hschedule rfl) fun _ => safe_answer V _

theorem early_resumeWorkflowSchedule (req : ScheduleRequest) :
    Early V cfg.SizeError (ScheduleService.resumeWorkflowSchedule cfg req) := by
  refine early_uuid_bind fun runId => early_requireNonEmpty_bind ?_
  refine early_find_bind V fun schedule hschedule => early_ofExcept_bind fun cron _ => ?_
  refine Reads.early (reads_stmt rfl) fun now _ => early_ofExcept_bind fun nextFire _ => Safe.early ?_
  exact Safe.andThen (safe_updateWorkflow hschedule rfl) fun _ => safe_answer V _

theorem early_deleteWorkflowSchedule (req : ScheduleRequest) :
    Early V cfg.SizeError (ScheduleService.deleteWorkflowSchedule cfg req) := by
  refine early_uuid_bind fun runId => early_requireNonEmpty_bind ?_
  refine early_find_bind V fun _ _ => Safe.early ?_
  exact Safe.andThen (safe_call (Safe.andThen (safe_sql trivial) fun _ => safe_sql trivial))
    fun _ => trivial

theorem early_triggerWorkflowSchedule (req : ScheduleRequest) :
    Early V cfg.SizeError (ScheduleService.triggerWorkflowSchedule cfg req) := by
  refine early_uuid_bind fun scheduleId => early_requireNonEmpty_bind ?_
  refine early_find_bind V fun schedule _ => Reads.early (reads_stmt rfl) fun runId _ => ?_
  refine (early_call (early_create fun expr hexpr => ?_)).bind fun _ => trivial
  cases hexpr

/-! ## Namespaces and the coordinator -/

theorem early_setEnabled (ns : String) {set : String → Store Bool}
    (h : Reads V (fun _ => True) (set ns)) :
    Early V cfg.SizeError (NamespaceService.setEnabled ns set) := by
  refine early_requireNonEmpty_bind (Reads.early (reads_call h) fun _ _ => ?_)
  refine Reads.early (reads_stmt rfl) fun found _ => early_orFail_bind fun row _ => trivial

theorem fireTemplates_vouched (now : Int) (templates : List WorkflowRun) :
    (Coordinator.fireTemplates cfg now templates).Uses (Stmt.Vouched V) := by
  induction templates with
  | nil => trivial
  | cons template templates ih =>
      refine Prog.Uses.bind ?_ fun _ => ih
      unfold Coordinator.fireTemplate
      split
      next => trivial
      next => trivial
      next => exact uses_sql trivial
      next =>
        refine Prog.Uses.bind (uses_sql trivial) fun granted => ?_
        cases granted with
        | false => trivial
        | true =>
            refine Prog.Uses.bind (uses_sql trivial) fun created => ?_
            cases created with
            | none => exact uses_sql trivial
            | some runId =>
                exact Prog.Uses.bind (uses_sql trivial).attempt fun _ => uses_sql trivial

theorem safe_coordinator (ticks : Nat) : Safe V cfg.SizeError (Coordinator.run cfg ticks) := by
  induction ticks with
  | zero => trivial
  | succ ticks ih =>
      refine Safe.andThen (Safe.andThen (safe_attempt ?_) fun _ => ?_) fun _ =>
        Safe.andThen ih fun _ => trivial
      · refine Prog.Uses.bind (uses_sql trivial) fun now => ?_
        exact Prog.Uses.bind (uses_sql trivial) fun templates => fireTemplates_vouched V now templates
      · exact Safe.andThen (safe_attempt (uses_sql trivial)) fun _ => trivial

end Handlers

end Vouched

/-- A handler writes only what it has checked or found, and fails with a size error only
before it writes. -/
theorem handle_failsEarly {cfg : Config} (V : Vouch cfg) (req : Request) :
    Vouched.Early V cfg.SizeError (handle cfg req) := by
  cases req with
  | startWorkflow req => exact Vouched.early_startWorkflow V req
  | getWorkflow req => exact Vouched.early_getWorkflow V req
  | cancelWorkflow req => exact Vouched.early_cancelWorkflow V req
  | retryWorkflow req => exact Vouched.early_retryWorkflow V req
  | terminateWorkflow req => exact Vouched.early_terminateWorkflow V req
  | register req => exact Vouched.early_register V req
  | heartbeat req => exact Vouched.early_heartbeat V req
  | deregister req => exact Vouched.early_deregister V req
  | pollTask req waits => exact Vouched.early_pollTask V req waits
  | beginStep req => exact Vouched.early_beginStep V req
  | completeStep req => exact Vouched.early_completeStep V req
  | failStep req => exact Vouched.early_failStep V req
  | completeWorkflow req => exact Vouched.early_completeWorkflow V req
  | failWorkflow req => exact Vouched.early_failWorkflow V req
  | sleep req => exact Vouched.early_sleep V req
  | createWorkflowSchedule req => exact Vouched.early_createWorkflowSchedule V req
  | updateWorkflowSchedule req => exact Vouched.early_updateWorkflowSchedule V req
  | deleteWorkflowSchedule req => exact Vouched.early_deleteWorkflowSchedule V req
  | triggerWorkflowSchedule req => exact Vouched.early_triggerWorkflowSchedule V req
  | pauseWorkflowSchedule req => exact Vouched.early_pauseWorkflowSchedule V req
  | resumeWorkflowSchedule req => exact Vouched.early_resumeWorkflowSchedule V req
  | drainWorker workerId => exact Vouched.early_drainWorker V workerId
  | enableNamespace ns =>
      exact Vouched.early_setEnabled V ns (Prog.Within.bind (Vouched.reads_sql rfl) fun _ _ =>
        (Vouched.reads_sql rfl).mono (fun _ _ => trivial) fun _ h => h)
  | disableNamespace ns =>
      exact Vouched.early_setEnabled V ns (Prog.Within.bind (Vouched.reads_sql rfl) fun _ _ =>
        (Vouched.reads_sql rfl).mono (fun _ _ => trivial) fun _ h => h)
  | coordinator ticks =>
      refine Vouched.Safe.early (Vouched.Safe.andThen (Vouched.safe_coordinator V ticks) fun _ => ?_)
      trivial

/-- What is stored remains vouched for, and a request that has ended with a size error has
written to none of the tables of runs, payloads and steps. -/
theorem stored_vouched {cfg : Config} {accepts : Request → Prop} {V : Vouch cfg} {w : World}
    {p : ServerState} (hw : w.db.Vouched V) (h : Steps (server cfg accepts) (.init w []) p) :
    p.store.db.Vouched V ∧ ∀ (i : Nat) (req : Request) (x : Status),
      p.calls[i]? = some (req, .fail x) → cfg.SizeError x →
        Quiet (fun q : Stmt => q.isQuiet = false) i p.trace := by
  have hans : ∀ (e : Env) (q : Stmt) (m : Now), m.store.db.Vouched V →
      V.Answers q (store.exec e q m.store).1 := fun e _ m hm => ⟨e, m.store.db, hm, rfl⟩
  have hkept : ∀ (i : Nat) (e : Env) (q : Stmt) (m : Now), m.store.db.Vouched V → q.Vouched V →
      (m.after store i e q).store.db.Vouched V := fun _ _ _ _ hm hq => Db.Vouched.exec hm hq
  obtain ⟨hdb, hearly⟩ := Steps.failsEarly (I := fun m : Now => m.store.db.Vouched V)
    (fun _ e q m hm _ => hans e q m hm) (fun i e q m hm hq _ => hkept i e q m hm hq)
    (fun req _ => handle_failsEarly V req) h hw
  exact ⟨hdb, fun i req x hget hx => Early.quiet (hearly i req _ hget) hx⟩

end Kagzi
