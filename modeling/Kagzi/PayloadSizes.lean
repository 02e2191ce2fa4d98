import Kagzi.Server.Vouched

/-!
# Payloads are bounded

`validate_payload_size` is called before each statement that writes a payload that comes
with a request.  What the other statements write is a copy of what is stored already.  So
the payloads of all runs and steps are as small as the configuration demands, and the calls
come so early that a request which is refused for the size of its data has changed none of
the tables of runs, payloads and steps.
-/

namespace Kagzi

open Atomic

namespace PayloadSizes

/-- The inputs and outputs of the runs and of their steps are not larger than
`payload_max_size_bytes`.  A lifecycle event is a step. -/
structure Bounded (cfg : Config) (db : Db) : Prop where
  workflowInput : ∀ p ∈ db.payloads.rows, p.input.length ≤ cfg.payloadMaxSizeBytes
  workflowOutput : ∀ p ∈ db.payloads.rows, ∀ output ∈ p.output,
    output.length ≤ cfg.payloadMaxSizeBytes
  stepInput : ∀ s ∈ db.steps.rows, ∀ input ∈ s.input, input.length ≤ cfg.payloadMaxSizeBytes
  stepOutput : ∀ s ∈ db.steps.rows, ∀ output ∈ s.output, output.length ≤ cfg.payloadMaxSizeBytes

theorem bounded_empty (cfg : Config) (now : Int) : Bounded cfg (World.empty now).db where
  workflowInput p hp := by cases hp
  workflowOutput p hp := by cases hp
  stepInput s hs := by cases hs
  stepOutput s hs := by cases hs

/-- One of the tables of runs, payloads and steps is not as before. -/
def ChangesTables (_ : Ran) (before after : World) : Prop :=
  after.db.runs ≠ before.db.runs ∨ after.db.payloads ≠ before.db.payloads ∨
    after.db.steps ≠ before.db.steps

/-- That the size has been checked is all that has to be known. -/
def sizes (cfg : Config) : Vouch cfg where
  expr _ := True
  bytes := cfg.Fits
  of_parses _ := trivial
  of_fits h := h

theorem vouched_iff {cfg : Config} {db : Db} : db.Vouched (sizes cfg) ↔ Bounded cfg db :=
  ⟨fun h => ⟨h.input, h.output, h.stepInput, h.stepOutput⟩,
    fun h => ⟨fun _ _ _ _ => trivial, h.workflowInput, h.workflowOutput, h.stepInput, h.stepOutput⟩⟩

theorem not_changesTables {q : Stmt} (h : q.isQuiet = true) (e : Env) (w : World) (ran : Ran) :
    ¬ ChangesTables ran w (store.exec e q w).2 := by
  obtain ⟨hruns, hsteps⟩ := Bool.and_eq_true_iff.mp h
  unfold ChangesTables
  simp only [store_exec_db]
  rcases q.exec_cases e w.db with hx | hx
  · simp [hx]
  · have hsame := q.sql_sparesRuns hruns e w.db
    simp [hx, hsame.runs, hsame.payloads, q.sql_sparesSteps hsteps e w.db]

/-- The payloads that are stored remain bounded, and a request that is refused for the size
of its data has changed nothing. -/
theorem payloads_bounded (cfg : Config) (w : World) (p : ServerState) (hw : Bounded cfg w.db)
    (h : Steps (server cfg fun _ => True) (.init w []) p) :
    Bounded cfg p.store.db ∧ ∀ (i : Nat) (req : Request) (status : Status),
      p.calls[i]? = some (req, .fail status) → cfg.SizeError status →
        ¬ Did store w i ChangesTables p.trace := by
  obtain ⟨hdb, hrefused⟩ := stored_vouched (vouched_iff.mpr hw) h
  refine ⟨vouched_iff.mp hdb, fun i req status hget hsize => ?_⟩
  refine (hrefused i req status hget hsize).not_did fun ran w hquiet => ?_
  exact not_changesTables (by simpa using hquiet) ran.env w ran

/-- Settings that allow one byte. -/
def oneByte : Config := { Config.sample with payloadMaxSizeBytes := 1 }

/-- A workflow with an input of two bytes. -/
def twoBytes : Request := .startWorkflow ⟨"id", "queue", "type", some [0, 0], "ns", "", none⟩

/-- It is refused. -/
def refused : ServerState :=
  fireAll (server oneByte fun _ => True) (.init (.empty 0) []) (.start twoBytes :: runs 0 4 (.quiet 0 1))

theorem payloads_bounded_refused :
    Bounded oneByte refused.store.db ∧ ¬ Did store (.empty 0) 0 ChangesTables refused.trace := by
  have h : Steps (server oneByte fun _ => True) (.init (.empty 0) []) refused :=
    AllEnabled.steps (by decide +kernel)
  obtain ⟨hbounded, hunchanged⟩ := payloads_bounded oneByte (.empty 0) refused (bounded_empty _ 0) h
  have hfail : refused.failed 0 = some (twoBytes, mapStoreError (.invalidArgument
      "Workflow input exceeds maximum size of 1 bytes (2 bytes). Do not use Kagzi for blob storage.")) := by
    decide +kernel
  refine ⟨hbounded, hunchanged 0 _ _ (Pool.calls_of_failed hfail) ?_⟩
  exact ⟨"Workflow input", by decide, [0, 0], _, rfl, rfl⟩

end PayloadSizes

end Kagzi
