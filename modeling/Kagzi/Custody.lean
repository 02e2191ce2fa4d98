import Kagzi.Sdk.Worker
import Kagzi.Sleeping

/-!
# Who has a run

A run belongs to the caller whose poll took it last (`taker`).  Most programs never take
a run: they make no poll (`handle_noPoll`).  What an execution of a workflow can do is
what the handlers of its requests can do (`execution_uses`).
-/

namespace Kagzi

open Atomic

namespace Custody

open Sdk
open Unexecuted (handed)
open Sleeping (handed_inv)

/-- The caller whose poll took the run last. -/
def taker (runId : Uuid) : List Ran → Option Nat
  | [] => none
  | ran :: trace => if handed ran = some runId then some ran.caller else taker runId trace

section Takers
variable {runId : Uuid} {i : Nat}

theorem taker_cons (ran : Ran) (trace : List Ran) (h : handed ran ≠ some runId) :
    taker runId (ran :: trace) = taker runId trace :=
  if_neg h

/-- A caller that took the run has polled it. -/
theorem exists_of_taker {trace : List Ran} (h : taker runId trace = some i) :
    ∃ ran ∈ trace, ran.caller = i ∧ handed ran = some runId := by
  induction trace with
  | nil => cases h
  | cons ran trace ih =>
      unfold taker at h
      split at h
      next hhanded => exact ⟨ran, List.mem_cons_self .., Option.some.inj h, hhanded⟩
      next =>
        obtain ⟨ran', hmem, hcaller⟩ := ih h
        exact ⟨ran', List.mem_cons_of_mem _ hmem, hcaller⟩

end Takers

/-! ## Programs that take no run -/

/-- The statement is no poll. -/
def NoPoll : Stmt → Prop
  | .pollWorkflow _ _ _ _ _ => False
  | _ => True

theorem not_handed_of_noPoll {runId : Uuid} {i : Nat} {e : Env} {q : Stmt} {m : Now} (hq : NoPoll q) :
    handed ⟨i, e, q, (store.exec e q m.store).1⟩ ≠ some runId := by
  intro h
  obtain ⟨ns, taskQueue, workerId, types, secs, r, rfl, -⟩ := handed_inv h
  exact hq

theorem noPoll_of_footprint {cfg : Config} {req : Request} {q : Stmt}
    (hreq : ∀ r waits, req ≠ .pollTask r waits) (hq : req.footprint cfg q) : NoPoll q := by
  cases q with
  | pollWorkflow _ _ _ _ _ =>
      obtain ⟨⟨r, waits, h, -⟩, -⟩ := hq.1
      exact hreq r waits h
  | _ => trivial

theorem handle_noPoll (cfg : Config) (req : Request)
    (hreq : ∀ r waits, req ≠ .pollTask r waits) : (handle cfg req).Uses NoPoll :=
  (handle_footprint cfg req).mono fun _ => noPoll_of_footprint hreq

/-! ## Executions -/

/-- The request is one that an execution of a workflow sends. -/
def FromExecution : Request → Prop
  | .beginStep _ => True
  | .completeStep _ => True
  | .failStep _ => True
  | .sleep _ => True
  | .completeWorkflow _ => True
  | .failWorkflow _ => True
  | _ => False

section Executions
variable {V : Type} {cfg : Config} {allowed : Stmt → Prop}

theorem completeLoop_uses {req : CompleteStepRequest}
    (h : (handle cfg (.completeStep req)).Uses allowed) (delays : Nat) (lost : List Bool) :
    (completeLoop cfg req delays lost).Uses allowed := by
  induction delays generalizing lost with
  | zero =>
      unfold completeLoop
      refine Prog.Uses.bind (send_uses h _).attempt fun r => ?_
      cases r with
      | ok _ => trivial
      | error e =>
          dsimp only
          split
          next => trivial
          next => split <;> trivial
  | succ delays ih =>
      unfold completeLoop
      refine Prog.Uses.bind (send_uses h _).attempt fun r => ?_
      cases r with
      | ok _ => trivial
      | error e =>
          dsimp only
          split
          next => trivial
          next =>
            split
            next => trivial
            next => exact ih _

/-- A step sends its result under the id it was given. -/
theorem proceed_uses (codec : Codec V) {run : StepRun V} {stepId : String} {allowed : Stmt → Prop}
    (hcomplete : ∀ output, (handle cfg (.completeStep ⟨run.ns, run.runId,
      if stepId = "" then run.name else stepId, some output⟩)).Uses allowed)
    (hfail : ∀ detail, (handle cfg (.failStep ⟨run.ns, run.runId,
      if stepId = "" then run.name else stepId, some detail⟩)).Uses allowed)
    (shouldExecute : Bool) (output : Payload) :
    (proceedTraced cfg codec run (.beginStep stepId shouldExecute output)).Uses allowed := by
  cases shouldExecute with
  | true =>
      simp only [proceedTraced, if_true]
      cases run.outcome with
      | ok value =>
          refine Prog.Uses.mapError ?_
          unfold report
          split
          next => trivial
          next => exact (completeLoop_uses (hcomplete _) _ _).bind fun _ => trivial
      | error e =>
          refine Prog.Uses.bind (send_uses (hfail _) _).mapError fun resp => ?_
          split <;> trivial
  | false =>
      simp only [proceedTraced, Bool.false_eq_true, if_false]
      cases codec.fromSlice output <;> trivial

variable (h : ∀ req, FromExecution req → (handle cfg req).Uses allowed)
include h

theorem perform_uses (codec : Codec V) (run : StepRun V) : (run.perform cfg codec).Uses allowed := by
  refine Prog.Uses.bind (send_uses (h (.beginStep _) trivial) _).mapError fun resp => ?_
  cases resp with
  | beginStep stepId shouldExecute output =>
      exact proceed_uses codec (fun _ => h (.completeStep _) trivial) (fun _ => h (.failStep _) trivial)
        _ _
  | _ => trivial

theorem sleep_uses (run : SleepCall) : (run.perform cfg).Uses allowed := by
  refine Prog.Uses.mapError (Prog.Uses.bind
    (send_uses (h (.beginStep _) trivial) _).mapError fun resp => ?_)
  split
  next =>
    split
    next =>
      exact Prog.Uses.bind (send_uses (h (.sleep _) trivial) _).mapError fun _ => trivial
    next => trivial
  next => trivial

theorem code_uses (codec : Codec V) (ctx : Context) (code : WorkflowCode V) :
    (code.run cfg codec ctx).Uses allowed := by
  induction code with
  | ok output => trivial
  | err e => trivial
  | step run next ih => exact (perform_uses h codec _).attempt.bind ih
  | sleep run next ih => exact (sleep_uses h _).attempt.bind ih

theorem report_uses (json : Json V) (run : Execution V) (r : Except WorkflowError V) :
    (run.report cfg json r).Uses allowed := by
  cases r with
  | ok output =>
      unfold Execution.report
      dsimp only
      split
      next => trivial
      next =>
        exact Prog.Uses.bind (send_uses (h (.completeWorkflow _) trivial) _).attempt fun _ => trivial
  | error e =>
      unfold Execution.report
      dsimp only
      split
      next => trivial
      next =>
        exact Prog.Uses.bind (send_uses (h (.failWorkflow _) trivial) _).attempt fun _ => trivial

theorem execution_uses (json : Json V) (run : Execution V) : (run.call cfg json).Uses allowed :=
  (code_uses h _ _ _).attempt.bind (report_uses h json run)

theorem accept_uses (json : Json V) (run : PollCall V) (resp : Response) :
    (run.accept cfg json resp).Uses allowed := by
  unfold PollCall.accept
  split
  next =>
    split
    next => trivial
    next =>
      split
      next => exact execution_uses h json _
      next => trivial
  next => trivial

end Executions

theorem fromExecution_noPoll (cfg : Config) (req : Request) (h : FromExecution req) :
    (handle cfg req).Uses NoPoll :=
  handle_noPoll cfg req fun _ _ hreq => by rw [hreq] at h; exact h

end Custody

end Kagzi
