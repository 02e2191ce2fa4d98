import Kagzi.Logic.Refinement
import Kagzi.Server.Service
import Kagzi.WakeUp

/-!
# The notifier only wakes

`Server.Service` has no notifier.  A call of `poll_task` polls for a number of times, and
nothing is said of what happens in between.  The server with its notifier refines it: the
statements are queries of both, and all other operations are hidden (`refinement`).  So what
the other modules show of the runs of `server` holds of the server with its notifier as well,
whatever the channels, the listener and the other servers do.
-/

namespace Kagzi

open Atomic

namespace Notified

/-! ## What is seen -/

/-- The statements. -/
def statement : View Op Op.Result Stmt Stmt.Result
  | .stmt q => some ⟨q, id⟩
  | .queue _ => none
  | .wait _ => none

/-- The request of a call.  What runs next to the requests makes no statements, as a
coordinator that takes no turn. -/
def Call.request : Call → Request
  | .rpc req => req
  | .listener _ => .coordinator 0
  | .remote _ _ => .coordinator 0

/-- The statements of a trace. -/
def statements (trace : List (Event Op Op.Result Supply)) : List (Event Stmt Stmt.Result Env) :=
  statement.trace Supply.env trace

/-! ## The programs -/

section Programs
variable {ε α β γ : Type} {X : ε → ε → Prop}

theorem uses_any (p : Queue.Code α) : p.Uses fun _ => True := by
  induction p with
  | ret a => trivial
  | fail x => trivial
  | call q k ih => exact ⟨trivial, ih⟩

/-- A function of the notifier makes no statements, and hands on its errors. -/
theorem refines_onQueue {p : Queue.Code α} {f : Except Queue.QueueError α → Prog Op Op.Result ε β}
    {T : β → γ → Prop} {r : Prog Stmt Stmt.Result ε γ}
    (hf : ∀ a, (f a).Refines statement T X r) : (onQueue p >>= f).Refines statement T X r := by
  unfold onQueue
  have hp := uses_any p
  induction p with
  | ret a => exact hf _
  | fail x => exact hf _
  | call q k ih =>
      show (Prog.call (.queue q) fun a => ((k a).translate fun q => op (.queue q)).attempt >>=
        f).Refines
        statement T X r
      rw [Prog.Refines.hidden_iff rfl]
      exact fun a => ih a (hp.2 a)

/-- A statement is carried out so that nothing else is seen. -/
theorem refines_perform (q : Stmt) :
    (perform q : Prog Op Op.Result ε q.Result).Refines statement Eq (fun _ _ => False)
      (.query q : Prog Stmt Stmt.Result ε q.Result) := by
  cases q
  case notify ns taskQueue =>
    refine ⟨.ret, rfl, fun a => ?_⟩
    cases a with
    | error x => exact ⟨_, rfl, rfl⟩
    | ok u => exact refines_onQueue fun _ => ⟨_, rfl, rfl⟩
  all_goals exact ⟨.ret, rfl, fun _ => ⟨_, rfl, rfl⟩⟩

theorem refines_rpc (p : Rpc α) : (rpc p).Refines statement Eq Eq p :=
  .translate p refines_perform

/-- A part of a handler, and what follows on it. -/
theorem refines_bind {p : Rpc α} {f' : α → Code β} {f : α → Rpc β}
    (hf : ∀ a, (f' a).Refines statement Eq Eq (f a)) :
    (rpc p >>= f').Refines statement Eq Eq (p >>= f) :=
  (refines_rpc p).bind fun a _ h => h ▸ hf a

end Programs

/-- The waits of `poll_task` are not seen. -/
theorem refines_pollLoop (cfg : Config) (req : PollTaskRequest) (types : List String)
    (waits : Nat) :
    (pollLoop cfg req types waits).Refines statement Eq Eq
      (WorkerService.pollLoop cfg req types waits) := by
  induction waits with
  | zero =>
      refine refines_bind fun found => ?_
      cases found with
      | some item => exact refines_rpc _
      | none => exact .ret rfl
  | succ waits ih =>
      refine refines_bind fun found => ?_
      cases found with
      | some item => exact refines_rpc _
      | none =>
          refine refines_onQueue fun subscribed => ?_
          cases subscribed with
          | ok rx => exact fun _ _ => ih
          | error x => exact ih

theorem refines_pollTask (cfg : Config) (req : PollTaskRequest) (waits : Nat) :
    (pollTask cfg req waits).Refines statement Eq Eq (WorkerService.pollTask cfg req waits) := by
  unfold pollTask WorkerService.pollTask
  refine refines_bind fun workerId => ?_
  split
  next => exact .fail rfl
  next =>
    refine refines_bind fun _ => refines_bind fun found => refines_bind fun worker => ?_
    split
    next => exact .fail rfl
    next =>
      split
      next => exact .fail rfl
      next =>
        split
        next => exact .fail rfl
        next =>
          dsimp only
          split
          next => exact .fail rfl
          next => exact refines_pollLoop cfg req _ waits

/-- How the results compare.  What runs next to the requests has none. -/
def SameResult (resp : Option Response) (plain : Response) : Prop :=
  ∀ a, resp = some a → plain = a

theorem refines_respond {p : Code Response} {p' : Rpc Response} (h : p.Refines statement Eq Eq p') :
    (p >>= fun resp => pure (some resp)).Refines statement SameResult Eq p' := by
  rw [← Prog.bind_ret p']
  refine h.bind ?_
  rintro resp _ rfl
  exact .ret fun a ha => Option.some.inj ha

/-- What runs next to the requests has no result. -/
theorem refines_background (cfg : Config) (call : Queue.Call) :
    (background call).Refines statement SameResult Eq (Kagzi.handle cfg (.coordinator 0)) :=
  refines_onQueue fun _ => ⟨.coordinator [], rfl, fun _ h => by cases h⟩

theorem refines_handle (cfg : Config) (call : Call) :
    (handle cfg call).Refines statement SameResult Eq (Kagzi.handle cfg call.request) := by
  cases call with
  | rpc req =>
      cases req
      case pollTask req waits => exact refines_respond (refines_pollTask cfg req waits)
      all_goals exact refines_respond (refines_rpc _)
  | listener rounds => exact refines_background cfg _
  | remote ns taskQueue => exact refines_background cfg _

/-! ## The server -/

/-- The server with its notifier does to the database what the server without it does. -/
def refinement (cfg : Config) (capacity : Nat) :
    Refinement (service cfg capacity) (server cfg fun _ => True) where
  view := statement
  store := State.world
  supply := Supply.env
  request := Call.request
  result := SameResult
  error := Eq
  hidden := by
    intro e q s h
    cases q with
    | stmt q => cases h
    | queue q => rfl
    | wait rx =>
        show (exec capacity e (.wait rx) s).2.world = s.world
        unfold exec
        split <;> rfl
  shown := by
    intro e q s seen h
    cases q with
    | stmt q =>
        cases h
        rfl
    | queue q => cases h
    | wait rx => cases h
  admits := by
    intro i e q m seen h ha
    cases q with
    | stmt q =>
        cases h
        exact ha
    | queue q => cases h
    | wait rx => cases h
  accepts _ _ := trivial
  spawn call _ := refines_handle cfg call

theorem seen_init (cfg : Config) (capacity : Nat) (w : World) :
    (refinement cfg capacity).Seen (.init ⟨w, .empty⟩ []) (.init w []) :=
  ⟨rfl, .nil⟩

/-- A state of the server with its notifier, and the same state without. -/
structure SameRun (p' : Server) (p : ServerState) : Prop where
  world : p.store = p'.store.world
  trace : p.trace = statements p'.trace
  requests : p.calls.map Prod.fst = p'.calls.map fun call => call.1.request
  returned : ∀ i req resp, p'.returned i = some (Call.rpc req, some resp) →
    p.returned i = some (req, resp)
  failed : ∀ i req x, p'.failed i = some (Call.rpc req, x) → p.failed i = some (req, x)

theorem sameRun_of_seen {cfg : Config} {capacity : Nat} {p' : Server} {p : ServerState}
    (h : (refinement cfg capacity).Seen p' p) : SameRun p' p where
  world := congrArg Moment.store h.moment
  trace := congrArg Moment.trace h.moment
  requests := by
    have hcalls := h.calls
    generalize p.calls = calls, p'.calls = calls' at hcalls
    induction hcalls with
    | nil => rfl
    | cons hcall _ ih => exact congrArg₂ List.cons hcall.1 ih
  returned := by
    intro i req resp hreturned
    obtain ⟨c, hget, plain, rfl, hplain⟩ := h.call (Pool.calls_of_returned hreturned)
    rw [hplain resp rfl] at hget
    unfold Pool.returned
    rw [hget]
    rfl
  failed := by
    intro i req x hfailed
    obtain ⟨c, hget, y, rfl, rfl⟩ := h.call (Pool.calls_of_failed hfailed)
    unfold Pool.failed
    rw [hget]
    rfl

/-- Every run of the server with its notifier is a run of the server without it. -/
theorem runs_unnotified (cfg : Config) (capacity : Nat) (w : World) (p' : Server)
    (h : Steps (service cfg capacity) (.init ⟨w, .empty⟩ []) p') :
    ∃ p, Steps (server cfg fun _ => True) (.init w []) p ∧ SameRun p' p := by
  obtain ⟨p, hp, hseen⟩ := h.refines (refinement cfg capacity) (seen_init cfg capacity w)
  exact ⟨p, hp, sameRun_of_seen hseen⟩

/-- The run in which a poll waits while a run is started. -/
theorem runs_unnotified_meanwhile :
    ∃ p, Steps (server .sample fun _ => True) (.init (.empty 0) []) p ∧
      SameRun (fireAll (service .sample 16) (.init ⟨.empty 0, .empty⟩ []) WakeUp.meanwhile) p :=
  runs_unnotified .sample 16 (.empty 0) _ (AllEnabled.steps (by decide +kernel))

end Notified

end Kagzi
