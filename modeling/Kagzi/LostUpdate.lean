import Kagzi.Server.Footprint
import Kagzi.Server.Templates

/-!
# A tick against an edit of the same template

A tick and the requests that edit a schedule all read the row of the template,
compute, and write columns of it back by its id.  None of them looks at whether
the row is still what it read.  So the write of the one can undo that of the
other, and the template ends as neither serial order leaves it
(`update_is_lost`).

Each write applies the effect of its call (`tickEffect`, `rpcEffect`) to the row
that the call read.  Where no write of the other came between the reads and the
write of a call, that row is the one in the store, and the calls take effect in
the order of their writes (`no_lost_update_if_untouched`).
-/

namespace Kagzi

open Atomic

namespace LostUpdate

/-- The server, when no further request arrives. -/
abbrev service (cfg : Config) : Service Stmt Stmt.Result World Env Request Status Response :=
  server cfg fun _ => False

/-- One tick, which is the request number 0, and one RPC, which is the request
number 1. -/
def together (cfg : Config) (req : Request) (w : World) : ServerState :=
  .init w [(.coordinator 1, handle cfg (.coordinator 1)), (req, handle cfg req)]

/-! ## The effects of the two calls -/

/-- The columns of a template that the two calls write. -/
def columns (r : RunRow) :
    WorkflowStatus × Option Int × Option String × Int × Option Int :=
  (r.status, r.availableAt, r.cronExpr, r.maxCatchup, r.lastFiredAt)

/-- What a tick at the time `now` makes of a template. -/
def tickEffect (cfg : Config) (now : Int) (r : RunRow) : RunRow :=
  if r.status = .scheduled ∧ r.due now = true then
    match Coordinator.decision cfg now r with
    | .skip next => r.nextFire next (some now)
    | .fire fireAt next => r.nextFire next (some fireAt)
    | _ => r
  else r

/-- A template that is enabled at the time `now`. -/
def resumed (cfg : Config) (now : Int) (r : RunRow) : RunRow :=
  match r.cronExpr.map fun expr => ScheduleService.nextFireFromNow cfg expr now with
  | some (.ok fire) => { r with status := .scheduled, availableAt := some fire }
  | _ => r

/-- What a request that reads the clock at `now` makes of a template that exists. -/
def rpcEffect (cfg : Config) : Request → Int → RunRow → RunRow
  | .createWorkflowSchedule req, now, r =>
      match ScheduleService.nextFireFromNow cfg req.cronExpr now with
      | .ok fire =>
          { r with
            cronExpr := some req.cronExpr
            availableAt := some fire
            maxCatchup := req.maxCatchup.getD cfg.coordinator.defaultMaxCatchup
            status := ScheduleService.enabledStatus (req.enabled.getD true) }
      | .error _ => r
  | .updateWorkflowSchedule req, now, r =>
      match req.enabled with
      | some true => resumed cfg now r
      | some false => { r with status := .paused }
      | none => r
  | .pauseWorkflowSchedule _, _, r => { r with status := .paused }
  | .resumeWorkflowSchedule _, now, r => resumed cfg now r
  | _, _, r => r

/-! ## The history of a template -/

/-- The statement moved the fire times of the template. -/
def moves (templateRunId : Uuid) : Ran → Bool
  | ⟨_, _, .updateNextFire runId _ _, .ok _⟩ => runId = templateRunId
  | _ => false

/-- The statement edited the template. -/
def edits (templateRunId : Uuid) : Ran → Bool
  | ⟨_, _, .updateWorkflow runId _, .ok _⟩ => runId = templateRunId
  | _ => false

/-- What the statement read from the clock. -/
def clockOf : Ran → Option Int
  | ⟨_, _, .utcNow, .ok now⟩ => some now
  | _ => none

/-- What the request number `i` last read from the clock. -/
def reading (i : Nat) (trace : List Ran) : Int :=
  (trace.findSome? fun ran => if ran.caller = i then clockOf ran else none).getD 0

/-- The time of the tick that last read the templates. -/
def tickTime (trace : List Ran) : Int := ((trace.findSome? batch).map Prod.fst).getD 0

/-- The tick has written the template. -/
def Moved (templateRunId : Uuid) (trace : List Ran) : Prop :=
  ∃ ran ∈ trace, moves templateRunId ran = true

/-- The RPC has written the template. -/
def Edited (templateRunId : Uuid) (trace : List Ran) : Prop :=
  ∃ ran ∈ trace, edits templateRunId ran = true

/-- The effect of the tick so far: it has none before it writes, and none when it
fails or finds nothing to do. -/
def tickAfter (cfg : Config) (templateRunId : Uuid) : List Ran → RunRow → RunRow
  | [], r => r
  | ran :: trace, r =>
      if moves templateRunId ran then tickEffect cfg (tickTime trace) r
      else tickAfter cfg templateRunId trace r

/-- The effect of the RPC so far. -/
def rpcAfter (cfg : Config) (req : Request) (templateRunId : Uuid) : List Ran → RunRow → RunRow
  | [], r => r
  | ran :: trace, r =>
      if edits templateRunId ran then rpcEffect cfg req (reading 1 trace) r
      else rpcAfter cfg req templateRunId trace r

/-- A statement wrote the template after a read of the request number `i`. -/
def Overtaken (source : Stmt → Bool) (i : Nat) (templateRunId : Uuid) : List Ran → Prop
  | [] => False
  | ran :: trace =>
      ((moves templateRunId ran || edits templateRunId ran) = true ∧
        ∃ read ∈ trace, read.caller = i ∧ source read.query = true) ∨
      Overtaken source i templateRunId trace

/-- What an edit is computed from: the row and the clock. -/
def isSource : Stmt → Bool
  | .findById _ _ => true
  | .utcNow => true
  | _ => false

/-- Nobody writes the template between the reads and the write of a call. -/
def Untouched (templateRunId : Uuid) : Condition Stmt Stmt.Result World Env := fun i _ q m =>
  match q with
  | .updateNextFire runId _ _ =>
      runId = templateRunId → ¬ Overtaken Stmt.isRead i templateRunId m.trace
  | .updateWorkflow runId _ =>
      runId = templateRunId → ¬ Overtaken isSource i templateRunId m.trace
  | _ => True

instance decOvertaken (source : Stmt → Bool) (i : Nat) (templateRunId : Uuid) :
    (trace : List Ran) → Decidable (Overtaken source i templateRunId trace)
  | [] => inferInstanceAs (Decidable False)
  | ran :: trace =>
      have := decOvertaken source i templateRunId trace
      inferInstanceAs (Decidable (((moves templateRunId ran || edits templateRunId ran) = true ∧
        ∃ read ∈ trace, read.caller = i ∧ source read.query = true) ∨
        Overtaken source i templateRunId trace))

instance (templateRunId : Uuid) (i : Nat) (e : Env) (q : Stmt) (m : Now) :
    Decidable (Untouched templateRunId i e q m) := by
  apply Stmt.casesOn (motive := fun q => Decidable (Untouched templateRunId i e q m)) q
  case updateNextFire =>
    intro runId next last
    exact decidable_of_iff (runId = templateRunId →
      ¬ Overtaken Stmt.isRead i templateRunId m.trace) Iff.rfl
  case updateWorkflow =>
    intro runId workflow
    exact decidable_of_iff (runId = templateRunId →
      ¬ Overtaken isSource i templateRunId m.trace) Iff.rfl
  all_goals
    intros
    exact .isTrue trivial

/-- What is promised of a template with the row `r₀` at the start: its columns are
those of a serial order of the calls, and once the tick has written them, they lie
beyond the slots that were fired. -/
structure Serial (cfg : Config) (req : Request) (templateRunId : Uuid) (r₀ r : RunRow)
    (trace : List Ran) : Prop where
  order : columns r = columns (rpcAfter cfg req templateRunId trace
        (tickAfter cfg templateRunId trace r₀)) ∨
      columns r = columns (tickAfter cfg templateRunId trace
        (rpcAfter cfg req templateRunId trace r₀))
  beyond : Moved templateRunId trace → ∀ fireAt, Fired templateRunId fireAt trace →
    (∀ a ∈ r.availableAt, fireAt < a) ∧ ∃ last ∈ r.lastFiredAt, fireAt ≤ last

/-- One tick and one edit of a template never lose an update, in the runs that
meet a condition. -/
def NoLostUpdate (cfg : Config) (C : Uuid → Condition Stmt Stmt.Result World Env) : Prop :=
  ∀ (templateRunId : Uuid) (w : World) (r₀ : RunRow) (req : Request) (p : ServerState),
    req.editsTemplate = true → w.run templateRunId = some r₀ →
    Steps ((service cfg).restrict (C templateRunId)) (together cfg req w) p →
      ∃ r, p.store.run templateRunId = some r ∧ Serial cfg req templateRunId r₀ r p.trace

/-! ## Rows that are alike -/

/-- The rows agree in what the effects look at. -/
structure Alike (r r' : RunRow) : Prop where
  status : r.status = r'.status
  availableAt : r.availableAt = r'.availableAt
  cronExpr : r.cronExpr = r'.cronExpr
  maxCatchup : r.maxCatchup = r'.maxCatchup
  lastFiredAt : r.lastFiredAt = r'.lastFiredAt
  createdAt : r.createdAt = r'.createdAt
  runId : r.runId = r'.runId

namespace Alike

variable {cfg : Config} {r r' r'' : RunRow}

theorem refl (r : RunRow) : Alike r r := ⟨rfl, rfl, rfl, rfl, rfl, rfl, rfl⟩

theorem symm (h : Alike r r') : Alike r' r :=
  ⟨h.status.symm, h.availableAt.symm, h.cronExpr.symm, h.maxCatchup.symm, h.lastFiredAt.symm,
    h.createdAt.symm, h.runId.symm⟩

theorem trans (h : Alike r r') (h' : Alike r' r'') : Alike r r'' :=
  ⟨h.status.trans h'.status, h.availableAt.trans h'.availableAt, h.cronExpr.trans h'.cronExpr,
    h.maxCatchup.trans h'.maxCatchup, h.lastFiredAt.trans h'.lastFiredAt,
    h.createdAt.trans h'.createdAt, h.runId.trans h'.runId⟩

theorem columns (h : Alike r r') : columns r = columns r' := by
  simp only [LostUpdate.columns, h.status, h.availableAt, h.cronExpr, h.maxCatchup, h.lastFiredAt]

theorem decision (h : Alike r r') (now : Int) :
    Coordinator.decision cfg now r = Coordinator.decision cfg now r' := by
  unfold Coordinator.decision Coordinator.cursor
  rw [h.availableAt, h.cronExpr, h.maxCatchup, h.lastFiredAt, h.createdAt, h.runId]

theorem due (h : Alike r r') (now : Int) : r.due now = r'.due now := by
  unfold RunRow.due
  rw [h.availableAt]

theorem nextFire (h : Alike r r') (next : Int) (last : Option Int) :
    Alike (r.nextFire next last) (r'.nextFire next last) :=
  { h with
    availableAt := rfl
    lastFiredAt := congrArg last.or h.lastFiredAt }

/-- A tick does the same to rows that are alike. -/
theorem tickEffect (h : Alike r r') (now : Int) :
    Alike (tickEffect cfg now r) (tickEffect cfg now r') := by
  unfold LostUpdate.tickEffect
  rw [h.status, h.due now, h.decision now]
  split
  next =>
    split
    next => exact h.nextFire _ _
    next => exact h.nextFire _ _
    next => exact h
  next => exact h

theorem resumed (h : Alike r r') (now : Int) : Alike (resumed cfg now r) (resumed cfg now r') := by
  have hexpr := congrArg (Option.map fun expr => ScheduleService.nextFireFromNow cfg expr now)
    h.cronExpr
  unfold LostUpdate.resumed
  rw [hexpr]
  split
  next => exact { h with status := rfl, availableAt := rfl }
  next => exact h

/-- An edit does the same to rows that are alike. -/
theorem rpcEffect (h : Alike r r') (req : Request) (now : Int) :
    Alike (rpcEffect cfg req now r) (rpcEffect cfg req now r') := by
  unfold LostUpdate.rpcEffect
  split
  next =>
    split
    next => exact { h with status := rfl, availableAt := rfl, cronExpr := rfl, maxCatchup := rfl }
    next => exact h
  next =>
    split
    next => exact h.resumed now
    next => exact { h with status := rfl }
    next => exact h
  next => exact { h with status := rfl }
  next => exact h.resumed now
  next => exact h

end Alike

/-! ## Facts about the history -/

section History
variable {cfg : Config} {req : Request} {templateRunId : Uuid} {trace : List Ran} {ran : Ran}

theorem tickAfter_of_not_moved {r : RunRow} :
    ∀ {trace : List Ran}, ¬ Moved templateRunId trace → tickAfter cfg templateRunId trace r = r
  | [], _ => rfl
  | ran :: trace, h => by
      unfold tickAfter
      rw [if_neg fun hm => h ⟨ran, List.mem_cons_self .., hm⟩]
      exact tickAfter_of_not_moved fun ⟨ran, hran, hm⟩ => h ⟨ran, List.mem_cons_of_mem _ hran, hm⟩

theorem rpcAfter_of_not_edited {r : RunRow} :
    ∀ {trace : List Ran}, ¬ Edited templateRunId trace → rpcAfter cfg req templateRunId trace r = r
  | [], _ => rfl
  | ran :: trace, h => by
      unfold rpcAfter
      rw [if_neg fun hm => h ⟨ran, List.mem_cons_self .., hm⟩]
      exact rpcAfter_of_not_edited fun ⟨ran, hran, hm⟩ => h ⟨ran, List.mem_cons_of_mem _ hran, hm⟩

theorem Overtaken.exists_read {source : Stmt → Bool} {i : Nat} :
    ∀ {trace : List Ran}, Overtaken source i templateRunId trace →
      ∃ read ∈ trace, read.caller = i ∧ source read.query = true
  | _ :: _, .inl ⟨_, read, hread, h⟩ => ⟨read, List.mem_cons_of_mem _ hread, h⟩
  | _ :: _, .inr h =>
      let ⟨read, hread, h'⟩ := Overtaken.exists_read h
      ⟨read, List.mem_cons_of_mem _ hread, h'⟩

theorem moved_cons (h : moves templateRunId ran = false) :
    Moved templateRunId (ran :: trace) ↔ Moved templateRunId trace := by
  simp [Moved, h]

theorem edited_cons (h : edits templateRunId ran = false) :
    Edited templateRunId (ran :: trace) ↔ Edited templateRunId trace := by
  simp [Edited, h]

theorem moves_inv {i : Nat} {e : Env} {q : Stmt} {a : q.Result}
    (h : moves templateRunId ⟨i, e, q, a⟩ = true) :
    ∃ next last, q = .updateNextFire templateRunId next last := by
  cases q with
  | updateNextFire runId next last =>
      cases a with
      | error x => cases h
      | ok u => exact ⟨next, last, by rw [of_decide_eq_true h]⟩
  | _ => cases h

theorem edits_inv {i : Nat} {e : Env} {q : Stmt} {a : q.Result}
    (h : edits templateRunId ⟨i, e, q, a⟩ = true) :
    ∃ workflow, q = .updateWorkflow templateRunId workflow := by
  cases q with
  | updateWorkflow runId workflow =>
      cases a with
      | error x => cases h
      | ok u => exact ⟨workflow, by rw [of_decide_eq_true h]⟩
  | _ => cases h

/-- The tick has read the template and decided to fire it at this slot. -/
def Due (cfg : Config) (templateRunId : Uuid) (fireAt : Int) (trace : List Ran) : Prop :=
  ∃ ran ∈ trace, ran.caller = 0 ∧ ∃ now ts, batch ran = some (now, ts) ∧
    ∃ t ∈ ts, t.runId = templateRunId ∧
      ∃ next, Coordinator.decision cfg now t.toRunRow = .fire fireAt next

theorem Due.cons {fireAt : Int} (h : Due cfg templateRunId fireAt trace) (ran : Ran) :
    Due cfg templateRunId fireAt (ran :: trace) := by
  obtain ⟨read, hread, h⟩ := h
  exact ⟨read, List.mem_cons_of_mem _ hread, h⟩

theorem due_cons {fireAt : Int} {i : Nat} {e : Env} {q : Stmt} {a : q.Result}
    (hq : q.isRead = false) (h : Due cfg templateRunId fireAt (⟨i, e, q, a⟩ :: trace)) :
    Due cfg templateRunId fireAt trace := by
  obtain ⟨read, hread, hcaller, now, ts, hb, h⟩ := h
  rcases List.mem_cons.mp hread with rfl | hread
  · rw [batch_of_not_read hq] at hb
    cases hb
  · exact ⟨read, hread, hcaller, now, ts, hb, h⟩

end History

/-! ## One read by the tick -/

/-- The request number `i` has not read the templates. -/
def Unread (i : Nat) (m : Now) : Prop :=
  ∀ ran ∈ m.trace, ran.caller = i → ran.query.isRead = false

/-- The coordinator reads the templates once, at a time it read from the clock. -/
def ReadsOnce : Condition Stmt Stmt.Result World Env := fun i _ q m =>
  match q with
  | .findDueSchedules now _ => Unread i m ∧ ∃ ran ∈ m.trace, now ∈ clockOf ran
  | _ => True

theorem unread_stable {M : Engine Stmt Stmt.Result World Env}
    {Γ : Condition Stmt Stmt.Result World Env} (i : Nat) : Stable M Γ i (Unread i) := by
  intro j e q m hj hm _ _ ran hran
  rcases List.mem_cons.mp hran with rfl | hran
  · exact fun heq => absurd heq hj
  · exact hm ran hran

/-- A request that reads the templates is the coordinator. -/
theorem not_read_of_may {cfg : Config} {req : Request} (hreq : req.editsTemplate = true) {q : Stmt}
    (hq : req.may cfg q) : q.isRead = false := by
  cases q with
  | findDueSchedules now limit =>
      obtain ⟨ticks, rfl⟩ := hq
      cases hreq
  | _ => rfl

theorem readsOnce_of_not_read {i : Nat} {e : Env} {q : Stmt} {m : Now} (hq : q.isRead = false) :
    ReadsOnce i e q m := by
  cases q with
  | findDueSchedules now limit => cases hq
  | _ => trivial

section ReadsOnce
variable {M : Engine Stmt Stmt.Result World Env} {cfg : Config}

/-- What does not read the templates keeps to `ReadsOnce`. -/
theorem sat_of_not_read {ε α : Type} {i : Nat} {p : Prog Stmt Stmt.Result ε α}
    (hp : p.Uses fun q => q.isRead = false) :
    Sat M ReadsOnce i (fun _ => True) p (fun _ _ => True) (fun _ _ => True) :=
  Sat.of_uses hp stable_true fun _ _ _ hq _ _ => ⟨readsOnce_of_not_read hq, trivial⟩

theorem sql_not_read {q : Stmt} (hq : q.isRead = false) :
    (sql q).Uses fun q => q.isRead = false :=
  uses_sql hq

theorem fireTemplates_not_read (now : Int) (ts : List WorkflowRun) :
    (Coordinator.fireTemplates cfg now ts).Uses fun q => q.isRead = false := by
  induction ts with
  | nil => trivial
  | cons t ts ih =>
      refine Prog.Uses.bind ?_ fun _ => ih
      unfold Coordinator.fireTemplate
      split
      next => trivial
      next => trivial
      next => exact sql_not_read rfl
      next =>
        refine (sql_not_read rfl).bind fun granted => ?_
        cases granted with
        | false => trivial
        | true =>
            refine (sql_not_read rfl).bind fun created => ?_
            cases created with
            | none => exact sql_not_read rfl
            | some runId => exact (sql_not_read rfl).attempt.bind fun _ => sql_not_read rfl

/-- One tick reads the templates once. -/
theorem sat_tick_once (i : Nat) :
    Sat M ReadsOnce i (Unread i)
      (handle cfg (.coordinator 1)) (fun _ _ => True) (fun _ _ => True) := by
  have hclock : ∀ now, Invariant (M.restrict ReadsOnce) fun m => ∃ ran ∈ m.trace, now ∈ clockOf ran :=
    fun now _ _ _ _ ⟨ran, hran, h⟩ _ => ⟨ran, List.mem_cons_of_mem _ hran, h⟩
  have hnow : Sat M ReadsOnce i (Unread i) (sql .utcNow)
      (fun now m => Unread i m ∧ ∃ ran ∈ m.trace, now ∈ clockOf ran) (fun _ _ => True) := by
    refine sat_sql (fun now => (unread_stable i).and (hclock now).stable) fun e m hm _ => ?_
    refine ⟨trivial, fun now hres => ⟨?_, _, List.mem_cons_self .., ?_⟩⟩
    · intro ran hran
      rcases List.mem_cons.mp hran with rfl | hran
      · exact fun _ => rfl
      · exact hm ran hran
    · rw [hres]
      rfl
  have hread : ∀ now limit, Sat M ReadsOnce i
      (fun m => Unread i m ∧ ∃ ran ∈ m.trace, now ∈ clockOf ran) (sql (.findDueSchedules now limit))
      (fun _ _ => True) (fun _ _ => True) :=
    fun now limit => sat_sql (fun _ => stable_true) fun e m hm _ => ⟨hm, fun _ _ => trivial⟩
  have hfire : Sat M ReadsOnce i (Unread i) (Coordinator.fireDueSchedules cfg)
      (fun _ _ => True) (fun _ _ => True) :=
    Sat.bind hnow fun now => Sat.bind (hread now _) fun ts =>
      sat_of_not_read (fireTemplates_not_read now ts)
  have htick : Sat M ReadsOnce i (Unread i) (Coordinator.tick cfg) (fun _ _ => True)
      (fun _ _ => True) := by
    refine Sat.bind (hfire.attempt (R := fun _ _ => True) (fun _ _ _ => trivial)
      fun _ _ _ => trivial) fun fired => sat_of_not_read ?_
    exact (sql_not_read rfl).attempt.bind fun _ => trivial
  have hrun : Sat M ReadsOnce i (Unread i) (Coordinator.run cfg 1) (fun _ _ => True)
      (fun _ _ => True) :=
    Sat.bind htick fun errors => sat_of_not_read trivial
  exact Sat.bind hrun fun errors _ _ => trivial

/-- In a run of the two calls the templates are read once. -/
theorem reads_once {req : Request} {w : World} {C : Condition Stmt Stmt.Result World Env}
    {p : ServerState} (hreq : req.editsTemplate = true)
    (h : Steps ((service cfg).restrict C) (together cfg req w) p) :
    Steps (((service cfg).restrict C).restrict ReadsOnce) (together cfg req w) p := by
  have hsound : Sound ((service cfg).restrict C) ReadsOnce (fun _ _ _ _ => True)
      (fun _ _ _ _ => True) (together cfg req w) := by
    refine ⟨?_, fun i r c hget => ?_⟩
    · intro ran hran
      cases hran
    match i, hget with
    | 0, hget =>
        obtain ⟨rfl, rfl⟩ := Prod.mk.inj (Option.some.inj hget)
        refine ⟨Unread 0, unread_stable 0, ?_, sat_tick_once 0⟩
        intro ran hran
        cases hran
    | 1, hget =>
        obtain ⟨rfl, rfl⟩ := Prod.mk.inj (Option.some.inj hget)
        exact ⟨fun _ => True, stable_true, trivial,
          sat_of_not_read ((handle_uses cfg req).mono fun q hq => not_read_of_may hreq hq)⟩
  have hserves : Serves ((service cfg).restrict C) ReadsOnce (fun _ => True) (fun _ _ _ _ => True)
      (fun _ _ _ _ => True) := by
    intro i r hacc
    exact hacc.elim
  exact (h.sound hserves (fun _ _ _ _ _ _ => trivial) trivial hsound).1

end ReadsOnce

/-! ## Every write takes effect on the row in the store -/

section Guards
variable (cfg : Config) (req : Request) (templateRunId : Uuid) (r₀ : RunRow)

/-- The statements that the two calls run. -/
def Allowed (i : Nat) (q : Stmt) : Prop :=
  i = 0 ∧ (Request.coordinator 1).may cfg q ∨ i = 1 ∧ req.may cfg q

/-- What the calls see to: a write has the effect of its call on the row in the
store, a tick creates instances for the slot it read, and the fire times are moved
beyond that. -/
def Guarded : Condition Stmt Stmt.Result World Env := fun i _ q m =>
  Allowed cfg req i q ∧
    match q with
    | .createScheduleInstance template fireAt =>
        template = templateRunId → Due cfg templateRunId fireAt m.trace
    | .updateNextFire runId next last =>
        runId = templateRunId → ∀ r ∈ m.store.run templateRunId,
          (∃ read ∈ m.trace, read.caller = 0 ∧ read.query.isRead = true) ∧
          Alike (r.nextFire next last) (tickEffect cfg (tickTime m.trace) r) ∧
          ∀ fireAt, Due cfg templateRunId fireAt m.trace → fireAt < next ∧ last = some fireAt
    | .updateWorkflow runId workflow =>
        runId = templateRunId → ∀ r ∈ m.store.run templateRunId,
          (∃ read ∈ m.trace, read.caller = 1 ∧ isSource read.query = true) ∧
          Alike (RunRow.overwrite workflow r) (rpcEffect cfg req (reading 1 m.trace) r) ∧
          workflow.lastFiredAt = r.lastFiredAt ∧
          ∀ a ∈ workflow.availableAt, a ∈ r.availableAt ∨
            ∃ ran ∈ m.trace, ran.caller = 1 ∧ ∃ now ∈ clockOf ran, now < a
    | _ => True

/-- The row is the one of a serial order, and the fire times lie beyond the slots
that were fired. -/
structure Tracked (m : Now) : Prop where
  row : ∃ r, m.store.run templateRunId = some r ∧
    (Alike r (rpcAfter cfg req templateRunId m.trace (tickAfter cfg templateRunId m.trace r₀)) ∨
      Alike r (tickAfter cfg templateRunId m.trace (rpcAfter cfg req templateRunId m.trace r₀)))
  /-- A second write of a call would be overtaken by the first. -/
  moved : Moved templateRunId m.trace → Overtaken Stmt.isRead 0 templateRunId m.trace
  edited : Edited templateRunId m.trace → Overtaken isSource 1 templateRunId m.trace
  fired : ∀ fireAt, Fired templateRunId fireAt m.trace → Due cfg templateRunId fireAt m.trace
  clock : ∀ ran ∈ m.trace, ∀ now ∈ clockOf ran, now ≤ m.store.now
  due : ∀ fireAt, Due cfg templateRunId fireAt m.trace → fireAt ≤ m.store.now
  beyond : Moved templateRunId m.trace → ∀ r ∈ m.store.run templateRunId,
    ∀ fireAt, Due cfg templateRunId fireAt m.trace →
      (∀ a ∈ r.availableAt, fireAt < a) ∧ ∃ last ∈ r.lastFiredAt, fireAt ≤ last
  /-- What the RPC reads from the clock after the tick has written. -/
  later : Moved templateRunId m.trace → ¬ Overtaken isSource 1 templateRunId m.trace →
    ∀ ran ∈ m.trace, ran.caller = 1 → ∀ now ∈ clockOf ran,
      ∀ fireAt, Due cfg templateRunId fireAt m.trace → fireAt ≤ now

abbrev engine : Engine Stmt Stmt.Result World Env :=
  ((store.restrict (Untouched templateRunId)).restrict ReadsOnce).restrict
    (Guarded cfg req templateRunId)

end Guards

section Tracking
variable {cfg : Config} {req : Request} {templateRunId : Uuid} {r₀ : RunRow}

/-- What the two calls run leaves the template as it is, unless it writes it. -/
theorem row_kept {i : Nat} {e : Env} {q : Stmt} {w : World} {r : RunRow}
    (hreq : req.editsTemplate = true) (hq : Allowed cfg req i q)
    (hr : w.run templateRunId = some r)
    (hmoves : moves templateRunId ⟨i, e, q, (store.exec e q w).1⟩ = false)
    (hedits : edits templateRunId ⟨i, e, q, (store.exec e q w).1⟩ = false) :
    (store.exec e q w).2.run templateRunId = some r := by
  obtain ⟨req', hmay, hreq'⟩ : ∃ req' : Request, req'.may cfg q ∧
      (req'.editsTemplate = true ∨ req' = .coordinator 1) := by
    rcases hq with ⟨-, hq⟩ | ⟨-, hq⟩
    · exact ⟨_, hq, .inr rfl⟩
    · exact ⟨req, hq, .inl hreq⟩
  obtain rfl := Db.runId_of_run hr
  have hc := q.exec_run e w.db r.runId
  rw [show w.db.run r.runId = some r from hr] at hc
  rw [store_exec_run]
  generalize hnew : (q.exec e w.db).2.run r.runId = new at hc ⊢
  cases hc with
  | same => rfl
  | @nextFired next last _ =>
      cases hres : (store.exec e (.updateNextFire r.runId next last) w).1 with
      | ok u =>
          rw [hres] at hmoves
          simp [moves] at hmoves
      | error x =>
          have hdb := updateNextFire_error hres
          rw [store_exec_db] at hdb
          rw [← hnew, hdb]
          exact hr
  | @overwritten workflow _ =>
      cases hres : (store.exec e (.updateWorkflow r.runId workflow) w).1 with
      | ok u =>
          rw [hres] at hedits
          simp [edits] at hedits
      | error x =>
          have hdb := updateWorkflow_error hres
          rw [store_exec_db] at hdb
          rw [← hnew, hdb]
          exact hr
  | claimed _ =>
      obtain ⟨⟨_, _, rfl, -⟩, -⟩ := hmay
      rcases hreq' with h | h <;> cases h
  | extended _ _ =>
      obtain ⟨⟨_, rfl, -⟩, -⟩ := hmay
      rcases hreq' with h | h <;> cases h
  | failed _ =>
      obtain ⟨⟨_, rfl⟩ | ⟨_, rfl⟩, -⟩ := hmay <;> rcases hreq' with h | h <;> cases h
  | cancelledRunning _ | cancelledWaiting _ | completed _ | slept _ | retried _ | deleted
  | orphaned _ _ =>
      obtain ⟨⟨_, rfl⟩, -⟩ := hmay
      rcases hreq' with h | h <;> cases h

/-- The clock is read at the time of the statement. -/
theorem now_of_clockOf {i : Nat} {e : Env} {q : Stmt} {w : World} {now : Int}
    (h : now ∈ clockOf ⟨i, e, q, (store.exec e q w).1⟩) : now = e.now := by
  cases q with
  | utcNow =>
      cases hres : (store.exec e .utcNow w).1 with
      | error x =>
          rw [hres] at h
          cases h
      | ok now' =>
          rw [hres] at h
          rw [store_exec_fst, Stmt.exec_ok hres] at hres
          exact (Option.some.inj h).symm.trans (Except.ok.inj hres).symm
  | _ => cases h

/-- Whoever reads the templates has not read them before, and so has not written
yet. -/
theorem Tracked.not_moved {i : Nat} {e : Env} {q : Stmt} {m : Now} (hreq : req.editsTemplate = true)
    (h : Tracked cfg req templateRunId r₀ m) (honce : ReadsOnce i e q m)
    (hq : Allowed cfg req i q) (hread : q.isRead = true) : ¬ Moved templateRunId m.trace := by
  intro hmoved
  obtain ⟨read, hmem, hcaller, hisRead⟩ := (h.moved hmoved).exists_read
  rcases hq with ⟨rfl, -⟩ | ⟨-, hq⟩
  · cases q with
    | findDueSchedules now limit =>
        rw [honce.1 read hmem hcaller] at hisRead
        cases hisRead
    | _ => cases hread
  · rw [not_read_of_may hreq hq] at hread
    cases hread

/-- The slot that a read finds due is not of the future. -/
theorem Tracked.due_after {i : Nat} {e : Env} {q : Stmt} {m : Now}
    (h : Tracked cfg req templateRunId r₀ m) (hadmits : store.admits i e q m)
    (honce : ReadsOnce i e q m) {fireAt : Int}
    (hdue : Due cfg templateRunId fireAt (m.after store i e q).trace) : fireAt ≤ e.now := by
  obtain ⟨read, hread, hcaller, now, ts, hb, t, ht, hid, next, hd⟩ := hdue
  rcases List.mem_cons.mp hread with rfl | hread
  · cases q with
    | findDueSchedules now' limit =>
        cases hres : (store.exec e (.findDueSchedules now' limit) m.store).1 with
        | error x =>
            rw [hres] at hb
            cases hb
        | ok ts' =>
            rw [hres] at hb
            obtain ⟨rfl, rfl⟩ := Prod.mk.inj (Option.some.inj hb)
            obtain ⟨-, -, hdue, -⟩ := mem_findDueSchedules hres ht
            obtain ⟨havailable, -⟩ := fire_of_decision hd
            have hle : fireAt ≤ now' := by simpa [RunRow.due, havailable] using hdue
            obtain ⟨ran, hran, hnow⟩ := honce.2
            exact Int.le_trans hle (Int.le_trans (h.clock ran hran now' hnow) hadmits.1)
    | _ => cases hb
  · have hold : Due cfg templateRunId fireAt m.trace :=
      ⟨read, hread, hcaller, now, ts, hb, t, ht, hid, next, hd⟩
    exact Int.le_trans (h.due fireAt hold) hadmits.1

/-- A statement that does not write the template keeps what is known of it. -/
theorem Tracked.kept {i : Nat} {e : Env} {q : Stmt} {m : Now} (hreq : req.editsTemplate = true)
    (h : Tracked cfg req templateRunId r₀ m)
    (ha : (engine cfg req templateRunId).admits i e q m)
    (hmoves : moves templateRunId ⟨i, e, q, (store.exec e q m.store).1⟩ = false)
    (hedits : edits templateRunId ⟨i, e, q, (store.exec e q m.store).1⟩ = false) :
    Tracked cfg req templateRunId r₀ (m.after store i e q) := by
  obtain ⟨⟨⟨hadmits, -⟩, honce⟩, hallowed, hguard⟩ := ha
  obtain ⟨r, hr, horder⟩ := h.row
  have hr' := row_kept hreq hallowed hr hmoves hedits
  have hmoved : Moved templateRunId (m.after store i e q).trace ↔ Moved templateRunId m.trace :=
    moved_cons hmoves
  have hedited : Edited templateRunId (m.after store i e q).trace ↔
      Edited templateRunId m.trace := edited_cons hedits
  have hdue : Moved templateRunId m.trace → ∀ {fireAt},
      Due cfg templateRunId fireAt (m.after store i e q).trace →
        Due cfg templateRunId fireAt m.trace := by
    intro hm fireAt hd
    by_cases hread : q.isRead = true
    · exact absurd hm (h.not_moved hreq honce hallowed hread)
    · exact due_cons (by simpa using hread) hd
  refine ⟨⟨r, hr', ?_⟩, fun hm => .inr (h.moved (hmoved.mp hm)),
    fun he => .inr (h.edited (hedited.mp he)), ?_, ?_, fun fireAt => h.due_after hadmits honce, ?_, ?_⟩
  · rw [Moment.after_trace]
    simp only [tickAfter, rpcAfter, hmoves, hedits]
    exact horder
  · intro fireAt hfired
    rcases fired_cons.mp hfired with ⟨runId, hcreation⟩ | hfired
    · obtain rfl := creation_inv hcreation
      exact (hguard rfl).cons _
    · exact (h.fired fireAt hfired).cons _
  · intro ran hran now hnow
    rcases List.mem_cons.mp hran with rfl | hran
    · exact Int.le_of_eq (now_of_clockOf hnow)
    · exact Int.le_trans (h.clock ran hran now hnow) hadmits.1
  · intro hm r' hrun fireAt hd
    obtain rfl := Option.some.inj (hr'.symm.trans hrun)
    exact h.beyond (hmoved.mp hm) r hr fireAt (hdue (hmoved.mp hm) hd)
  · intro hm hover ran hran hcaller now hnow fireAt hd
    have hm' := hmoved.mp hm
    rcases List.mem_cons.mp hran with rfl | hran
    · rw [now_of_clockOf hnow]
      exact Int.le_trans (h.due fireAt (hdue hm' hd)) hadmits.1
    · exact h.later hm' (fun ho => hover (.inr ho)) ran hran hcaller now hnow fireAt (hdue hm' hd)

/-- The tick writes the template: it has not written yet, and its effect comes
after that of the RPC so far. -/
theorem Tracked.moved_on {i : Nat} {e : Env} {next : Int} {last : Option Int} {m : Now}
    (hreq : req.editsTemplate = true) (h : Tracked cfg req templateRunId r₀ m)
    (ha : (engine cfg req templateRunId).admits i e (.updateNextFire templateRunId next last) m)
    (hres : (store.exec e (.updateNextFire templateRunId next last) m.store).1 = .ok ()) :
    Tracked cfg req templateRunId r₀
      (m.after store i e (.updateNextFire templateRunId next last)) := by
  obtain ⟨⟨⟨hadmits, hover⟩, -⟩, hallowed, hguard⟩ := ha
  obtain ⟨r, hr, horder⟩ := h.row
  obtain ⟨hread, halike, hbeyond⟩ := hguard rfl r hr
  obtain rfl : i = 0 := by
    rcases hallowed with ⟨rfl, -⟩ | ⟨-, ticks, rfl⟩
    · rfl
    · cases hreq
  have hnot : ¬ Moved templateRunId m.trace := fun hm => hover rfl (h.moved hm)
  rw [tickAfter_of_not_moved hnot, tickAfter_of_not_moved hnot, or_self] at horder
  have hr' := updateNextFire_ok hres
  rw [hr, Option.map_some] at hr'
  have hedits : edits templateRunId
      ⟨0, e, .updateNextFire templateRunId next last, .ok ()⟩ = false := rfl
  have hold : ∀ {fireAt}, Due cfg templateRunId fireAt
      (⟨0, e, .updateNextFire templateRunId next last, .ok ()⟩ :: m.trace) →
        Due cfg templateRunId fireAt m.trace := due_cons rfl
  constructor <;> simp only [Moment.after_trace, Moment.after_store, hres]
  case row =>
    refine ⟨_, hr', .inr ?_⟩
    simp only [tickAfter, rpcAfter, moves, hedits, decide_true, if_true]
    exact halike.trans (horder.tickEffect _)
  case moved => exact fun _ => .inl ⟨by simp [moves], hread⟩
  case edited => exact fun he => .inr (h.edited ((edited_cons hedits).mp he))
  case fired =>
    intro fireAt hfired
    rcases fired_cons.mp hfired with ⟨runId, hcreation⟩ | hfired
    · cases hcreation
    · exact (h.fired fireAt hfired).cons _
  case clock =>
    intro ran hran now hnow
    rcases List.mem_cons.mp hran with rfl | hran
    · cases hnow
    · exact Int.le_trans (h.clock ran hran now hnow) hadmits.1
  case due => exact fun fireAt hd => Int.le_trans (h.due fireAt (hold hd)) hadmits.1
  case beyond =>
    intro _ r' hrun fireAt hd
    obtain rfl := Option.some.inj (hr'.symm.trans hrun)
    obtain ⟨hlt, rfl⟩ := hbeyond fireAt (hold hd)
    refine ⟨fun a ha => ?_, fireAt, rfl, Int.le_refl _⟩
    obtain rfl := Option.some.inj ha
    exact hlt
  case later =>
    intro _ hno ran hran hcaller now hnow
    rcases List.mem_cons.mp hran with rfl | hran
    · cases hcaller
    · refine absurd (.inl ⟨by simp [moves], ran, hran, hcaller, ?_⟩) hno
      obtain ⟨_, _, q, _⟩ := ran
      cases q with
      | utcNow => rfl
      | _ => cases hnow

/-- The RPC writes the template: it has not written yet, and its effect comes after
that of the tick so far. -/
theorem Tracked.edited_on {i : Nat} {e : Env} {workflow : RunRow} {m : Now}
    (h : Tracked cfg req templateRunId r₀ m)
    (ha : (engine cfg req templateRunId).admits i e (.updateWorkflow templateRunId workflow) m)
    (hres : (store.exec e (.updateWorkflow templateRunId workflow) m.store).1 = .ok ()) :
    Tracked cfg req templateRunId r₀ (m.after store i e (.updateWorkflow templateRunId workflow)) := by
  obtain ⟨⟨⟨hadmits, hover⟩, -⟩, hallowed, hguard⟩ := ha
  obtain ⟨r, hr, horder⟩ := h.row
  obtain ⟨hread, halike, hlast, hnext⟩ := hguard rfl r hr
  obtain rfl : i = 1 := by
    rcases hallowed with ⟨-, hq⟩ | ⟨rfl, -⟩
    · cases hq.1
    · rfl
  have hnot : ¬ Edited templateRunId m.trace := fun he => hover rfl (h.edited he)
  rw [rpcAfter_of_not_edited hnot, rpcAfter_of_not_edited hnot, or_self] at horder
  have hr' := updateWorkflow_ok hres
  rw [hr, Option.map_some] at hr'
  have hmoves : moves templateRunId
      ⟨1, e, .updateWorkflow templateRunId workflow, .ok ()⟩ = false := rfl
  have hold : ∀ {fireAt}, Due cfg templateRunId fireAt
      (⟨1, e, .updateWorkflow templateRunId workflow, .ok ()⟩ :: m.trace) →
        Due cfg templateRunId fireAt m.trace := due_cons rfl
  constructor <;> simp only [Moment.after_trace, Moment.after_store, hres]
  case row =>
    refine ⟨_, hr', .inl ?_⟩
    simp only [tickAfter, rpcAfter, edits, hmoves, decide_true, if_true]
    exact halike.trans (horder.rpcEffect req _)
  case moved => exact fun hm => .inr (h.moved ((moved_cons hmoves).mp hm))
  case edited => exact fun _ => .inl ⟨by simp [edits], hread⟩
  case fired =>
    intro fireAt hfired
    rcases fired_cons.mp hfired with ⟨runId, hcreation⟩ | hfired
    · cases hcreation
    · exact (h.fired fireAt hfired).cons _
  case clock =>
    intro ran hran now hnow
    rcases List.mem_cons.mp hran with rfl | hran
    · cases hnow
    · exact Int.le_trans (h.clock ran hran now hnow) hadmits.1
  case due => exact fun fireAt hd => Int.le_trans (h.due fireAt (hold hd)) hadmits.1
  case beyond =>
    intro hm r' hrun fireAt hd
    obtain rfl := Option.some.inj (hr'.symm.trans hrun)
    have hm' := (moved_cons hmoves).mp hm
    obtain ⟨hlt, hle⟩ := h.beyond hm' r hr fireAt (hold hd)
    refine ⟨fun a ha => ?_, hlast ▸ hle⟩
    rcases hnext a ha with hsame | ⟨ran, hran, hcaller, now, hnow, hafter⟩
    · exact hlt a hsame
    · have := h.later hm' (hover rfl) ran hran hcaller now hnow fireAt (hold hd)
      omega
  case later =>
    intro hm hno
    have hm' := (moved_cons hmoves).mp hm
    exact absurd (.inl ⟨by simp [edits], hread⟩) hno

theorem tracked_invariant (hreq : req.editsTemplate = true) :
    Invariant (engine cfg req templateRunId) (Tracked cfg req templateRunId r₀) := by
  intro i e q m hm ha
  change Tracked cfg req templateRunId r₀ (m.after store i e q)
  cases hmoves : moves templateRunId ⟨i, e, q, (store.exec e q m.store).1⟩ with
  | true =>
      obtain ⟨next, last, rfl⟩ := moves_inv hmoves
      cases hres : (store.exec e (.updateNextFire templateRunId next last) m.store).1 with
      | ok u => exact hm.moved_on hreq ha hres
      | error x =>
          rw [hres] at hmoves
          cases hmoves
  | false =>
      cases hedits : edits templateRunId ⟨i, e, q, (store.exec e q m.store).1⟩ with
      | true =>
          obtain ⟨workflow, rfl⟩ := edits_inv hedits
          cases hres : (store.exec e (.updateWorkflow templateRunId workflow) m.store).1 with
          | ok u => exact hm.edited_on ha hres
          | error x =>
              rw [hres] at hedits
              cases hedits
      | false => exact hm.kept hreq ha hmoves hedits

end Tracking

/-! ## The tick -/

section Tick
variable {cfg : Config} {req : Request} {templateRunId : Uuid} {r₀ : RunRow}

/-- What a call read of the template is what is in the store until it is
overtaken. -/
theorem alike_kept {source : Stmt → Bool} {i j : Nat} {e : Env} {q : Stmt} {m : Now} {r' : RunRow}
    (hreq : req.editsTemplate = true) (hq : Allowed cfg req j q)
    (hread : ∃ read ∈ m.trace, read.caller = i ∧ source read.query = true)
    (h : ¬ Overtaken source i templateRunId m.trace →
      ∃ r, m.store.run templateRunId = some r ∧ Alike r r')
    (hno : ¬ Overtaken source i templateRunId (m.after store j e q).trace) :
    ∃ r, (m.after store j e q).store.run templateRunId = some r ∧ Alike r r' := by
  obtain ⟨r, hr, halike⟩ := h fun ho => hno (.inr ho)
  have hwrites : (moves templateRunId ⟨j, e, q, (store.exec e q m.store).1⟩ ||
      edits templateRunId ⟨j, e, q, (store.exec e q m.store).1⟩) = false := by
    by_contra hw
    exact hno (.inl ⟨Bool.eq_true_of_not_eq_false hw, hread⟩)
  obtain ⟨hmoves, hedits⟩ := Bool.or_eq_false_iff.mp hwrites
  exact ⟨r, row_kept hreq hq hr hmoves hedits, halike⟩

/-- What the tick knows of the template it read. -/
structure Snapshot (cfg : Config) (templateRunId : Uuid) (now : Int) (t : WorkflowRun) (m : Now) :
    Prop where
  known : ¬ Overtaken Stmt.isRead 0 templateRunId m.trace →
    ∃ r, m.store.run templateRunId = some r ∧ Alike r t.toRunRow
  status : t.status = .scheduled
  due : t.due now = true
  time : tickTime m.trace = now
  read : ∃ ran ∈ m.trace, (ran.caller = 0 ∧ ran.query.isRead = true) ∧
    ∃ ts, batch ran = some (now, ts) ∧ t ∈ ts
  agree : ∀ fireAt, Due cfg templateRunId fireAt m.trace →
    ∃ next, Coordinator.decision cfg now t.toRunRow = .fire fireAt next

theorem Snapshot.exists_read {now : Int} {t : WorkflowRun} {m : Now}
    (h : Snapshot cfg templateRunId now t m) :
    ∃ read ∈ m.trace, read.caller = 0 ∧ read.query.isRead = true := by
  obtain ⟨read, hmem, hread, -⟩ := h.read
  exact ⟨read, hmem, hread⟩

theorem snapshot_steady (hreq : req.editsTemplate = true) (now : Int) (t : WorkflowRun) :
    Steady ((store.restrict (Untouched templateRunId)).restrict ReadsOnce)
      (Guarded cfg req templateRunId) 0
      fun m => t.runId = templateRunId → Snapshot cfg templateRunId now t m := by
  intro j e q m hj hm _ hΓ hid
  have hsnap := hm hid
  have hread : q.isRead = false := by
    rcases hΓ.1 with ⟨h0, -⟩ | ⟨-, hq⟩
    · exact hj h0
    · exact not_read_of_may hreq hq
  refine ⟨alike_kept hreq hΓ.1 hsnap.exists_read hsnap.known, hsnap.status, hsnap.due, ?_, ?_, ?_⟩
  · rw [Moment.after_trace, tickTime, List.findSome?_cons, batch_of_not_read hread]
    exact hsnap.time
  · obtain ⟨ran, hran, h⟩ := hsnap.read
    exact ⟨ran, List.mem_cons_of_mem _ hran, h⟩
  · exact fun fireAt hd => hsnap.agree fireAt (due_cons hread hd)

/-- The row in the store has what the tick read, when the tick writes. -/
theorem Snapshot.tickEffect {now : Int} {t : WorkflowRun} {m : Now} {r : RunRow}
    (h : Snapshot cfg templateRunId now t m)
    (hover : ¬ Overtaken Stmt.isRead 0 templateRunId m.trace)
    (hr : m.store.run templateRunId = some r) :
    tickEffect cfg (tickTime m.trace) r =
      match Coordinator.decision cfg now t.toRunRow with
      | .skip next => r.nextFire next (some now)
      | .fire fireAt next => r.nextFire next (some fireAt)
      | _ => r := by
  obtain ⟨r', hr', halike⟩ := h.known hover
  obtain rfl := Option.some.inj (hr.symm.trans hr')
  unfold LostUpdate.tickEffect
  rw [h.time, halike.decision, if_pos ⟨halike.status.trans h.status, (halike.due now).trans h.due⟩]

theorem coordinatorRule (hreq : req.editsTemplate = true) :
    CoordinatorRule cfg ((store.restrict (Untouched templateRunId)).restrict ReadsOnce)
      (Guarded cfg req templateRunId) 0 (Tracked cfg req templateRunId r₀)
      (fun now t m => t.runId = templateRunId → Snapshot cfg templateRunId now t m)
      (fun _ _ _ => True) (fun _ _ _ => True) where
  inv := tracked_invariant hreq
  snap_steady := snapshot_steady hreq
  made_steady := fun _ _ => steady_true
  done_inv := fun _ _ _ _ _ _ _ _ => trivial
  plain := by
    intro e q m hq _ _
    cases q with
    | findDueSchedules now limit => exact ⟨.inl ⟨rfl, 1, rfl⟩, trivial⟩
    | utcNow | rateCheck | notify | markStaleOffline => exact ⟨.inl ⟨rfl, trivial⟩, trivial⟩
    | _ => cases hq
  read := by
    intro e m now limit ts hK ha hres t ht hid
    obtain ⟨hrun, hs, hdue, -⟩ := mem_findDueSchedules hres ht
    have hunread : Unread 0 m := ha.2.1
    have hno : ∀ {trace : List Ran}, (∀ ran ∈ trace, ran.caller = 0 → ran.query.isRead = false) →
        ¬ Overtaken Stmt.isRead 0 templateRunId trace := by
      intro trace hall hover
      obtain ⟨read, hmem, hcaller, hread⟩ := hover.exists_read
      rw [hall read hmem hcaller] at hread
      cases hread
    have hbatch : batch ⟨0, e, .findDueSchedules now limit,
        (store.exec e (.findDueSchedules now limit) m.store).1⟩ = some (now, ts) := by
      rw [show (store.exec e (.findDueSchedules now limit) m.store).1 = .ok ts from hres]
      rfl
    have hallowed : Allowed cfg req 0 (.findDueSchedules now limit) := .inl ⟨rfl, 1, rfl⟩
    refine ⟨fun _ => ⟨t.toRunRow, ?_, .refl _⟩, hs, hdue, ?_, ?_, ?_⟩
    · exact row_kept hreq hallowed (hid ▸ hrun) rfl rfl
    · change tickTime (⟨0, e, .findDueSchedules now limit,
        (store.exec e (.findDueSchedules now limit) m.store).1⟩ :: m.trace) = now
      rw [tickTime, List.findSome?_cons, hbatch]
      rfl
    · exact ⟨_, List.mem_cons_self .., ⟨rfl, rfl⟩, ts, hbatch, ht⟩
    · rintro fireAt ⟨read, hread, hcaller, now', ts', hb, t', ht', hid', next, hd⟩
      rcases List.mem_cons.mp hread with rfl | hread
      · obtain ⟨rfl, rfl⟩ := Prod.mk.inj (Option.some.inj (hbatch.symm.trans hb))
        obtain ⟨hrun', -⟩ := mem_findDueSchedules hres ht'
        rw [hid'] at hrun'
        rw [hid] at hrun
        rw [Option.some.inj (hrun.symm.trans hrun')]
        exact ⟨next, hd⟩
      · obtain ⟨i, e', q, a⟩ := read
        rw [batch_of_not_read (hunread _ hread hcaller)] at hb
        cases hb
  skip := by
    intro e m now t next hd _ hsnap ha
    refine ⟨.inl ⟨rfl, 1, rfl⟩, fun hid r hr => ?_⟩
    have h := hsnap hid
    refine ⟨h.exists_read, ?_, fun fireAt hdue => ?_⟩
    · rw [h.tickEffect (ha.1.2 hid) hr, hd]
      exact .refl _
    · obtain ⟨next', hd'⟩ := h.agree fireAt hdue
      rw [hd] at hd'
      cases hd'
  create := by
    intro e m now t fireAt next hd _ hsnap _
    refine ⟨.inl ⟨rfl, 1, rfl⟩, fun hid => ?_⟩
    obtain ⟨read, hread, hcaller, ts, hb, ht⟩ := (hsnap hid).read
    exact ⟨read, hread, hcaller.1, now, ts, hb, t, ht, hid, next, hd⟩
  made := fun _ _ _ _ _ _ _ _ _ _ _ _ => trivial
  advance := by
    intro e m now t fireAt next hd _ hsnap _ ha
    refine ⟨.inl ⟨rfl, 1, rfl⟩, fun hid r hr => ?_⟩
    have h := hsnap hid
    refine ⟨h.exists_read, ?_, fun fireAt' hdue => ?_⟩
    · rw [h.tickEffect (ha.1.2 hid) hr, hd]
      exact .refl _
    · obtain ⟨next', hd'⟩ := h.agree fireAt' hdue
      rw [hd] at hd'
      obtain ⟨rfl, rfl⟩ := Coordinator.Decision.fire.inj hd'
      obtain ⟨havailable, cron, rfl⟩ := fire_of_decision hd
      have hle : fireAt ≤ now := by simpa [RunRow.due, havailable] using h.due
      exact ⟨lt_nextOrYear cron hle, rfl⟩

end Tick

/-! ## The RPC -/

section Rpc
variable {cfg : Config} {req : Request} {templateRunId : Uuid} {r₀ : RunRow}

/-- The engine of the runs in question, before the guarantee. -/
abbrev base (templateRunId : Uuid) : Engine Stmt Stmt.Result World Env :=
  (store.restrict (Untouched templateRunId)).restrict ReadsOnce

/-- A request that touches no template: what it may do, every request may. -/
abbrev idle : Request := .drainWorker ""

theorem guarded_of_idle {q : Stmt} (hq : idle.may cfg q) (e : Env) (m : Now) :
    Guarded cfg req templateRunId 1 e q m := by
  cases q with
  | createWorkflow params =>
      rcases hq with hq | ⟨r, h⟩
      · exact ⟨.inr ⟨rfl, .inl hq⟩, trivial⟩
      · cases h
  | setFailed => rcases hq with ⟨⟨r, h⟩ | ⟨r, h⟩, -⟩ <;> cases h
  | pollWorkflow => obtain ⟨⟨r, waits, h, -⟩, -⟩ := hq; cases h
  | extendVisibility => obtain ⟨⟨r, h, -⟩, -⟩ := hq; cases h
  | findDueSchedules | createScheduleInstance | updateNextFire => obtain ⟨r, h⟩ := hq; cases h
  | updateWorkflow => cases hq.1
  | cancelRunning | cancelWaiting | completeRun | setOutput | scheduleSleep | scheduleRetry
  | deletePayload | deleteRun => obtain ⟨⟨r, h⟩, -⟩ := hq; cases h
  | _ => exact ⟨.inr ⟨rfl, trivial⟩, trivial⟩

/-- What the RPC knows of the template it read. -/
structure Known (templateRunId : Uuid) (w : WorkflowRun) (m : Now) : Prop where
  alike : ¬ Overtaken isSource 1 templateRunId m.trace →
    ∃ r, m.store.run templateRunId = some r ∧ Alike r w.toRunRow
  read : ∃ read ∈ m.trace, read.caller = 1 ∧ isSource read.query = true

/-- What the RPC knows of a run it read, in a run in which `Tracked` holds. -/
def Found (cfg : Config) (req : Request) (templateRunId : Uuid) (r₀ : RunRow) (w : WorkflowRun)
    (m : Now) : Prop :=
  Tracked cfg req templateRunId r₀ m ∧ (w.runId = templateRunId → Known templateRunId w m)

theorem found_invariant (hreq : req.editsTemplate = true) (w : WorkflowRun) :
    Invariant (engine cfg req templateRunId) (Found cfg req templateRunId r₀ w) := by
  intro i e q m hm ha
  refine ⟨tracked_invariant hreq i e q m hm.1 ha, fun hid => ?_⟩
  have hknown := hm.2 hid
  obtain ⟨read, hmem, hread⟩ := hknown.read
  exact ⟨alike_kept hreq ha.2.1 hknown.read hknown.alike, read, List.mem_cons_of_mem _ hmem, hread⟩

/-- The last time the RPC read from the clock. -/
def Clock (now : Int) (m : Now) : Prop :=
  reading 1 m.trace = now ∧ ∃ ran ∈ m.trace, ran.caller = 1 ∧ now ∈ clockOf ran

theorem Clock.after {now : Int} {i : Nat} {e : Env} {q : Stmt} {m : Now}
    {M : Engine Stmt Stmt.Result World Env} (h : Clock now m) (hq : i = 1 → q ≠ .utcNow) :
    Clock now (m.after M i e q) := by
  obtain ⟨hreading, ran, hran, hcaller⟩ := h
  refine ⟨?_, ran, List.mem_cons_of_mem _ hran, hcaller⟩
  have hnone : (if i = 1 then clockOf ⟨i, e, q, (M.exec e q m.store).1⟩ else none) = none := by
    split
    next hi =>
      cases q with
      | utcNow => exact absurd rfl (hq hi)
      | _ => rfl
    next => rfl
  rw [Moment.after_trace, reading, List.findSome?_cons, hnone]
  exact hreading

theorem clock_stable {M : Engine Stmt Stmt.Result World Env}
    {Γ : Condition Stmt Stmt.Result World Env} (now : Int) : Stable M Γ 1 (Clock now) :=
  fun _ _ _ _ hj h _ _ => h.after fun heq => absurd heq hj

section Judgements
variable {L : Now → Prop}

/-- A part of a handler that touches no template keeps what no statement
destroys. -/
theorem sat_idle {ε α : Type} {p : Prog Stmt Stmt.Result ε α} (hp : p.Uses (idle.may cfg))
    (hL : Invariant (engine cfg req templateRunId) L) :
    Sat (base templateRunId) (Guarded cfg req templateRunId) 1 L p (fun _ => L)
      (fun _ _ => True) :=
  (Sat.of_uses hp hL.stable fun e q m hq hm ha =>
    ⟨guarded_of_idle hq e m, hL 1 e q m hm ⟨ha, guarded_of_idle hq e m⟩⟩).mono
    (fun _ h => h) (fun _ _ h => h) fun _ _ _ => trivial

/-- The same for one statement, which may answer something, once the clock is
read. -/
theorem sat_idle_stmt {q : Stmt} (hq : idle.may cfg q) (hnow : q ≠ .utcNow)
    (hL : Invariant (engine cfg req templateRunId) L) (now : Int) :
    Sat (base templateRunId) (Guarded cfg req templateRunId) 1 (fun m => L m ∧ Clock now m)
      (stmt q) (fun _ m => L m ∧ Clock now m) (fun _ _ => True) := by
  refine Sat.mapError (X := fun _ _ => True)
    (sat_sql (fun _ => hL.stable.and (clock_stable now)) fun e m hm ha => ?_) fun _ _ _ => trivial
  have hΓ : Guarded cfg req templateRunId 1 e q m := guarded_of_idle hq e m
  exact ⟨hΓ, fun _ _ => ⟨hL 1 e q m hm.1 ⟨ha, hΓ⟩, hm.2.after fun _ => hnow⟩⟩

theorem sat_utcNow (hL : Invariant (engine cfg req templateRunId) L) :
    Sat (base templateRunId) (Guarded cfg req templateRunId) 1 L (stmt .utcNow)
      (fun now m => L m ∧ Clock now m) (fun _ _ => True) := by
  refine Sat.mapError (X := fun _ _ => True)
    (sat_sql (fun now => hL.stable.and (clock_stable now)) fun e m hm ha => ?_) fun _ _ _ => trivial
  have hΓ : Guarded cfg req templateRunId 1 e .utcNow m := guarded_of_idle (q := .utcNow) trivial e m
  refine ⟨hΓ, fun now hres => ⟨hL 1 e _ m hm ⟨ha, hΓ⟩, ?_, _, List.mem_cons_self .., rfl, ?_⟩⟩
  · rw [Moment.after_trace, hres, reading, List.findSome?_cons]
    rfl
  · rw [hres]
    rfl

/-- The RPC reads a run. -/
theorem sat_findById (hreq : req.editsTemplate = true) (runId : Uuid) (ns : String)
    {N : Now → Prop} (hN : Stable (base templateRunId) (Guarded cfg req templateRunId) 1 N)
    (hown : ∀ e m, N m → N (m.after (base templateRunId) 1 e (.findById runId ns))) :
    Sat (base templateRunId) (Guarded cfg req templateRunId) 1
      (fun m => Tracked cfg req templateRunId r₀ m ∧ N m) (stmt (.findById runId ns))
      (fun found m => ∀ w ∈ found, w.runId = runId ∧ Found cfg req templateRunId r₀ w m ∧ N m)
      (fun _ _ => True) := by
  have hstable : ∀ found : Option WorkflowRun,
      Stable (base templateRunId) (Guarded cfg req templateRunId) 1 fun m =>
        ∀ w ∈ found, w.runId = runId ∧ Found cfg req templateRunId r₀ w m ∧ N m :=
    fun found j e q m hj hm ha hΓ w hw =>
      ⟨(hm w hw).1, found_invariant hreq w j e q m (hm w hw).2.1 ⟨ha, hΓ⟩,
        hN j e q m hj (hm w hw).2.2 ha hΓ⟩
  refine Sat.mapError (X := fun _ _ => True) (sat_sql hstable fun e m hm ha => ?_)
    fun _ _ _ => trivial
  have hΓ : Guarded cfg req templateRunId 1 e (.findById runId ns) m :=
    guarded_of_idle (q := .findById runId ns) trivial e m
  refine ⟨hΓ, fun found hres w hw => ?_⟩
  obtain rfl := hw
  obtain ⟨hrun, hid, -⟩ := run_of_findById hres
  refine ⟨hid, ⟨tracked_invariant hreq 1 e _ m hm.1 ⟨ha, hΓ⟩, fun hT => ⟨fun _ => ?_, ?_⟩⟩, hown e m hm.2⟩
  · rw [← hid, hT] at hrun
    exact ⟨w.toRunRow, row_kept hreq hΓ.1 hrun rfl rfl, .refl _⟩
  · exact ⟨_, List.mem_cons_self .., rfl, rfl⟩

/-- The RPC writes what its effect makes of the row it read. -/
structure Fits (cfg : Config) (req : Request) (workflow : RunRow) (w : WorkflowRun) (m : Now) :
    Prop where
  effect : ∀ r, Alike r w.toRunRow →
    Alike (RunRow.overwrite workflow r) (rpcEffect cfg req (reading 1 m.trace) r)
  last : workflow.lastFiredAt = w.lastFiredAt
  next : ∀ a ∈ workflow.availableAt, a ∈ w.availableAt ∨
    ∃ ran ∈ m.trace, ran.caller = 1 ∧ ∃ now ∈ clockOf ran, now < a

theorem sat_write (hreq : req.editsTemplate = true) {runId : Uuid} {workflow : RunRow}
    (hmay : req.may cfg (.updateWorkflow runId workflow)) {w : WorkflowRun} (hid : w.runId = runId)
    {N : Now → Prop} (hfits : runId = templateRunId → ∀ m, N m → Fits cfg req workflow w m) :
    Sat (base templateRunId) (Guarded cfg req templateRunId) 1
      (fun m => Found cfg req templateRunId r₀ w m ∧ N m) (stmt (.updateWorkflow runId workflow))
      (fun _ => Tracked cfg req templateRunId r₀) (fun _ _ => True) := by
  have hinv : Invariant (engine cfg req templateRunId) (Tracked cfg req templateRunId r₀) :=
    tracked_invariant hreq
  refine Sat.mapError (X := fun _ _ => True) (sat_sql (fun _ => hinv.stable) fun e m hm ha => ?_)
    fun _ _ _ => trivial
  have hΓ : Guarded cfg req templateRunId 1 e (.updateWorkflow runId workflow) m := by
    refine ⟨.inr ⟨rfl, hmay⟩, fun hT r hr => ?_⟩
    have hknown := hm.1.2 (hid.trans hT)
    obtain ⟨r', hr', halike⟩ := hknown.alike (ha.1.2 hT)
    obtain rfl := Option.some.inj (hr'.symm.trans hr)
    have h := hfits hT m hm.2
    exact ⟨hknown.read, h.effect r' halike, h.last.trans halike.lastFiredAt.symm,
      fun a ha' => (h.next a ha').imp_left fun hw => halike.availableAt ▸ hw⟩
  exact ⟨hΓ, fun _ _ => hinv 1 e _ m hm.1.1 ⟨ha, hΓ⟩⟩

/-- The RPC goes on with what it found. -/
theorem sat_orFail {α : Type} {found : Option α} {status : Status} {P : α → Now → Prop} :
    Sat (base templateRunId) (Guarded cfg req templateRunId) 1 (fun m => ∀ a ∈ found, P a m)
      (orFail found status) P (fun _ _ => True) := by
  cases found with
  | none => exact fun _ _ => trivial
  | some a => exact fun m hm => hm a rfl

/-- The RPC reads the run it names. -/
theorem sat_find (hreq : req.editsTemplate = true) (runId : Uuid) (ns scheduleId : String) :
    Sat (base templateRunId) (Guarded cfg req templateRunId) 1 (Tracked cfg req templateRunId r₀)
      (ScheduleService.find runId ns scheduleId)
      (fun w m => w.runId = runId ∧ Found cfg req templateRunId r₀ w m) (fun _ _ => True) := by
  refine Sat.bind ((sat_findById hreq runId ns (N := fun _ => True) stable_true
    fun _ _ _ => trivial).start fun _ hm => ⟨hm, trivial⟩) fun found => ?_
  exact sat_orFail.mono (fun _ h => h) (fun _ _ hm => ⟨hm.1, hm.2.1⟩) fun _ _ h => h

theorem sat_uuid_bind {β : Type} {text message : String} {f : Uuid → Rpc β}
    {P : β → Now → Prop}
    (h : ∀ runId, cfg.parseUuid text = some runId →
      Sat (base templateRunId) (Guarded cfg req templateRunId) 1 L (f runId) P (fun _ _ => True)) :
    Sat (base templateRunId) (Guarded cfg req templateRunId) 1 L (cfg.uuid text message >>= f) P
      (fun _ _ => True) := by
  unfold Config.uuid orFail
  cases hp : cfg.parseUuid text with
  | none => exact fun _ _ => trivial
  | some runId => exact h runId hp

theorem sat_nonEmpty_bind {β : Type} {value field : String} {f : Unit → Rpc β}
    {P : β → Now → Prop}
    (h : Sat (base templateRunId) (Guarded cfg req templateRunId) 1 L (f ()) P (fun _ _ => True)) :
    Sat (base templateRunId) (Guarded cfg req templateRunId) 1 L
      (requireNonEmpty value field >>= f) P (fun _ _ => True) := by
  unfold requireNonEmpty
  split
  · exact fun _ _ => trivial
  · exact h

/-- What an enabled template is written as. -/
theorem fits_resumed {w : WorkflowRun} {message : String} {cron : Recurrence} {now fire : Int}
    (hcron : ScheduleService.cronOf cfg w message = .ok cron)
    (hfire : ScheduleService.nextAfter cron now = .ok fire)
    (heffect : ∀ r, rpcEffect cfg req now r = resumed cfg now r) {m : Now} (hnow : Clock now m) :
    Fits cfg req { w.toRunRow with status := .scheduled, availableAt := some fire } w m := by
  obtain ⟨hreading, ran, hran, hcaller, hclock⟩ := hnow
  refine ⟨fun r halike => ?_, rfl, fun a ha => .inr ⟨ran, hran, hcaller, now, hclock, ?_⟩⟩
  · rw [hreading, heffect]
    unfold ScheduleService.cronOf at hcron
    split at hcron
    next expr hexpr =>
      have hnext : ScheduleService.nextFireFromNow cfg expr now = .ok fire := by
        unfold ScheduleService.nextFireFromNow
        rw [hcron]
        exact hfire
      have hmap : r.cronExpr.map (fun expr => ScheduleService.nextFireFromNow cfg expr now)
          = some (.ok fire) := by
        rw [halike.cronExpr.trans hexpr, Option.map_some, hnext]
      unfold resumed
      rw [hmap]
      exact ⟨rfl, rfl, halike.cronExpr.symm, halike.maxCatchup.symm, halike.lastFiredAt.symm, rfl, rfl⟩
    next => cases hcron
  · obtain rfl := Option.some.inj ha
    unfold ScheduleService.nextAfter at hfire
    split at hfire
    next next hnext =>
      obtain rfl := Except.ok.inj hfire
      exact cron.lt_next hnext
    next => cases hfire

/-- What a paused template is written as. -/
theorem fits_paused {w : WorkflowRun} {m : Now}
    (heffect : ∀ now r, rpcEffect cfg req now r = { r with status := .paused }) :
    Fits cfg req { w.toRunRow with status := .paused } w m := by
  refine ⟨fun r halike => ?_, rfl, fun a ha => .inl ha⟩
  rw [heffect]
  exact ⟨rfl, halike.availableAt.symm, halike.cronExpr.symm, halike.maxCatchup.symm,
    halike.lastFiredAt.symm, rfl, rfl⟩

end Judgements

/-! ### The handlers -/

section Handlers

theorem answer_idle (w : WorkflowRun) :
    (ScheduleService.answer cfg w).Uses (idle.may cfg) := (answer_uses cfg idle w).mono fun _ h => h.1

theorem sat_pause (r : ScheduleRequest) :
    Sat (base templateRunId) (Guarded cfg (.pauseWorkflowSchedule r) templateRunId) 1
      (Tracked cfg (.pauseWorkflowSchedule r) templateRunId r₀)
      (ScheduleService.pauseWorkflowSchedule cfg r)
      (fun _ => Tracked cfg (.pauseWorkflowSchedule r) templateRunId r₀) (fun _ _ => True) := by
  refine sat_uuid_bind fun runId hid => sat_nonEmpty_bind ?_
  refine Sat.bind (sat_find rfl runId r.ns r.scheduleId) fun w => Sat.of_fact fun hw => ?_
  have hmay : (Request.pauseWorkflowSchedule r).may cfg
      (.updateWorkflow runId { w.toRunRow with status := .paused }) := ⟨rfl, rfl, .inr hid⟩
  refine Sat.bind ((sat_write (N := fun _ => True) rfl hmay hw
    fun _ m _ => fits_paused fun _ _ => rfl).start fun m hm => ⟨hm, trivial⟩) fun _ => ?_
  exact sat_idle (answer_idle _) (tracked_invariant rfl)

theorem sat_resume (r : ScheduleRequest) :
    Sat (base templateRunId) (Guarded cfg (.resumeWorkflowSchedule r) templateRunId) 1
      (Tracked cfg (.resumeWorkflowSchedule r) templateRunId r₀)
      (ScheduleService.resumeWorkflowSchedule cfg r)
      (fun _ => Tracked cfg (.resumeWorkflowSchedule r) templateRunId r₀) (fun _ _ => True) := by
  refine sat_uuid_bind fun runId hid => sat_nonEmpty_bind ?_
  refine Sat.bind (sat_find rfl runId r.ns r.scheduleId) fun w => Sat.of_fact fun hw => ?_
  refine Sat.ofExcept_bind (fun cron hcron => ?_) fun _ _ _ => trivial
  refine Sat.bind (sat_utcNow (found_invariant rfl w)) fun now => ?_
  refine Sat.ofExcept_bind (fun fire hfire => ?_) fun _ _ _ => trivial
  have hmay : (Request.resumeWorkflowSchedule r).may cfg (.updateWorkflow runId
      { w.toRunRow with status := .scheduled, availableAt := some fire }) := ⟨rfl, rfl, .inr hid⟩
  refine Sat.bind (sat_write rfl hmay hw
    fun _ m hm => fits_resumed hcron hfire (fun _ => rfl) hm) fun _ => ?_
  exact sat_idle (answer_idle _) (tracked_invariant rfl)

theorem sat_setEnabled {r : UpdateWorkflowScheduleRequest} {runId : Uuid} {w : WorkflowRun}
    (hid : cfg.parseUuid r.scheduleId = some runId) (hw : w.runId = runId) :
    Sat (base templateRunId) (Guarded cfg (.updateWorkflowSchedule r) templateRunId) 1
      (Found cfg (.updateWorkflowSchedule r) templateRunId r₀ w)
      (ScheduleService.setEnabled cfg runId w r.enabled)
      (fun _ => Tracked cfg (.updateWorkflowSchedule r) templateRunId r₀) (fun _ _ => True) := by
  have hmay : ∀ workflow : RunRow, workflow.status.isScheduleTemplate = true →
      (Request.updateWorkflowSchedule r).may cfg (.updateWorkflow runId workflow) :=
    fun _ ht => ⟨rfl, ht, .inr hid⟩
  cases henabled : r.enabled with
  | none => exact fun _ hm => hm.1
  | some enabled =>
      cases enabled with
      | true =>
          refine Sat.ofExcept_bind (fun cron hcron => ?_) fun _ _ _ => trivial
          refine Sat.bind (sat_utcNow (found_invariant rfl w)) fun now => ?_
          refine Sat.ofExcept_bind (fun fire hfire => ?_) fun _ _ _ => trivial
          have heffect : ∀ row, rpcEffect cfg (.updateWorkflowSchedule r) now row
              = resumed cfg now row := by
            intro row
            simp only [rpcEffect, henabled]
          exact sat_write rfl (hmay _ rfl) hw fun _ m hm => fits_resumed hcron hfire heffect hm
      | false =>
          have heffect : ∀ now row, rpcEffect cfg (.updateWorkflowSchedule r) now row
              = { row with status := .paused } := by
            intro now row
            simp only [rpcEffect, henabled]
          refine (sat_write (N := fun _ => True) rfl (hmay _ ?_) hw ?_).start fun m hm => ⟨hm, trivial⟩
          · rfl
          · exact fun _ m _ => fits_paused heffect

theorem sat_update (r : UpdateWorkflowScheduleRequest) :
    Sat (base templateRunId) (Guarded cfg (.updateWorkflowSchedule r) templateRunId) 1
      (Tracked cfg (.updateWorkflowSchedule r) templateRunId r₀)
      (ScheduleService.updateWorkflowSchedule cfg r)
      (fun _ => Tracked cfg (.updateWorkflowSchedule r) templateRunId r₀) (fun _ _ => True) := by
  refine sat_uuid_bind fun runId hid => sat_nonEmpty_bind ?_
  refine Sat.bind (sat_find rfl runId r.ns r.scheduleId) fun w => Sat.of_fact fun hw => ?_
  refine Sat.bind (sat_idle ((checkCron_uses cfg idle r.cronExpr).mono fun _ h => h.1) (found_invariant rfl w)) fun _ => ?_
  refine Sat.bind (sat_setEnabled hid hw) fun _ => ?_
  refine Sat.bind (sat_idle ((find_uses cfg idle _ _ _).mono fun _ h => h.1) (tracked_invariant rfl)) fun schedule => ?_
  exact sat_idle (answer_idle _) (tracked_invariant rfl)

/-- What a repeated create writes. -/
theorem fits_recreated {r : CreateWorkflowScheduleRequest} {w : WorkflowRun} {now fire : Int}
    (hfire : ScheduleService.nextFireFromNow cfg r.cronExpr now = .ok fire) {m : Now}
    (hnow : Clock now m) :
    Fits cfg (.createWorkflowSchedule r)
      (ScheduleService.recreated w r.cronExpr fire
        (r.maxCatchup.getD cfg.coordinator.defaultMaxCatchup) (r.enabled.getD true)).toRunRow w m := by
  obtain ⟨hreading, ran, hran, hcaller, hclock⟩ := hnow
  refine ⟨fun row halike => ?_, rfl, fun a ha => .inr ⟨ran, hran, hcaller, now, hclock, ?_⟩⟩
  · rw [hreading]
    simp only [rpcEffect, hfire]
    exact ⟨rfl, rfl, rfl, rfl, halike.lastFiredAt.symm, rfl, rfl⟩
  · obtain rfl := Option.some.inj ha
    unfold ScheduleService.nextFireFromNow at hfire
    cases hparse : ScheduleService.parseCronExpr cfg r.cronExpr with
    | error x =>
        rw [hparse] at hfire
        cases hfire
    | ok cron =>
        rw [hparse] at hfire
        change ScheduleService.nextAfter cron now = .ok fire at hfire
        unfold ScheduleService.nextAfter at hfire
        split at hfire
        next next hnext =>
          obtain rfl := Except.ok.inj hfire
          exact cron.lt_next hnext
        next => cases hfire

theorem sat_create (r : CreateWorkflowScheduleRequest) :
    Sat (base templateRunId) (Guarded cfg (.createWorkflowSchedule r) templateRunId) 1
      (Tracked cfg (.createWorkflowSchedule r) templateRunId r₀)
      (ScheduleService.createWorkflowSchedule cfg r)
      (fun _ => Tracked cfg (.createWorkflowSchedule r) templateRunId r₀) (fun _ _ => True) := by
  have hinv : Invariant (engine cfg (.createWorkflowSchedule r) templateRunId)
      (Tracked cfg (.createWorkflowSchedule r) templateRunId r₀) := tracked_invariant rfl
  have hmay : ∀ runId (workflow : RunRow), workflow.status.isScheduleTemplate = true →
      (Request.createWorkflowSchedule r).may cfg (.updateWorkflow runId workflow) :=
    fun _ _ ht => ⟨rfl, ht, .inl ⟨r, rfl⟩⟩
  have htemplate := enabledStatus_isScheduleTemplate (r.enabled.getD true)
  refine sat_nonEmpty_bind (sat_nonEmpty_bind (sat_nonEmpty_bind (sat_nonEmpty_bind
    (sat_nonEmpty_bind ?_))))
  refine Sat.bind (sat_idle ((uses_call (getOrCreate_uses cfg idle r.ns)).mono fun _ h => h.1) hinv) fun _ => ?_
  refine Sat.bind (sat_utcNow hinv) fun now => ?_
  refine Sat.ofExcept_bind (fun fire hfire => ?_) fun _ _ _ => trivial
  refine Sat.bind (sat_idle_stmt (q := .findActiveByExternalId r.ns ("schedule:" ++ r.scheduleId))
    trivial (fun h => by cases h) hinv now) fun existing => ?_
  cases existing with
  | some existingRunId =>
      refine Sat.bind (sat_findById rfl existingRunId r.ns (clock_stable now)
        fun e m hm => hm.after fun _ h => by cases h) fun found => ?_
      refine Sat.bind sat_orFail fun w => Sat.of_fact fun hw => ?_
      refine Sat.bind (sat_write rfl (hmay _ _ htemplate) hw
        fun _ m hm => fits_recreated hfire hm) fun _ => ?_
      exact sat_idle (answer_idle _) hinv
  | none =>
      have hcreate : ∀ params : CreateWorkflow, params.scheduleId = none →
          Sat (base templateRunId) (Guarded cfg (.createWorkflowSchedule r) templateRunId) 1
            (Tracked cfg (.createWorkflowSchedule r) templateRunId r₀)
            (call (WorkflowRepository.create cfg.payloadMaxSizeBytes params))
            (fun _ m => params.runId ≠ templateRunId ∧
              Tracked cfg (.createWorkflowSchedule r) templateRunId r₀ m) (fun _ _ => True) := by
        intro params hparams
        refine Sat.mapError (X := fun _ _ => True) (Sat.ofExcept_bind (fun _ _ => ?_)
          fun _ _ _ => trivial) fun _ _ _ => trivial
        refine sat_sql (fun _ => stable_const.and hinv.stable) fun e m hm ha => ?_
        have hΓ : Guarded cfg (.createWorkflowSchedule r) templateRunId 1 e (.createWorkflow params) m :=
          guarded_of_idle (show idle.may cfg (.createWorkflow params) from .inl hparams) e m
        refine ⟨hΓ, fun runId hres => ⟨fun heq => ?_, hinv 1 e _ m hm ⟨ha, hΓ⟩⟩⟩
        obtain ⟨row, hrow, -⟩ := hm.row
        rw [← heq, free_of_createWorkflow hres] at hrow
        cases hrow
      refine Sat.bind ((sat_idle (uses_stmt (q := .newUuid) trivial) hinv).start fun _ hm => hm.1) fun runId => ?_
      refine Sat.bind (hcreate _ rfl) fun _ => Sat.of_fact fun hne => ?_
      refine Sat.bind ((sat_findById rfl runId r.ns (N := fun _ => True) stable_true
        fun _ _ _ => trivial).start fun _ hm => ⟨hm, trivial⟩) fun found => ?_
      refine Sat.bind sat_orFail fun w => Sat.of_fact fun hw => ?_
      refine Sat.bind (sat_write rfl (hmay _ _ htemplate) hw fun heq => absurd heq hne) fun _ => ?_
      exact sat_idle (answer_idle _) hinv

theorem sat_rpc (hreq : req.editsTemplate = true) :
    Sat (base templateRunId) (Guarded cfg req templateRunId) 1 (Tracked cfg req templateRunId r₀)
      (handle cfg req) (fun _ => Tracked cfg req templateRunId r₀) (fun _ _ => True) := by
  cases req with
  | createWorkflowSchedule r => exact sat_create r
  | updateWorkflowSchedule r => exact sat_update r
  | pauseWorkflowSchedule r => exact sat_pause r
  | resumeWorkflowSchedule r => exact sat_resume r
  | _ => cases hreq

end Handlers

end Rpc

/-- No update is lost where no write comes between the reads and the write of a
call. -/
theorem no_lost_update_if_untouched (cfg : Config) : NoLostUpdate cfg Untouched := by
  intro templateRunId w r₀ req p hreq hr h
  have hinv : Invariant (engine cfg req templateRunId) (Tracked cfg req templateRunId r₀) :=
    tracked_invariant hreq
  have hnone : ∀ {ran : Ran}, ran ∉ ([] : List Ran) := fun hmem => by cases hmem
  have hnone' : ∀ {P : Ran → Prop}, ¬ ∃ ran ∈ ([] : List Ran), P ran :=
    fun ⟨_, hmem, _⟩ => hnone hmem
  have hstart : Tracked cfg req templateRunId r₀ ⟨w, []⟩ := by
    refine ⟨⟨r₀, hr, .inl (.refl r₀)⟩, fun hm => absurd hm hnone', fun he => absurd he hnone', ?_,
      fun _ hran => absurd hran hnone, fun _ hd => absurd hd hnone', fun hm => absurd hm hnone',
      fun hm => absurd hm hnone'⟩
    rintro fireAt ⟨runId, hmem⟩
    cases hmem
  have hsound : Sound (((service cfg).restrict (Untouched templateRunId)).restrict ReadsOnce)
      (Guarded cfg req templateRunId) (fun _ _ _ _ => True) (fun _ _ _ _ => True)
      (together cfg req w) := by
    refine ⟨fun _ hran => absurd hran hnone, fun i r c hget => ?_⟩
    match i, hget with
    | 0, hget =>
        obtain ⟨rfl, rfl⟩ := Prod.mk.inj (Option.some.inj hget)
        have hfresh : Stable (base templateRunId) (Guarded cfg req templateRunId) 0 fun m =>
            ∀ ran ∈ m.trace, ran.caller ≠ 0 := by
          intro j e q m hj hm _ _ ran hran
          rcases List.mem_cons.mp hran with rfl | hran
          · exact hj
          · exact hm ran hran
        refine ⟨_, hinv.stable.and hfresh, ⟨hstart, fun _ hran => absurd hran hnone⟩, ?_⟩
        exact ((coordinatorRule hreq).sat_coordinator 1).mono (fun _ h => h) (fun _ _ _ => trivial)
          fun _ _ _ => trivial
    | 1, hget =>
        obtain ⟨rfl, rfl⟩ := Prod.mk.inj (Option.some.inj hget)
        exact ⟨_, hinv.stable, hstart, (sat_rpc hreq).mono (fun _ h => h) (fun _ _ _ => trivial)
          fun _ _ _ => trivial⟩
  have hserves : Serves (((service cfg).restrict (Untouched templateRunId)).restrict ReadsOnce)
      (Guarded cfg req templateRunId) (Tracked cfg req templateRunId r₀) (fun _ _ _ _ => True)
      (fun _ _ _ _ => True) := by
    intro i r hacc
    exact hacc.elim
  obtain ⟨hrun, -⟩ := (reads_once hreq h).sound hserves hinv hstart hsound
  have htracked := hrun.invariant hinv hstart
  obtain ⟨r, hrow, horder⟩ := htracked.row
  refine ⟨r, hrow, horder.imp Alike.columns Alike.columns, fun hmoved fireAt hfired => ?_⟩
  exact htracked.beyond hmoved r hrow fireAt (htracked.fired fireAt hfired)

/-! ## Two updates that are kept -/

/-- A tick fires a template that is due at ten seconds, and then the schedule is
resumed. -/
def resumedAfterwards : ServerState :=
  fireAll ((service .sample).restrict (Untouched 1))
    (together .sample (.resumeWorkflowSchedule ⟨"ns", "1"⟩) (tenSecondsWorld 50)) <|
    runs 0 7 (.quiet 10 2) ++ runs 1 3 (.quiet 25 3)

/-- The template has been moved and edited, and its columns are those of a serial
order. -/
theorem no_lost_update_if_untouched_resumedAfterwards :
    Moved 1 resumedAfterwards.trace ∧ Edited 1 resumedAfterwards.trace ∧
      ∃ r, resumedAfterwards.store.run 1 = some r ∧
        Serial .sample (.resumeWorkflowSchedule ⟨"ns", "1"⟩) 1 (tenSecondsRow 50) r
          resumedAfterwards.trace := by
  have hsteps : Steps ((service .sample).restrict (Untouched 1))
      (together .sample (.resumeWorkflowSchedule ⟨"ns", "1"⟩) (tenSecondsWorld 50))
      resumedAfterwards := AllEnabled.steps (by decide +kernel)
  have hrow : (tenSecondsWorld 50).run 1 = some (tenSecondsRow 50) := by decide +kernel
  refine ⟨?_, ?_, no_lost_update_if_untouched .sample 1 _ _ _ _ rfl hrow hsteps⟩
  · unfold Moved
    decide +kernel
  · unfold Edited
    decide +kernel

/-! ## An update that is lost -/

/-- A tick reads a template that is due at ten seconds, the schedule is resumed at
25 seconds, and the tick goes on. -/
def resumeMeanwhile : List (Action Env Request) :=
  runs 0 3 (.quiet 10 2) ++ runs 1 3 (.quiet 25 3) ++ runs 0 4 (.quiet 26 4)

/-- The tick moves the next fire time from 30 seconds, where the resume put it,
back to 20 seconds. -/
theorem update_is_lost : ¬ NoLostUpdate .sample fun _ _ _ _ _ => True := by
  intro hnone
  let S := (service .sample).restrict fun _ _ _ _ => True
  let resume : Request := .resumeWorkflowSchedule ⟨"ns", "1"⟩
  let p := fireAll S (together .sample resume (tenSecondsWorld 50)) resumeMeanwhile
  have hsteps : Steps S (together .sample resume (tenSecondsWorld 50)) p :=
    AllEnabled.steps (by decide +kernel)
  have hrow : (tenSecondsWorld 50).run 1 = some (tenSecondsRow 50) := by decide +kernel
  obtain ⟨r, hr, hserial⟩ := hnone 1 _ _ resume p rfl hrow hsteps
  have hcolumns : (p.store.run 1).map columns
      = some (.scheduled, some (seconds 20), some "*/10 * * * * *", 50, some (seconds 10)) := by
    decide +kernel
  rw [hr, Option.map_some] at hcolumns
  have hfirst : columns (rpcAfter .sample resume 1 p.trace (tickAfter .sample 1 p.trace
      (tenSecondsRow 50)))
      = (.scheduled, some (seconds 30), some "*/10 * * * * *", 50, some (seconds 10)) := by
    decide +kernel
  have hsecond : columns (tickAfter .sample 1 p.trace (rpcAfter .sample resume 1 p.trace
      (tenSecondsRow 50)))
      = (.scheduled, some (seconds 30), some "*/10 * * * * *", 50, none) := by
    decide +kernel
  have horder := hserial.order
  rw [hfirst, hsecond, Option.some.inj hcolumns] at horder
  revert horder
  decide

end LostUpdate

end Kagzi
