import Kagzi.WakeUp.Covered

/-!
# Wake-ups

`poll_task` asks the store for a run, and then subscribes to its queue and waits.  A run that
is inserted and announced in between is announced to nobody (`wake_up_is_lost`), and most of
what makes a run claimable announces nothing at all.  `Undisturbed` collects what may not
happen while a poll waits.  In a run of the server where it does not happen, a poll that is
blocked misses no run but one whose creation is still under way (`no_lost_wake_up`).
-/

namespace Kagzi

open Atomic Broadcast Notified

namespace WakeUp

abbrev Now := Moment Op Op.Result State Supply

abbrev Ran := Event Op Op.Result Supply

/-! ## What is claimed -/

/-- What the newest poll of the call has asked for. -/
def asked (i : Nat) : List Ran → Option Filter
  | [] => none
  | ⟨j, _, .stmt (.pollWorkflow ns taskQueue _ types _), _⟩ :: trace =>
      if j = i then some ⟨ns, taskQueue, types⟩ else asked i trace
  | _ :: trace => asked i trace

/-- The receiver that a call of `poll_task` waits at. -/
def awaited (p : Server) (i : Nat) : Option Nat :=
  match p.calls[i]? with
  | some (.rpc (.pollTask _ _), .call (.wait rx) _) => some rx
  | _ => none

/-- The call of `poll_task` waits for a message, and there is none. -/
def Blocked (p : Server) (i : Nat) (f : Filter) : Prop :=
  asked i p.trace = some f ∧ ∃ rx, awaited p i = some rx ∧ ¬ p.store.queue.registry.Readable rx

/-- The run that the step has inserted. -/
def inserted : Ran → Option Uuid
  | ⟨_, _, .stmt (.createWorkflow params), .ok _⟩ => some params.runId
  | ⟨_, _, .stmt (.createScheduleInstance _ _), .ok runId⟩ => runId
  | _ => none

/-- The coordinator moves a schedule on. -/
def MovesOn : Op → Prop
  | .stmt (.updateNextFire _ _ _) => True
  | _ => False

/-- The call that has inserted the run is not done.  The coordinator is done with it when it
moves the schedule on. -/
def Underway (p : Server) (runId : Uuid) : Prop :=
  ∃ later ran earlier, p.trace = later ++ ran :: earlier ∧ inserted ran = some runId ∧
    (∃ call q k, p.calls[ran.caller]? = some (call, .call q k)) ∧
    ∀ ran' ∈ later, ran'.caller = ran.caller → ¬ MovesOn ran'.query

/-- A poll that is blocked misses no run but those whose creation is under way. -/
def NoLostWakeUp (p : Server) : Prop :=
  ∀ i f, Blocked p i f → ∀ runId, Claimable p.store.world f runId → Underway p runId

/-! ## The condition -/

/-- The standing of a call.  `asks i` is the call number `i`. -/
def standing (asks : Nat → Call) (trace : List Ran) (j : Nat) : Standing :=
  (monitor (asks j)).mode j trace

/-- The condition on the steps of a run. -/
def Calm (asks : Nat → Call) : Condition Op Op.Result State Supply := fun i e q m =>
  Undisturbed (standing asks m.trace) (starts (asks i)) i e q m.store

/-- The calls of a pool. -/
def asksOf (p : Server) (i : Nat) : Call := ((p.calls[i]?).map Prod.fst).getD (.listener 0)

/-! ## Runs -/

section Runs
variable {cfg : Config} {capacity : Nat} {w : World} {p : Server}

/-- The standings after a step are those of the trace after it. -/
theorem standing_cons (asks : Nat → Call) (ran : Ran) (trace : List Ran) :
    standing asks (ran :: trace) = after (standing asks trace) ran.caller
      (next (starts (asks ran.caller)) (standing asks trace ran.caller) ran.query ran.answer) := by
  funext j
  by_cases hj : j = ran.caller
  · subst hj
    rw [after_own]
    exact (monitor _).mode_own rfl
  · rw [after_other hj]
    exact (monitor _).mode_other fun heq => hj heq.symm

/-- What a call does next is what its mode asks for. -/
theorem obeys_of_steps {C : Condition Op Op.Result State Supply} {i : Nat} {call : Call}
    {c : Notified.Code (Option Response)}
    (h : Steps ((service cfg capacity).restrict C) (.init ⟨w, .empty⟩ []) p)
    (hget : p.calls[i]? = some (call, c)) :
    c.Obeys (monitor call) allowed ((monitor call).mode i p.trace) (fun _ => Idle) fun _ => Idle :=
  h.obeys (N := monitor) (P := fun _ _ => Idle) (X := fun _ _ => Idle)
    (fun call _ => handle_obeys cfg call) hget

/-- In an undisturbed run, every run that a waiting poll can claim is announced to it. -/
theorem covered_of_steps {asks : Nat → Call}
    (h : Steps ((service cfg capacity).restrict (Calm asks)) (.init ⟨w, .empty⟩ []) p)
    (hasks : ∀ i call c, p.calls[i]? = some (call, c) → asks i = call) :
    Sorted (standing asks p.trace) p.store ∧ Covered (standing asks p.trace) p.store := by
  induction h with
  | refl =>
      have hmode : ∀ j, (standing asks [] j).mode = .idle := fun _ => rfl
      refine ⟨⟨?_, ?_, ?_, ?_, ?_, ?_, ?_⟩, ?_⟩
      · intro j f tx hj
        cases (hmode j).symm.trans hj
      · intro j f rx hj
        cases (hmode j).symm.trans hj
      · intro j rx hj
        cases hj
      · intro j j' rx hj
        cases hj
      · intro j t ht
        cases ht
      · intro j runId source hj
        cases (hmode j).symm.trans hj
      · intro j runId key hj
        cases (hmode j).symm.trans hj
      · intro j f runId hj
        cases hj
  | tail hsteps hstep ih =>
      obtain ⟨hsorted, hcovered⟩ := ih fun i call c hget =>
        let ⟨c', hget'⟩ := hstep.stays hget
        hasks i call c' hget'
      cases hstep with
      | start _ => exact ⟨hsorted, hcovered⟩
      | @exec m cs i e call q k hget hadmits =>
          have hcall : asks i = call := by
            obtain ⟨c', hget'⟩ := (Step.exec hget hadmits).stays hget
            exact hasks i call c' hget'
          subst hcall
          have hallowed : allowed (standing asks m.trace i) q := (obeys_of_steps hsteps hget).1
          have hmove := move_of_allowed (starts (asks i)) hallowed (exec capacity e q m.store).1
          obtain ⟨hrun, hund⟩ := hadmits
          show Sorted (standing asks (_ :: m.trace)) _ ∧ Covered (standing asks (_ :: m.trace)) _
          rw [standing_cons]
          exact ⟨sorted_after hsorted hund hmove hrun, covered_after hsorted hund hmove hcovered⟩

end Runs

/-! ## What the trace says of a mode -/

section Traces
variable {call : Call} {i : Nat} {trace : List Ran}

/-- The run that a call is on its way to announce. -/
def Mode.debt : Mode → Option Uuid
  | .owes runId _ => some runId
  | .told runId _ => some runId
  | .found runId _ => some runId
  | _ => none

theorem next_stmt {starts : Bool} {d : Standing} {q : Stmt} {a : q.Result}
    (h : ∀ ns taskQueue, q ≠ .notify ns taskQueue) :
    next starts d (.stmt q) a = nextStmt starts d q a := by
  cases q with
  | notify ns taskQueue => exact absurd rfl (h ns taskQueue)
  | _ => rfl

theorem next_notify (starts : Bool) (d : Standing) (ns taskQueue : String)
    (a : Except StoreError Unit) :
    (next starts d (.stmt (.notify ns taskQueue)) a).mode = .idle ∨ ∃ runId source,
      d.mode = .owes runId source ∧
        (next starts d (.stmt (.notify ns taskQueue)) a).mode = .told runId
        (Queue.queueKey ns taskQueue) := by
  obtain ⟨waits, batch, mode⟩ := d
  cases a with
  | error x => exact .inl rfl
  | ok _ =>
      cases mode with
      | owes runId source => exact .inr ⟨runId, source, rfl, rfl⟩
      | _ => exact .inl rfl

/-- A poll waits for what it has asked for last. -/
theorem next_filter {starts : Bool} {d : Standing} {q : Op} {a : q.Result} {f : Filter}
    (h : (next starts d q a).mode.filter = some f) :
    (∃ workerId secs, q = .stmt (.pollWorkflow f.ns f.taskQueue workerId f.types secs)) ∨
      ((∀ ns taskQueue workerId types secs,
          q ≠ .stmt (.pollWorkflow ns taskQueue workerId types secs)) ∧
        d.mode.filter = some f) := by
  cases q with
  | stmt q =>
      by_cases hq : ∃ ns taskQueue, q = .notify ns taskQueue
      · obtain ⟨ns, taskQueue, rfl⟩ := hq
        rcases next_notify starts d ns taskQueue a with
          hmode | ⟨runId, source, -, hmode⟩
        · rw [hmode] at h
          cases h
        · rw [hmode] at h
          cases h
      · rw [next_stmt fun ns taskQueue heq => hq ⟨ns, taskQueue, heq⟩] at h
        have hout := outcome_of_plain starts d q a
        generalize (nextStmt starts d q a).mode = mode at hout h
        cases hout with
        | unsubscribed _ =>
            obtain rfl := Option.some.inj h
            exact .inl ⟨_, _, rfl⟩
        | _ => cases h
  | queue q =>
      refine .inr ⟨fun _ _ _ _ _ heq => (by cases heq), ?_⟩
      obtain ⟨waits, batch, mode⟩ := d
      cases q with
      | get key => cases a <;> cases mode <;> exact h
      | _ => cases mode <;> exact h
  | wait rx => cases h

/-- A call announces the run that it has inserted, and has not moved its schedule on since. -/
theorem next_debt {starts : Bool} {i : Nat} {e : Supply} {d : Standing} {q : Op} {a : q.Result}
    {runId : Uuid} (h : (next starts d q a).mode.debt = some runId) :
    inserted ⟨i, e, q, a⟩ = some runId ∨ (¬ MovesOn q ∧ d.mode.debt = some runId) := by
  cases q with
  | stmt q =>
      by_cases hq : ∃ ns taskQueue, q = .notify ns taskQueue
      · obtain ⟨ns, taskQueue, rfl⟩ := hq
        rcases next_notify starts d ns taskQueue a with
          hmode | ⟨id, source, howes, hmode⟩
        · rw [hmode] at h
          cases h
        · rw [hmode] at h
          exact .inr ⟨fun hmoves => hmoves, by rw [howes]; exact h⟩
      · rw [next_stmt fun ns taskQueue heq => hq ⟨ns, taskQueue, heq⟩] at h
        have hout := outcome_of_plain starts d q a
        generalize (nextStmt starts d q a).mode = mode at hout h
        cases hout with
        | created hok =>
            subst hok
            exact .inl h
        | instantiated hok =>
            subst hok
            exact .inl h
        | _ => cases h
  | queue q =>
      refine .inr ⟨fun hmoves => hmoves, ?_⟩
      obtain ⟨waits, batch, mode⟩ := d
      cases q with
      | get key =>
          cases a with
          | some c => cases mode <;> exact h
          | none =>
              cases mode with
              | told _ _ => cases h
              | _ => exact h
      | send c =>
          cases mode with
          | found _ _ => cases h
          | _ => exact h
      | _ => cases mode <;> exact h
  | wait rx => cases h

theorem asked_of_ne {ran : Ran} (h : ∀ ns taskQueue workerId types secs,
    ran.query ≠ .stmt (.pollWorkflow ns taskQueue workerId types secs)) :
    asked i (ran :: trace) = asked i trace := by
  obtain ⟨j, e, q, a⟩ := ran
  cases q with
  | stmt q =>
      cases q with
      | pollWorkflow ns taskQueue workerId types secs =>
        exact absurd rfl (h ns taskQueue workerId types secs)
      | _ => rfl
  | _ => rfl

theorem asked_of_filter {f : Filter} (h : ((monitor call).mode i trace).mode.filter = some f) :
    asked i trace = some f := by
  induction trace with
  | nil => cases h
  | cons ran trace ih =>
      by_cases hcaller : ran.caller = i
      · rw [(monitor call).mode_own hcaller] at h
        rcases next_filter h with ⟨workerId, secs, hq⟩ | ⟨hne, hfilter⟩
        · obtain ⟨j, e, q, a⟩ := ran
          obtain rfl : q = _ := hq
          exact if_pos hcaller
        · rw [asked_of_ne hne]
          exact ih hfilter
      · rw [(monitor call).mode_other hcaller] at h
        obtain ⟨j, e, q, a⟩ := ran
        by_cases hpoll : ∃ ns taskQueue workerId types secs,
            q = .stmt (.pollWorkflow ns taskQueue workerId types secs)
        · obtain ⟨ns, taskQueue, workerId, types, secs, rfl⟩ := hpoll
          exact (if_neg hcaller).trans (ih h)
        · rw [asked_of_ne fun ns taskQueue workerId types secs heq =>
            hpoll ⟨ns, taskQueue, workerId, types, secs, heq⟩]
          exact ih h

theorem inserted_of_debt {runId : Uuid} (h : ((monitor call).mode i trace).mode.debt = some runId) :
    ∃ later ran earlier, trace = later ++ ran :: earlier ∧
      ran.caller = i ∧ inserted ran = some runId ∧
      ∀ ran' ∈ later, ran'.caller = i → ¬ MovesOn ran'.query := by
  induction trace with
  | nil => cases h
  | cons ran trace ih =>
      by_cases hcaller : ran.caller = i
      · rw [(monitor call).mode_own hcaller] at h
        rcases next_debt (i := ran.caller) (e := ran.env) h with hinserted | ⟨hmoves, hdebt⟩
        · exact ⟨[], ran, trace, rfl, hcaller, hinserted, fun _ h => nomatch h⟩
        · obtain ⟨later, ran', earlier, rfl, hcaller', hinserted, hlater⟩ := ih hdebt
          refine ⟨ran :: later, ran', earlier, rfl, hcaller', hinserted, fun ran'' hran'' => ?_⟩
          rcases List.mem_cons.mp hran'' with rfl | hran''
          · exact fun _ => hmoves
          · exact hlater ran'' hran''
      · rw [(monitor call).mode_other hcaller] at h
        obtain ⟨later, ran', earlier, rfl, hcaller', hinserted, hlater⟩ := ih h
        refine ⟨ran :: later, ran', earlier, rfl, hcaller', hinserted, fun ran'' hran'' => ?_⟩
        rcases List.mem_cons.mp hran'' with rfl | hran''
        · exact fun heq => absurd heq hcaller
        · exact hlater ran'' hran''

end Traces

theorem calls_of_awaited {p : Server} {i rx : Nat} (h : awaited p i = some rx) :
    ∃ req waits k, p.calls[i]? = some (.rpc (.pollTask req waits), .call (.wait rx) k) := by
  unfold awaited at h
  split at h
  next req waits rx' k hget =>
    obtain rfl := Option.some.inj h
    exact ⟨req, waits, k, hget⟩
  next => cases h

/-- In an undisturbed run of the server, a poll that is blocked misses no run but those whose
creation is under way. -/
theorem no_lost_wake_up (cfg : Config) (capacity : Nat) (w : World) (p : Server)
    (h : Steps ((service cfg capacity).restrict (Calm (asksOf p))) (.init ⟨w, .empty⟩ []) p) :
    NoLostWakeUp p := by
  have hasks : ∀ i call c, p.calls[i]? = some (call, c) → asksOf p i = call := by
    intro i call c hget
    simp [asksOf, hget]
  obtain ⟨-, hcovered⟩ := covered_of_steps h hasks
  rintro i f ⟨hasked, rx, hawaited, hempty⟩ runId hclaim
  obtain ⟨req, waits, k, hget⟩ := calls_of_awaited hawaited
  -- the poll listens for what it has asked for
  have hallowed : allowed (standing (asksOf p) p.trace i) (.wait rx) := by
    unfold standing
    rw [hasks i _ _ hget]
    exact (obeys_of_steps h hget).1
  have hlistens : ∃ f', (standing (asksOf p) p.trace i).mode = .listening f' rx := by
    revert hallowed
    unfold allowed
    cases (standing (asksOf p) p.trace i).mode with
    | listening f' rx' =>
        rintro (⟨id, heq⟩ | heq)
        · cases heq
        · exact ⟨f', by rw [Op.wait.inj heq]⟩
    | idle => exact False.elim
    | owes _ _ => rintro ⟨_, _, heq, -⟩; cases heq
    | _ => exact fun heq => by cases heq
  obtain ⟨f', hmode⟩ := hlistens
  have hfilter : (standing (asksOf p) p.trace i).mode.filter = some f' := by rw [hmode]; rfl
  obtain rfl : f' = f := Option.some.inj ((asked_of_filter hfilter).symm.trans hasked)
  rcases hcovered i f' runId hfilter hclaim with hunread | ⟨i', hcoming⟩
  · -- a message would be there to read
    rw [hmode] at hunread
    obtain ⟨r, hr, hid, hlt⟩ := hunread
    exact absurd ⟨r, hr, hid, .inl hlt⟩ hempty
  · have hdebt : (standing (asksOf p) p.trace i').mode.debt = some runId := by
      revert hcoming
      cases (standing (asksOf p) p.trace i').mode with
      | owes id _ => exact fun hid => congrArg some hid
      | told id _ => exact fun hid => congrArg some hid
      | found id _ => exact fun hid => congrArg some hid.1
      | _ => exact False.elim
    obtain ⟨later, ran, earlier, htrace, rfl, hinserted, hlater⟩ := inserted_of_debt hdebt
    refine ⟨later, ran, earlier, htrace, hinserted, ?_, hlater⟩
    have hlt : ran.caller < p.calls.length :=
      h.numbered (fun _ hran => nomatch hran) ran (by simp [htrace])
    obtain ⟨⟨call, c⟩, hget'⟩ : ∃ x, p.calls[ran.caller]? = some x :=
      ⟨_, List.getElem?_eq_getElem hlt⟩
    have hobeys := obeys_of_steps h hget'
    unfold standing at hdebt
    rw [hasks _ _ _ hget'] at hdebt
    -- a call that is done owes nothing
    cases c with
    | call q k' => exact ⟨call, q, k', hget'⟩
    | ret a =>
        rw [show ((monitor call).mode ran.caller p.trace).mode = .idle from hobeys] at hdebt
        cases hdebt
    | fail x =>
        rw [show ((monitor call).mode ran.caller p.trace).mode = .idle from hobeys] at hdebt
        cases hdebt

/-! ## A poll that is not disturbed -/

def quiet (secs : Int) (fresh : Uuid) : Supply := ⟨.quiet secs fresh, ⟨false, .tick⟩, false⟩

/-- The call number `i` makes `n` operations in the supply `e`. -/
def ops (i n : Nat) (e : Supply) : List (Action Supply Call) := List.replicate n (.exec i e)

def start (externalId taskQueue : String) : Action Supply Call :=
  .start (.rpc (.startWorkflow ⟨externalId, taskQueue, "type", none, "ns", "", none⟩))

/-- A worker registers for the queue and polls it.  It finds nothing. -/
def registerAndPoll : List (Action Supply Call) :=
  [.start (.rpc (.register ⟨"ns", "queue", ["type"], "host", 7, ""⟩))] ++ ops 1 1 (quiet 0 1) ++
    [.start (.rpc (.pollTask ⟨"queue", "1", "ns", ["type"]⟩ 1))] ++ ops 2 2 (quiet 0 2)

def polled : Filter := ⟨"ns", "queue", ["type"]⟩

/-- The poll subscribes and waits, and then a run is inserted. -/
def meanwhile : List (Action Supply Call) :=
  [start "job" "queue"] ++ ops 0 4 (quiet 0 0) ++ registerAndPoll ++ ops 2 3 (quiet 0 3) ++
    ops 0 1 (quiet 0 4)

/-- The operations of `meanwhile`. -/
def early (i : Nat) : Op → Bool
  | .stmt (.createWorkflow _) => i == 0
  | .stmt (.extendVisibility _ _) => false
  | .queue .retain => false
  | _ => true

/-- There are no runs yet. -/
def Early : Condition Op Op.Result State Supply := fun i _ q m =>
  m.store.world.db.runs.rows.isEmpty = true ∧ early i q = true

instance (i : Nat) (e : Supply) (q : Op) (m : Now) : Decidable (Early i e q m) :=
  inferInstanceAs (Decidable (_ ∧ _))

/-- No run, no disturbance. -/
theorem calm_of_early {asks : Nat → Call} (hasks : starts (asks 0) = true) {i : Nat} {e : Supply}
    {q : Op} {m : Now} (h : Early i e q m) : Calm asks i e q m := by
  obtain ⟨hrows, hearly⟩ := h
  have hempty : ∀ r, r ∉ m.store.world.db.runs.rows := by
    rw [List.isEmpty_iff.mp hrows]
    exact fun _ h => nomatch h
  have hnone : ∀ runId r, m.store.world.run runId ≠ some r := fun _ _ hr =>
    hempty _ (Db.mem_of_run hr)
  refine ⟨?_, ?_, ?_, ?_, ?_, ?_, ?_, ?_, ?_⟩
  · intro _ _ r _ _ hr
    exact absurd hr (hempty r)
  · rintro params f rfl hstarts
    obtain rfl : i = 0 := by simpa [early] using hearly
    rw [hasks] at hstarts
    cases hstarts
  · intro _ _ _ _ _ hr
    exact absurd hr (hnone _ _)
  · intro _ _ _ _ _ _ _ _ hr
    exact absurd hr (hnone _ _)
  · rintro _ _ _ rfl
    cases hearly
  · intro _ _ _ _ _ _ _ _ hclaim
    obtain ⟨r, hr, -⟩ := hclaim
    exact absurd hr (hnone _ _)
  · intro _ _ _ _ _ r _ hr
    exact absurd hr (hempty r)
  · rintro _ _ _ _ _ _ _ ⟨r, hr, -⟩
    exact hnone _ _ hr
  · rintro _ _ _ rfl
    cases hearly

/-- A poll is blocked, and the run that it could claim is still to be announced. -/
theorem no_lost_wake_up_meanwhile :
    Blocked (fireAll (service .sample 16) (.init ⟨.empty 0, .empty⟩ []) meanwhile) 2 polled ∧
      Claimable (fireAll (service .sample 16) (.init ⟨.empty 0, .empty⟩ []) meanwhile).store.world
          polled 0 ∧
        NoLostWakeUp (fireAll (service .sample 16) (.init ⟨.empty 0, .empty⟩ []) meanwhile) := by
  have hsteps : Steps ((service .sample 16).restrict Early) (.init ⟨.empty 0, .empty⟩ [])
      (fireAll ((service .sample 16).restrict Early) (.init ⟨.empty 0, .empty⟩ []) meanwhile) :=
    AllEnabled.steps (by decide +kernel)
  rw [fireAll_restrict] at hsteps
  have hclaim : ((fireAll (service .sample 16) (.init ⟨.empty 0, .empty⟩ [])
      meanwhile).store.world.run 0).any
      (fun r => decide (polled.Matches
        (fireAll (service .sample 16) (.init ⟨.empty 0, .empty⟩ []) meanwhile).store.world.now r)) =
          true := by
    decide +kernel
  refine ⟨⟨by decide +kernel, 2, by decide +kernel, by decide +kernel⟩, ?_, ?_⟩
  · obtain ⟨r, hr, hmatches⟩ := (Option.any_eq_true _ _).mp hclaim
    exact ⟨r, hr, of_decide_eq_true hmatches⟩
  · exact no_lost_wake_up .sample 16 (.empty 0) _ (hsteps.restrict_mono fun i e q m =>
      calm_of_early (by decide +kernel))

/-! ## A wake-up that is lost -/

/-- The poll subscribes after the run that it could claim has been announced. -/
def tooLate : List (Action Supply Call) :=
  [start "other" "others"] ++ ops 0 6 (quiet 0 0) ++ registerAndPoll ++
    [start "job" "queue"] ++ ops 3 5 (quiet 0 3) ++ ops 2 3 (quiet 0 4)

def overslept : Server := fireAll (service .sample 16) (.init ⟨.empty 0, .empty⟩ []) tooLate

theorem wake_up_is_lost : ¬ ∀ (cfg : Config) (capacity : Nat) (w : World) (p : Server),
    Steps (service cfg capacity) (.init ⟨w, .empty⟩ []) p → NoLostWakeUp p := by
  intro hnone
  have hsteps : Steps (service .sample 16) (.init ⟨.empty 0, .empty⟩ []) overslept :=
    AllEnabled.steps (by decide +kernel)
  have hblocked : Blocked overslept 2 polled :=
    ⟨by decide +kernel, 2, by decide +kernel, by decide +kernel⟩
  have hclaim : (overslept.store.world.run 3).any
      (fun r => decide (polled.Matches overslept.store.world.now r)) = true := by decide +kernel
  obtain ⟨r, hr, hmatches⟩ := (Option.any_eq_true _ _).mp hclaim
  obtain ⟨later, ran, earlier, htrace, hinserted, ⟨call, q, k, hget⟩, -⟩ :=
    hnone _ _ _ _ hsteps 2 polled hblocked 3 ⟨r, hr, of_decide_eq_true hmatches⟩
  -- the run is that of the last call, which has returned
  have hcaller : ∀ ran ∈ overslept.trace, inserted ran = some 3 → ran.caller = 3 := by
    decide +kernel
  have hreturned : (overslept.returned 3).isSome = true := by decide +kernel
  obtain ⟨⟨call', resp⟩, hresp⟩ := Option.isSome_iff_exists.mp hreturned
  have hdone := Pool.calls_of_returned hresp
  rw [hcaller ran (by simp [htrace]) hinserted, hdone] at hget
  cases hget

end WakeUp

end Kagzi
