import Kagzi.Routing
import Kagzi.WakeUp.Modes

/-!
# Runs that are announced

What may not happen while a poll waits (`Undisturbed`), and what then holds in every state:
whatever run a waiting poll could claim, a message is there for it, or some call is on its
way to send one (`Covered`).  `Sorted` says where the receivers of the polls are.  Each is
preserved by a step of a call in its mode (`Move`).
-/

namespace Kagzi

open Atomic Broadcast Notified

namespace WakeUp

/-! ## Runs for a poll -/

/-- The poll takes runs of the route. -/
def Filter.Takes (f : Filter) (route : Route) : Prop :=
  route.ns = f.ns ∧ route.taskQueue = f.taskQueue ∧ (f.types = [] ∨ route.workflowType ∈ f.types)

/-- The poll can claim the run, at a time. -/
def Filter.Matches (f : Filter) (now : Int) (r : RunRow) : Prop :=
  f.Takes r.route ∧ r.status.isClaimable = true ∧ r.due now = true

instance (f : Filter) (now : Int) (r : RunRow) : Decidable (f.Matches now r) :=
  inferInstanceAs (Decidable ((_ ∧ _ ∧ (_ ∨ _)) ∧ _ ∧ _))

/-- The run is there for the poll. -/
def Claimable (w : World) (f : Filter) (runId : Uuid) : Prop :=
  ∃ r, w.run runId = some r ∧ f.Matches w.now r

/-! ## The condition -/

/-- What the waiting poll of a mode has asked for. -/
def Mode.filter : Mode → Option Filter
  | .unsubscribed f => some f
  | .holding f _ => some f
  | .listening f _ => some f
  | _ => none

/-- The poll has no receiver yet. -/
def Mode.unheard : Mode → Option Filter
  | .unsubscribed f => some f
  | .holding f _ => some f
  | _ => none

/-- Some poll with the filter waits. -/
def Waits (modes : Nat → Standing) (f : Filter) : Prop := ∃ j, (modes j).mode.filter = some f

/-- What a step does not do while a poll waits. -/
structure Undisturbed (modes : Nat → Standing) (starts : Bool) (i : Nat) (e : Supply) (q : Op)
    (s : State) : Prop where
  /-- No run becomes due. -/
  clock : ∀ stmt f r, q = .stmt stmt → Waits modes f → r ∈ s.world.db.runs.rows →
    f.Matches e.env.now r → f.Matches s.world.now r
  /-- No other call than `start_workflow` creates a run that the poll takes. -/
  created : ∀ params f, q = .stmt (.createWorkflow params) → starts = false → Waits modes f →
    ¬ f.Takes params.route
  /-- No template whose payload is gone is fired. -/
  payload : ∀ runId fireAt t f, q = .stmt (.createScheduleInstance runId fireAt) →
    s.world.run runId = some t → Waits modes f → f.Takes t.route → s.world.db.HasPayload runId
  /-- No run is put off to a time that has come already. -/
  delay : ∀ stmt runId t r f, q = .stmt stmt → stmt.putsOff e.env = some (runId, t) →
    t ≤ e.env.now → s.world.run runId = some r → r.status = .running → Waits modes f →
      ¬ f.Takes r.route
  /-- No lease is shortened. -/
  extended : ∀ workerId secs f, q = .stmt (.extendVisibility workerId secs) → Waits modes f → 0 ≤ secs
  /-- The notification for a run that the poll can claim does not fail. -/
  notified : ∀ ns taskQueue runId source f, q = .stmt (.notify ns taskQueue) →
    (modes i).mode = .owes runId source → Waits modes f → Claimable s.world f runId →
      e.env.fault = false
  /-- A poll is not kept from all runs that it could claim by the locks of others. -/
  unlocked : ∀ ns taskQueue workerId types secs r,
    q = .stmt (.pollWorkflow ns taskQueue workerId types secs) → r ∈ s.world.db.runs.rows →
      Filter.Matches ⟨ns, taskQueue, types⟩ e.env.now r →
        ∃ r' ∈ s.world.db.runs.rows, r'.available ns taskQueue types e.env = true
  /-- The channel for a run that the poll can claim is not looked up before the poll has its
  receiver. -/
  subscribed : ∀ key runId j f, q = .queue (.get key) → (modes i).mode = .told runId key →
    (modes j).mode.unheard = some f → ¬ Claimable s.world f runId
  /-- The cleanup does not remove the channel of a poll that has a sender and no receiver. -/
  cleanup : ∀ j f tx, q = .queue .retain → (modes j).mode = .holding f tx →
    s.queue.registry.hasReceivers tx.chan = true

/-! ## Runs that a poll can claim -/

section Runs
variable {f : Filter} {e : Env} {q : Stmt} {w : World} {r r' : RunRow}

theorem available_iff : r.available f.ns f.taskQueue f.types e = true ↔
    f.Matches e.now r ∧ r.runId ∉ e.locked := by
  simp only [RunRow.available, Filter.Matches, Filter.Takes, RunRow.route, Bool.and_eq_true,
    Bool.or_eq_true, decide_eq_true_eq, List.isEmpty_iff, Bool.not_eq_true',
    List.contains_eq_mem, decide_eq_false_iff_not]
  tauto

/-- A poll that finds nothing finds nothing that is not locked. -/
theorem none_available {ns taskQueue workerId : String} {types : List String} {secs : Int}
    (h : (store.exec e (.pollWorkflow ns taskQueue workerId types secs) w).1 = .ok none) :
    ((store.exec e (.pollWorkflow ns taskQueue workerId types secs) w).2.db = w.db) ∧
      ∀ r ∈ w.db.runs.rows, r.available ns taskQueue types e ≠ true := by
  rw [store_exec_fst] at h
  rw [store_exec_db]
  have hsql := Stmt.exec_ok h
  rw [hsql] at h ⊢
  simp only [Stmt.sql, pollWorkflow] at h ⊢
  split at h
  next hnone =>
    refine ⟨rfl, fun r hr hav => ?_⟩
    have hmem : r ∈ w.db.runs.rows.filter (RunRow.available ns taskQueue types e) :=
      List.mem_filter.mpr ⟨hr, hav⟩
    cases hrows : w.db.runs.rows.filter (RunRow.available ns taskQueue types e) with
    | nil => rw [hrows] at hmem; cases hmem
    | cons x xs =>
        rw [hrows, earliest] at hnone
        split at hnone
        next => cases hnone
        next => split at hnone <;> cases hnone
  next =>
    split at h
    next => cases h
    next => split at h <;> cases h

/-- A run that was there already could be claimed before, when the step is undisturbed and
the poll waits. -/
theorem matches_before {modes : Nat → Standing} {starts : Bool} {i : Nat} {e : Supply} {s : State}
    {runId : Uuid} (hund : Undisturbed modes starts i e (.stmt q) s) (hwaits : Waits modes f)
    (htemplate : ∀ runId workflow, q = .updateWorkflow runId workflow →
      workflow.status.isScheduleTemplate = true)
    (hfire : ∀ runId next last, q = .updateNextFire runId next last →
      s.world.Keeps runId fun r => r.status.isClaimable = false)
    (hr : s.world.run runId = some r) (hr' : (store.exec e.env q s.world).2.run runId = some r')
    (h : f.Matches e.env.now r') : f.Matches s.world.now r := by
  have hc := q.exec_run e.env s.world.db runId
  rw [show s.world.db.run runId = some r from hr,
    show (q.exec e.env s.world.db).2.run runId = some r' from hr'] at hc
  have hroute : f.Takes r.route := Routing.route_of_change hc ▸ h.1
  have hid : r.runId = runId := Db.runId_of_run hr
  refine hund.clock q f r rfl hwaits (Db.mem_of_run hr) ⟨hroute, ?_⟩
  cases hc with
  | same => exact h.2
  | claimed hav =>
      obtain ⟨hmatches, -⟩ := (available_iff (f := ⟨_, _, _⟩)).mp hav
      exact hmatches.2
  | @extended workerId secs _ _ hrunning =>
      refine ⟨by rw [hrunning]; rfl, ?_⟩
      have hsecs := hund.extended workerId secs f rfl hwaits
      have hdue := h.2.2
      simp only [RunRow.due, RunRow.extend] at hdue ⊢
      cases hat : r.availableAt with
      | none => simp [hat] at hdue
      | some t =>
          simp only [hat, Option.map_some, decide_eq_true_eq] at hdue ⊢
          have := seconds_nonneg hsecs
          omega
  | cancelledRunning _ => cases h.2.1
  | cancelledWaiting _ => cases h.2.1
  | completed _ => cases h.2.1
  | failed _ => cases h.2.1
  | slept hrunning =>
      exact absurd hroute
        (hund.delay _ _ _ r f rfl rfl (of_decide_eq_true h.2.2) (hid ▸ hr) hrunning hwaits)
  | retried hrunning =>
      exact absurd hroute
        (hund.delay _ _ _ r f rfl rfl (of_decide_eq_true h.2.2) (hid ▸ hr) hrunning hwaits)
  | nextFired =>
      rcases hfire _ _ _ rfl with ⟨x, hx, hclaimable⟩ | ⟨hnone, -⟩
      · rw [hid, hr] at hx
        obtain rfl := Option.some.inj hx
        exact absurd h.2.1 (by rw [show (r.nextFire _ _).status = r.status from rfl, hclaimable]; decide)
      · rw [hid, hr] at hnone
        cases hnone
  | @overwritten workflow _ =>
      have hclaimable : workflow.status.isClaimable = true := h.2.1
      rw [WorkflowStatus.template_not_claimable (htemplate _ _ rfl)] at hclaimable
      cases hclaimable
  | orphaned _ _ => exact h.2

end Runs

/-! ## What waiting polls can rely on -/

/-- The receiver of a call, until it is dropped. -/
def Mode.receiver : Mode → Option Nat
  | .listening _ rx => some rx
  | .leaving rx => some rx
  | _ => none

/-- There is a message for the poll. -/
def Unread (s : State) : Mode → Prop
  | .listening _ rx => ∃ r ∈ s.queue.registry.receivers, r.id = rx ∧ 0 < r.unread
  | _ => False

/-- The poll has a receiver at the channel. -/
def Listens (s : State) (c : Channel String) : Mode → Prop
  | .listening _ rx => ∃ r ∈ s.queue.registry.receivers, r.id = rx ∧ r.chan = c
  | _ => False

/-- The call is on its way to send a message for the run to the waiting poll. -/
def Coming (s : State) (runId : Uuid) (waiting : Mode) : Mode → Prop
  | .owes id _ => id = runId
  | .told id _ => id = runId
  | .found id c => id = runId ∧ Listens s c waiting
  | _ => False

/-- For every run that a waiting poll can claim, a message is there or on its way. -/
def Covered (modes : Nat → Standing) (s : State) : Prop :=
  ∀ j f runId, (modes j).mode.filter = some f → Claimable s.world f runId →
    Unread s (modes j).mode ∨ ∃ i, Coming s runId (modes j).mode (modes i).mode

/-- The row is not that of a run that can be claimed, and has the queue of the template. -/
def Snapped (t : WorkflowRun) (r : RunRow) : Prop :=
  r.status.isClaimable = false ∧ r.ns = t.ns ∧ r.taskQueue = t.taskQueue

/-- The receivers and the channels of the polls, and what the calls know of their runs. -/
structure Sorted (modes : Nat → Standing) (s : State) : Prop where
  /-- A sender is the one that the map has. -/
  holding : ∀ j f tx, (modes j).mode = .holding f tx →
    tx.chan.key = f.key ∧ tx.chan ∈ s.queue.registry.map
  /-- A receiver is at the channel that the map has. -/
  listening : ∀ j f rx, (modes j).mode = .listening f rx →
    ∃ r ∈ s.queue.registry.receivers, r.id = rx ∧ r.chan.key = f.key ∧ r.chan ∈ s.queue.registry.map
  given : ∀ j rx, (modes j).mode.receiver = some rx → rx < s.queue.registry.fresh
  apart : ∀ j j' rx, (modes j).mode.receiver = some rx → (modes j').mode.receiver = some rx → j = j'
  batch : ∀ j, ∀ t ∈ (modes j).batch, s.world.Keeps t.runId (Snapped t)
  owes : ∀ j runId source, (modes j).mode = .owes runId source → s.world.Keeps runId fun r =>
    ∀ ns taskQueue, source.Names (modes j).batch ns taskQueue → r.ns = ns ∧ r.taskQueue = taskQueue
  told : ∀ j runId key, (modes j).mode = .told runId key →
    s.world.Keeps runId fun r => Queue.queueKey r.ns r.taskQueue = key

section Polls
variable {modes : Nat → Standing} {s s' : State} {i : Nat} {m m' : Mode} {runId : Uuid}

theorem unread_kept {s' : State} {m : Mode} (hstays : ∀ rx, m.receiver = some rx →
    s.queue.registry.Stays s'.queue.registry rx) (hm : Unread s m) : Unread s' m := by
  cases m with
  | listening f rx =>
      obtain ⟨r, hr, hid, hlt⟩ := hm
      obtain ⟨r', hr', hid', -, hle⟩ := (hstays rx rfl).receiver r hr hid
      exact ⟨r', hr', hid', Nat.lt_of_lt_of_le hlt hle⟩
  | _ => exact hm.elim

theorem coming_kept {s' : State} {m m' : Mode} {runId : Uuid} (hstays : ∀ rx, m.receiver = some rx →
    s.queue.registry.Stays s'.queue.registry rx) (hm : Coming s runId m m') : Coming s' runId m m' := by
  cases m' with
  | found id c =>
      refine ⟨hm.1, ?_⟩
      cases m with
      | listening f rx =>
          obtain ⟨r, hr, hid, hchan⟩ := hm.2
          obtain ⟨r', hr', hid', hchan', -⟩ := (hstays rx rfl).receiver r hr hid
          exact ⟨r', hr', hid', hchan'.trans hchan⟩
      | _ => exact hm.2.elim
  | owes _ _ => exact hm
  | told _ _ => exact hm
  | _ => exact hm.elim

/-- Who is on its way to a poll without a receiver is so whatever the poll does. -/
theorem coming_deaf {s' : State} {m m' m'' : Mode} {runId : Uuid} (hdeaf : m.receiver = none)
    (hm : Coming s runId m m') : Coming s' runId m'' m' := by
  cases m' with
  | found id c =>
      cases m with
      | listening f rx => cases hdeaf
      | _ => exact hm.2.elim
  | owes _ _ => exact hm
  | told _ _ => exact hm
  | _ => exact hm.elim

/-- What is there or on its way for a run that could be claimed before. -/
def Met (modes : Nat → Standing) (s : State) (j : Nat) (runId : Uuid) : Prop :=
  Unread s (modes j).mode ∨ ∃ i, Coming s runId (modes j).mode (modes i).mode

/-- The map has the channel of a listening poll under the key of a run that it takes. -/
theorem channel_of_told (h : Sorted modes s) {j : Nat} {f : Filter} {key : String}
    (htold : (modes i).mode = .told runId key) (hfilter : (modes j).mode.filter = some f)
    (hheard : (modes j).mode.unheard ≠ some f) (hclaim : Claimable s.world f runId) :
    ∃ c, s.queue.registry.get? key = some c ∧ Listens s c (modes j).mode := by
  cases hmode : (modes j).mode with
  | listening f' rx =>
      rw [hmode] at hfilter
      obtain rfl : f' = f := Option.some.inj hfilter
      obtain ⟨r, hr, hid, hkey, hmap⟩ := h.listening j f' rx hmode
      refine ⟨r.chan, ?_, r, hr, hid, rfl⟩
      obtain ⟨row, hrow, ⟨hns, hqueue, -⟩, -⟩ := hclaim
      rcases h.told i runId key htold with ⟨x, hx, rfl⟩ | ⟨hnone, -⟩
      · rw [hrow] at hx
        obtain rfl := Option.some.inj hx
        rw [show row.ns = f'.ns from hns, show row.taskQueue = f'.taskQueue from hqueue,
          show Queue.queueKey f'.ns f'.taskQueue = r.chan.key from hkey.symm]
        exact Registry.get?_key_iff.mpr hmap
      · rw [hrow] at hnone
        cases hnone
  | unsubscribed f' =>
      rw [hmode] at hfilter hheard
      exact absurd hfilter hheard
  | holding f' tx =>
      rw [hmode] at hfilter hheard
      exact absurd hfilter hheard
  | _ => rw [hmode] at hfilter; cases hfilter

end Polls

/-! ## Operations on the notifier -/

section Queue
variable (capacity : Nat) (e : Queue.Supply) {q : Queue.Op} {s : Queue.State} {rx : Nat}

/-- The operations on other receivers. -/
def Spares (rx : Nat) : Queue.Op → Prop
  | .recv id => id ≠ rx
  | .dropReceiver id => id ≠ rx
  | _ => True

theorem exec_stays (hq : Spares rx q) :
    s.registry.Stays (Queue.exec capacity e q s).2.registry rx := by
  cases q with
  | pgNotify payload =>
      rw [show (Queue.exec capacity e (.pgNotify payload) s).2.registry = s.registry from
        Queue.pgNotify_registry ..]
      exact s.registry.stays_refl rx
  | listen =>
      rw [show (Queue.exec capacity e .listen s).2.registry = s.registry from Queue.listen_registry ..]
      exact s.registry.stays_refl rx
  | select =>
      rw [show (Queue.exec capacity e .select s).2.registry = s.registry from Queue.select_registry ..]
      exact s.registry.stays_refl rx
  | entry key => exact s.registry.stays_getOrInsert rx key
  | get key => exact s.registry.stays_refl rx
  | retain => exact s.registry.stays_retain rx
  | subscribe chan => exact s.registry.stays_subscribe rx chan
  | dropSender id => exact s.registry.stays_dropClone rx id
  | send chan => exact s.registry.stays_send rx chan
  | recv id => exact s.registry.stays_recv rx capacity hq
  | dropReceiver id => exact s.registry.stays_dropReceiver rx hq

/-- Only the cleanup takes channels out of the map. -/
theorem exec_map (hq : q ≠ .retain) {c : Channel String} (hc : c ∈ s.registry.map) :
    c ∈ (Queue.exec capacity e q s).2.registry.map := by
  cases q with
  | retain => exact absurd rfl hq
  | pgNotify payload => exact Queue.pgNotify_registry e payload s ▸ hc
  | listen => exact Queue.listen_registry e s ▸ hc
  | select => exact Queue.select_registry e s ▸ hc
  | entry key => exact s.registry.map_getOrInsert hc
  | recv id =>
      show c ∈ (s.registry.recv capacity id).2.map
      unfold Registry.recv
      split <;> exact hc
  | _ => exact hc

theorem exec_fresh (i : Nat) : s.registry.fresh ≤ (Queue.exec capacity e q s).2.registry.fresh :=
  (Queue.Subscribers.exec_grows capacity i e q s).fresh

end Queue

/-! ## One step -/

/-- What a call does next in its mode, with the answer it gets and the standing it comes to. -/
inductive Move (starts : Bool) (d : Standing) : (q : Op) → q.Result → Standing → Prop where
  | plain {q : Stmt} {a : q.Result} :
      d.mode = .idle → Plain d q → Move starts d (.stmt q) a (nextStmt starts d q a)
  | aside {q : Queue.Op} {a : q.Result} :
      d.mode = .idle → Aside q → Move starts d (.queue q) a d
  | enter {f : Filter} {tx : Clone String} :
      d.mode = .unsubscribed f → Move starts d (.queue (.entry f.key)) tx { d with mode := .holding f tx }
  | subscribe {f : Filter} {tx : Clone String} {rx : Nat} :
      d.mode = .holding f tx →
      Move starts d (.queue (.subscribe tx.chan)) rx { d with mode := .listening f rx }
  | release {f : Filter} {rx id : Nat} {a : Unit} :
      d.mode = .listening f rx → Move starts d (.queue (.dropSender id)) a d
  | wait {f : Filter} {rx : Nat} {a : Option Received} :
      d.mode = .listening f rx → Move starts d (.wait rx) a { d with mode := .leaving rx }
  | leave {rx : Nat} {a : Unit} :
      d.mode = .leaving rx → Move starts d (.queue (.dropReceiver rx)) a { d with mode := .idle }
  | tell {runId : Uuid} {source : Source} {ns taskQueue : String} {a : Except StoreError Unit} :
      d.mode = .owes runId source → source.Names d.batch ns taskQueue → a = .ok () →
      Move starts d (.stmt (.notify ns taskQueue)) a
        { d with mode := .told runId (Queue.queueKey ns taskQueue) }
  | untold {runId : Uuid} {source : Source} {ns taskQueue : String} {a : Except StoreError Unit}
      {x : StoreError} :
      d.mode = .owes runId source → a = .error x →
      Move starts d (.stmt (.notify ns taskQueue)) a { d with mode := .idle }
  | look {runId : Uuid} {key : String} {a : Option (Channel String)} {c : Channel String} :
      d.mode = .told runId key → a = some c →
      Move starts d (.queue (.get key)) a { d with mode := .found runId c }
  | miss {runId : Uuid} {key : String} {a : Option (Channel String)} :
      d.mode = .told runId key → a = none →
      Move starts d (.queue (.get key)) a { d with mode := .idle }
  | wake {runId : Uuid} {c : Channel String} {a : Unit} :
      d.mode = .found runId c → Move starts d (.queue (.send c)) a { d with mode := .idle }

theorem move_of_allowed (starts : Bool) {d : Standing} {q : Op} (h : allowed d q) (a : q.Result) :
    Move starts d q a (next starts d q a) := by
  obtain ⟨waits, batch, mode⟩ := d
  cases mode with
  | idle =>
      cases q with
      | wait _ => exact h.elim
      | stmt q =>
          have heq : next starts ⟨waits, batch, .idle⟩ (.stmt q) a = nextStmt starts ⟨waits, batch, .idle⟩ q a := by
            cases q with
            | notify _ _ => cases a <;> rfl
            | _ => rfl
          rw [heq]
          exact .plain rfl h
      | queue q =>
          have heq : next starts ⟨waits, batch, .idle⟩ (.queue q) a = ⟨waits, batch, .idle⟩ := by
            cases q with
            | get _ => cases a <;> rfl
            | _ => rfl
          rw [heq]
          exact .aside rfl h
  | unsubscribed f =>
      obtain rfl : q = .queue (.entry f.key) := h
      exact .enter rfl
  | holding f tx =>
      obtain rfl : q = .queue (.subscribe tx.chan) := h
      exact .subscribe rfl
  | listening f rx =>
      obtain ⟨id, rfl⟩ | rfl : (∃ id, q = .queue (.dropSender id)) ∨ q = .wait rx := h
      · exact .release rfl
      · exact .wait rfl
  | leaving rx =>
      obtain rfl : q = .queue (.dropReceiver rx) := h
      exact .leave rfl
  | owes runId source =>
      obtain ⟨ns, taskQueue, rfl, hnames⟩ := h
      cases a with
      | ok _ => exact .tell rfl hnames rfl
      | error x => exact .untold rfl rfl
  | told runId key =>
      obtain rfl : q = .queue (.get key) := h
      cases a with
      | some c => exact .look rfl rfl
      | none => exact .miss rfl rfl
  | found runId c =>
      obtain rfl : q = .queue (.send c) := h
      exact .wake rfl

section Step
variable {capacity i : Nat} {modes : Nat → Standing} {starts : Bool} {e : Supply} {q : Op} {s : State}
variable {d : Standing}

theorem sent_registry (q : Stmt) (a : q.Result) (s : Queue.State) :
    (sent q a s).registry = s.registry := by
  unfold sent
  split <;> rfl

theorem stmt_registry (q : Stmt) :
    (exec capacity e (.stmt q) s).2.queue.registry = s.queue.registry :=
  sent_registry q _ s.queue

theorem queue_world (q : Queue.Op) : (exec capacity e (.queue q) s).2.world = s.world := rfl

theorem wait_world (rx : Nat) : (exec capacity e (.wait rx) s).2.world = s.world := by
  simp only [exec]
  split <;> rfl

/-- The receivers of the others stay. -/
theorem stays_of_move (h : Sorted modes s) (hmove : Move starts (modes i) q (exec capacity e q s).1 d)
    {j rx : Nat} (hj : j ≠ i) (hrx : (modes j).mode.receiver = some rx) :
    s.queue.registry.Stays (exec capacity e q s).2.queue.registry rx := by
  have hother : ∀ rx', (modes i).mode.receiver = some rx' → rx' ≠ rx := by
    rintro rx' hrx' rfl
    exact hj (h.apart j i _ hrx hrx')
  cases hmove with
  | plain _ _ => rw [stmt_registry]; exact s.queue.registry.stays_refl rx
  | tell _ _ _ => rw [stmt_registry]; exact s.queue.registry.stays_refl rx
  | untold _ _ => rw [stmt_registry]; exact s.queue.registry.stays_refl rx
  | @aside q _ _ haside =>
      refine exec_stays capacity e.queue ?_
      cases q with
      | recv _ => exact haside.elim
      | dropReceiver _ => exact haside.elim
      | _ => trivial
  | enter _ => exact exec_stays capacity e.queue trivial
  | subscribe _ => exact exec_stays capacity e.queue trivial
  | release _ => exact exec_stays capacity e.queue trivial
  | look _ _ => exact exec_stays capacity e.queue trivial
  | miss _ _ => exact exec_stays capacity e.queue trivial
  | wake _ => exact exec_stays capacity e.queue trivial
  | @wait f rx' _ hmode =>
      simp only [exec]
      split
      · exact s.queue.registry.stays_refl rx
      · exact exec_stays capacity e.queue (q := .recv rx') (hother rx' (by rw [hmode]; rfl))
  | @leave rx' _ hmode =>
      have hne := hother rx' (by rw [hmode]; rfl)
      exact exec_stays capacity e.queue (q := .dropReceiver rx') hne

/-- The cleanup apart, the map keeps its channels. -/
theorem map_of_ne (hq : q ≠ .queue .retain) {c : Channel String} (hc : c ∈ s.queue.registry.map) :
    c ∈ (exec capacity e q s).2.queue.registry.map := by
  cases q with
  | stmt q => rw [stmt_registry]; exact hc
  | queue q => exact exec_map capacity e.queue (fun heq => hq (congrArg Op.queue heq)) hc
  | wait rx =>
      simp only [exec]
      split
      · exact hc
      · exact exec_map capacity e.queue (q := .recv rx) nofun hc

/-- What is known of a row that no statement takes from it. -/
theorem keeps_of_move {P : RunRow → Prop} {runId : Uuid}
    (hP : ∀ e q old new, P old → RunChange e q (some old) (some new) →
      (∀ runId workflow, q = .updateWorkflow runId workflow →
        workflow.status.isScheduleTemplate = true) → P new)
    (hmove : Move starts (modes i) q (exec capacity e q s).1 d) (hrun : CanRun e q s)
    (h : s.world.Keeps runId P) : (exec capacity e q s).2.world.Keeps runId P := by
  have hstmt : ∀ stmt : Stmt, CanRun e (.stmt stmt) s → (∀ runId workflow,
      stmt = .updateWorkflow runId workflow → workflow.status.isScheduleTemplate = true) →
      (exec capacity e (.stmt stmt) s).2.world.Keeps runId P := fun stmt hrun htemplate =>
    h.exec (fun old new hold hc => hP e.env _ old new hold hc htemplate) hrun.2.1
  cases hmove with
  | @plain stmt _ _ hplain =>
      refine hstmt stmt hrun ?_
      rintro runId' workflow rfl
      exact hplain
  | tell _ _ _ => exact hstmt (.notify _ _) hrun fun _ _ heq => by cases heq
  | untold _ _ => exact hstmt (.notify _ _) hrun fun _ _ heq => by cases heq
  | wait _ => rw [wait_world]; exact h
  | _ => rw [queue_world]; exact h

/-- The queue of a run does not change. -/
theorem queue_kept {P : String → String → Prop} (e : Env) (q : Stmt) (old new : RunRow)
    (h : P old.ns old.taskQueue) (hc : RunChange e q (some old) (some new)) :
    P new.ns new.taskQueue := by
  have hroute := Routing.route_of_change hc
  rw [show new.ns = old.ns from congrArg Route.ns hroute,
    show new.taskQueue = old.taskQueue from congrArg Route.taskQueue hroute]
  exact h

/-- A row that cannot be claimed does not come to be one that can. -/
theorem snapped_kept {t : WorkflowRun} (e : Env) (q : Stmt) (old new : RunRow) (h : Snapped t old)
    (hc : RunChange e q (some old) (some new))
    (htemplate : ∀ runId workflow, q = .updateWorkflow runId workflow →
      workflow.status.isScheduleTemplate = true) : Snapped t new := by
  refine ⟨?_, queue_kept (P := fun ns taskQueue => ns = t.ns ∧ taskQueue = t.taskQueue) e q old new h.2 hc⟩
  have hstatus := h.1
  cases hc with
  | same => exact hstatus
  | claimed hav =>
      rw [((available_iff (f := ⟨_, _, _⟩)).mp hav).1.2.1] at hstatus
      cases hstatus
  | extended _ hs => rw [hs] at hstatus; cases hstatus
  | slept hs => rw [hs] at hstatus; cases hstatus
  | retried hs => rw [hs] at hstatus; cases hstatus
  | nextFired => exact hstatus
  | @overwritten workflow _ => exact WorkflowStatus.template_not_claimable (htemplate _ workflow rfl)
  | orphaned _ _ => exact hstatus
  | _ => rfl

end Step

/-- The standings after a step of the call number `i`. -/
def after (modes : Nat → Standing) (i : Nat) (d : Standing) (j : Nat) : Standing :=
  if j = i then d else modes j

theorem after_own (modes : Nat → Standing) (i : Nat) (d : Standing) : after modes i d i = d :=
  if_pos rfl

theorem after_other {modes : Nat → Standing} {i j : Nat} {d : Standing} (h : j ≠ i) :
    after modes i d j = modes j :=
  if_neg h

/-- What a plain statement makes of the mode. -/
inductive Outcome (starts : Bool) (batch : List WorkflowRun) : (q : Stmt) → q.Result → Mode → Prop where
  | idle {q : Stmt} {a : q.Result} : Outcome starts batch q a .idle
  | unsubscribed {ns taskQueue workerId : String} {types : List String} {secs : Int}
      {a : Except StoreError (Option ClaimedWorkflow)} :
      a = .ok none →
      Outcome starts batch (.pollWorkflow ns taskQueue workerId types secs) a
        (.unsubscribed ⟨ns, taskQueue, types⟩)
  | created {params : CreateWorkflow} {a : Except StoreError Uuid} {runId : Uuid} :
      a = .ok runId →
      Outcome starts batch (.createWorkflow params) a
        (.owes params.runId (.request params.ns params.taskQueue))
  | instantiated {templateRunId runId : Uuid} {fireAt : Int} {a : Except StoreError (Option Uuid)} :
      a = .ok (some runId) →
      Outcome starts batch (.createScheduleInstance templateRunId fireAt) a
        (.owes runId (.template templateRunId))

theorem outcome_of_plain (starts : Bool) (d : Standing) (q : Stmt) (a : q.Result) :
    Outcome starts d.batch q a (nextStmt starts d q a).mode := by
  obtain ⟨waits, batch, mode⟩ := d
  cases q with
  | pollWorkflow ns taskQueue workerId types secs =>
      rcases a with x | (_ | item)
      · exact .idle
      · cases waits with
        | zero => exact .idle
        | succ waits => exact .unsubscribed rfl
      · exact .idle
  | createWorkflow params =>
      cases a with
      | error x => exact .idle
      | ok runId =>
          cases starts with
          | false => exact .idle
          | true => exact .created rfl
  | createScheduleInstance templateRunId fireAt =>
      rcases a with x | (_ | runId)
      · exact .idle
      · exact .idle
      · exact .instantiated rfl
  | findDueSchedules now limit =>
      cases a with
      | error x => exact .idle
      | ok ts => exact .idle
  | _ => exact .idle

section Preservation
variable {capacity i : Nat} {modes : Nat → Standing} {starts : Bool} {e : Supply} {q : Op} {s : State}
variable {d : Standing} (h : Sorted modes s) (hund : Undisturbed modes starts i e q s)
variable (hmove : Move starts (modes i) q (exec capacity e q s).1 d) (hrun : CanRun e q s)

theorem fresh_le : s.queue.registry.fresh ≤ (exec capacity e q s).2.queue.registry.fresh := by
  cases q with
  | stmt q => rw [stmt_registry]
  | queue q => exact exec_fresh capacity e.queue 0
  | wait rx =>
      simp only [exec]
      split
      · exact Nat.le_refl _
      · exact exec_fresh capacity e.queue 0

include hmove

/-- A receiver of the call is the one it had, or a new one. -/
theorem receiver_after {rx : Nat} (hrx : d.mode.receiver = some rx) :
    (modes i).mode.receiver = some rx ∨ (rx = s.queue.registry.fresh ∧
      rx < (exec capacity e q s).2.queue.registry.fresh) := by
  cases hmove with
  | @plain stmt _ hidle _ =>
      have hout := outcome_of_plain starts (modes i) stmt (exec capacity e (.stmt stmt) s).1
      generalize (nextStmt starts (modes i) stmt _).mode = mode at hout hrx
      cases hout <;> cases hrx
  | aside _ _ => exact .inl hrx
  | release _ => exact .inl hrx
  | @wait f rx' _ hl =>
      obtain rfl := Option.some.inj hrx
      exact .inl (by rw [hl]; rfl)
  | @subscribe f tx _ _ =>
      obtain rfl := Option.some.inj hrx
      exact .inr ⟨rfl, Nat.lt_succ_self _⟩
  | _ => cases hrx

include h

theorem given_after (j rx : Nat) (hrx : (after modes i d j).mode.receiver = some rx) :
    rx < (exec capacity e q s).2.queue.registry.fresh := by
  by_cases hj : j = i
  · subst hj
    rw [after_own] at hrx
    rcases receiver_after hmove hrx with hold | ⟨-, hlt⟩
    · exact Nat.lt_of_lt_of_le (h.given j rx hold) fresh_le
    · exact hlt
  · rw [after_other hj] at hrx
    exact Nat.lt_of_lt_of_le (h.given j rx hrx) fresh_le

theorem apart_after (j j' rx : Nat) (hrx : (after modes i d j).mode.receiver = some rx)
    (hrx' : (after modes i d j').mode.receiver = some rx) : j = j' := by
  -- a receiver of the caller is no one else's
  have hown : ∀ j, j ≠ i → (modes j).mode.receiver = some rx → d.mode.receiver ≠ some rx := by
    intro j hj hother hown
    rcases receiver_after hmove hown with hold | ⟨hfresh, -⟩
    · exact hj (h.apart j i rx hother hold)
    · have := h.given j rx hother
      omega
  by_cases hj : j = i
  · by_cases hj' : j' = i
    · rw [hj, hj']
    · rw [hj, after_own] at hrx
      rw [after_other hj'] at hrx'
      exact absurd hrx (hown j' hj' hrx')
  · rw [after_other hj] at hrx
    by_cases hj' : j' = i
    · rw [hj', after_own] at hrx'
      exact absurd hrx' (hown j hj hrx)
    · rw [after_other hj'] at hrx'
      exact h.apart j j' rx hrx hrx'

include hrun

theorem batch_after (j : Nat) : ∀ t ∈ (after modes i d j).batch,
    (exec capacity e q s).2.world.Keeps t.runId (Snapped t) := by
  intro t ht
  have hkept : ∀ j, t ∈ (modes j).batch → (exec capacity e q s).2.world.Keeps t.runId (Snapped t) :=
    fun j ht => keeps_of_move snapped_kept hmove hrun (h.batch j t ht)
  by_cases hj : j = i
  · subst hj
    rw [after_own] at ht
    cases hmove with
    | @plain stmt _ _ _ =>
        -- only the read of a tick changes the batch
        by_cases hread : ∃ now limit ts, stmt = .findDueSchedules now limit ∧
            (store.exec e.env (.findDueSchedules now limit) s.world).1 = .ok ts ∧ t ∈ ts
        · obtain ⟨now, limit, ts, rfl, hok, hts⟩ := hread
          obtain ⟨hrow, hstatus, -, -⟩ := mem_findDueSchedules hok hts
          have hsnap : s.world.Keeps t.runId (Snapped t) :=
            .inl ⟨_, hrow, by rw [hstatus]; rfl, rfl, rfl⟩
          exact hsnap.exec (fun old new hold hc => snapped_kept e.env _ old new hold hc fun _ _ heq => by cases heq) hrun.2.1
        · refine hkept j ?_
          revert ht
          generalize hans : (exec capacity e (.stmt stmt) s).1 = a
          intro ht
          cases stmt with
          | findDueSchedules now limit =>
              cases a with
              | error x => exact ht
              | ok ts => exact absurd ⟨now, limit, ts, rfl, hans, ht⟩ hread
          | pollWorkflow _ _ _ _ _ =>
              rcases a with x | (_ | item)
              · exact ht
              · simp only [nextStmt] at ht
                split at ht <;> exact ht
              · exact ht
          | createWorkflow _ => cases a <;> exact ht
          | createScheduleInstance _ _ => rcases a with x | (_ | runId) <;> exact ht
          | _ => exact ht
    | _ => exact hkept j ht
  · rw [after_other hj] at ht
    exact hkept j ht

theorem owes_after (j : Nat) (runId : Uuid) (source : Source)
    (hmode : (after modes i d j).mode = .owes runId source) :
    (exec capacity e q s).2.world.Keeps runId fun r => ∀ ns taskQueue,
      source.Names (after modes i d j).batch ns taskQueue → r.ns = ns ∧ r.taskQueue = taskQueue := by
  by_cases hj : j = i
  · subst hj
    rw [after_own] at hmode ⊢
    cases hmove with
    | @plain stmt _ hidle hplain =>
        have hout := outcome_of_plain starts (modes j) stmt (exec capacity e (.stmt stmt) s).1
        rw [hmode] at hout
        generalize hans : (exec capacity e (.stmt stmt) s).1 = a at hout
        cases hout with
        | @created params _ id hok =>
            refine .inl ⟨_, created_of_createWorkflow (hans.trans hok), ?_⟩
            rintro ns taskQueue ⟨rfl, rfl⟩
            exact ⟨rfl, rfl⟩
        | @instantiated templateRunId _ fireAt _ hok =>
            obtain ⟨t, ht, hrow⟩ := instance_of_createScheduleInstance (hans.trans hok)
            refine .inl ⟨_, hrow, ?_⟩
            rintro ns taskQueue ⟨t', ht', rfl, rfl, rfl⟩
            subst hok
            rcases h.batch j t' ht' with ⟨x, hx, -, hns, hqueue⟩ | ⟨hnone, -⟩
            · rw [ht] at hx
              obtain rfl := Option.some.inj hx
              exact ⟨hns, hqueue⟩
            · rw [ht] at hnone
              cases hnone
    | aside hidle _ => rw [hidle] at hmode; cases hmode
    | release hl => rw [hl] at hmode; cases hmode
    | _ => cases hmode
  · rw [after_other hj] at hmode ⊢
    refine keeps_of_move (fun e q old new hold hc _ => ?_) hmove hrun (h.owes j runId source hmode)
    exact queue_kept (P := fun ns' taskQueue' => ∀ ns taskQueue, source.Names (modes j).batch ns taskQueue →
      ns' = ns ∧ taskQueue' = taskQueue) e q old new hold hc

theorem told_after (j : Nat) (runId : Uuid) (key : String)
    (hmode : (after modes i d j).mode = .told runId key) :
    (exec capacity e q s).2.world.Keeps runId fun r => Queue.queueKey r.ns r.taskQueue = key := by
  have hkept : s.world.Keeps runId (fun r => Queue.queueKey r.ns r.taskQueue = key) →
      (exec capacity e q s).2.world.Keeps runId fun r => Queue.queueKey r.ns r.taskQueue = key := by
    refine keeps_of_move (fun e q old new hold hc _ => ?_) hmove hrun
    exact queue_kept (P := fun ns taskQueue => Queue.queueKey ns taskQueue = key) e q old new hold hc
  refine hkept ?_
  by_cases hj : j = i
  · subst hj
    rw [after_own] at hmode
    cases hmove with
    | @plain stmt _ hidle hplain =>
        have hout := outcome_of_plain starts (modes j) stmt (exec capacity e (.stmt stmt) s).1
        rw [hmode] at hout
        cases hout
    | @tell _ source ns taskQueue _ howes hnames _ =>
        obtain ⟨rfl, rfl⟩ := Mode.told.inj hmode
        refine (h.owes j _ source howes).imp ?_ id
        rintro ⟨r, hr, hqueue⟩
        obtain ⟨hns, htaskQueue⟩ := hqueue ns taskQueue hnames
        exact ⟨r, hr, congrArg₂ Queue.queueKey hns htaskQueue⟩
    | aside hidle _ => rw [hidle] at hmode; cases hmode
    | release hl => rw [hl] at hmode; cases hmode
    | _ => cases hmode
  · rw [after_other hj] at hmode
    exact h.told j runId key hmode

omit hrun
include hund

theorem holding_after (j : Nat) (f : Filter) (tx : Clone String) (hmode : (after modes i d j).mode = .holding f tx) :
    tx.chan.key = f.key ∧ tx.chan ∈ (exec capacity e q s).2.queue.registry.map := by
  by_cases hj : j = i
  · subst hj
    rw [after_own] at hmode
    cases hmove with
    | @plain stmt _ hidle _ =>
        have hout := outcome_of_plain starts (modes j) stmt (exec capacity e (.stmt stmt) s).1
        rw [hmode] at hout
        cases hout
    | aside hidle _ => rw [hidle] at hmode; cases hmode
    | @enter f' _ hun =>
        obtain ⟨rfl, rfl⟩ := Mode.holding.inj hmode
        exact ⟨s.queue.registry.getOrInsert_key _, s.queue.registry.getOrInsert_mem _⟩
    | release hl => rw [hl] at hmode; cases hmode
    | _ => cases hmode
  · rw [after_other hj] at hmode
    obtain ⟨hkey, hmem⟩ := h.holding j f tx hmode
    refine ⟨hkey, ?_⟩
    by_cases hq : q = .queue .retain
    · subst hq
      exact List.mem_filter.mpr ⟨hmem, hund.cleanup j f tx rfl hmode⟩
    · exact map_of_ne hq hmem

theorem listening_after (j : Nat) (f : Filter) (rx : Nat) (hmode : (after modes i d j).mode = .listening f rx) :
    ∃ r ∈ (exec capacity e q s).2.queue.registry.receivers, r.id = rx ∧ r.chan.key = f.key ∧
      r.chan ∈ (exec capacity e q s).2.queue.registry.map := by
  by_cases hj : j = i
  · subst hj
    rw [after_own] at hmode
    cases hmove with
    | @plain stmt _ hidle _ =>
        have hout := outcome_of_plain starts (modes j) stmt (exec capacity e (.stmt stmt) s).1
        rw [hmode] at hout
        cases hout
    | aside hidle _ => rw [hidle] at hmode; cases hmode
    | @subscribe f' tx _ hholding =>
        obtain ⟨rfl, rfl⟩ := Mode.listening.inj hmode
        obtain ⟨hkey, hmem⟩ := h.holding j f' tx hholding
        exact ⟨_, List.mem_append_right _ (List.mem_singleton.mpr rfl), rfl, hkey, hmem⟩
    | release hl => exact h.listening j f rx hmode
    | _ => cases hmode
  · rw [after_other hj] at hmode
    obtain ⟨r, hr, hid, hkey, hmem⟩ := h.listening j f rx hmode
    have hstays := stays_of_move h hmove hj (by rw [hmode]; rfl)
    obtain ⟨r', hr', hid', hchan, -⟩ := hstays.receiver r hr hid
    exact ⟨r', hr', hid', by rw [hchan]; exact hkey, by rw [hchan]; exact hstays.map r hr hid hmem⟩

include hrun in
theorem sorted_after : Sorted (after modes i d) (exec capacity e q s).2 where
  holding := holding_after h hund hmove
  listening := listening_after h hund hmove
  given := given_after h hmove
  apart := apart_after h hmove
  batch := batch_after h hmove hrun
  owes := owes_after h hmove hrun
  told := told_after h hmove hrun

/-! ### Every run is announced -/

/-- The poll of another call has what it had, but for what the caller does with its run. -/
theorem met_other {j : Nat} {f : Filter} {runId : Uuid} (hj : j ≠ i)
    (hfilter : (modes j).mode.filter = some f) (hbefore : Claimable s.world f runId)
    (hmet : Met modes s j runId) : Met (after modes i d) (exec capacity e q s).2 j runId := by
  have hstays : ∀ rx, (modes j).mode.receiver = some rx →
      s.queue.registry.Stays (exec capacity e q s).2.queue.registry rx :=
    fun rx hrx => stays_of_move h hmove hj hrx
  unfold Met
  rw [after_other hj]
  rcases hmet with hunread | ⟨i', hcoming⟩
  · exact .inl (unread_kept hstays hunread)
  by_cases hi : i' = i
  · subst hi
    -- the caller is the one who is on its way
    cases hmove with
    | plain hidle _ => rw [hidle] at hcoming; exact hcoming.elim
    | aside hidle _ => rw [hidle] at hcoming; exact hcoming.elim
    | enter hun => rw [hun] at hcoming; exact hcoming.elim
    | subscribe hholding => rw [hholding] at hcoming; exact hcoming.elim
    | release hl => rw [hl] at hcoming; exact hcoming.elim
    | wait hl => rw [hl] at hcoming; exact hcoming.elim
    | leave hl => rw [hl] at hcoming; exact hcoming.elim
    | tell howes _ _ =>
        rw [howes] at hcoming
        exact .inr ⟨i', by rw [after_own]; exact hcoming⟩
    | @untold id source ns taskQueue _ x howes ha =>
        rw [howes] at hcoming
        obtain rfl : id = runId := hcoming
        have hfault := hund.notified ns taskQueue id source f rfl howes ⟨j, hfilter⟩ hbefore
        have hok : (store.exec e.env (.notify ns taskQueue) s.world).1 = .ok () := by
          rw [store_exec_fst, Stmt.exec_of_safe hfault]
          rfl
        rw [show (exec capacity e (.stmt (.notify ns taskQueue)) s).1 = .ok () from hok] at ha
        cases ha
    | @look id key _ c htold ha =>
        rw [htold] at hcoming
        obtain rfl : id = runId := hcoming
        have hheard := fun hun => hund.subscribed key id j f rfl htold hun hbefore
        obtain ⟨c', hget, hlistens⟩ := channel_of_told h htold hfilter hheard hbefore
        obtain rfl : c' = c := Option.some.inj (hget.symm.trans ha)
        exact .inr ⟨i', by rw [after_own]; exact ⟨rfl, hlistens⟩⟩
    | @miss id key _ htold ha =>
        rw [htold] at hcoming
        obtain rfl : id = runId := hcoming
        have hheard := fun hun => hund.subscribed key id j f rfl htold hun hbefore
        obtain ⟨c, hget, -⟩ := channel_of_told h htold hfilter hheard hbefore
        cases hget.symm.trans ha
    | @wake id c _ hfound =>
        rw [hfound] at hcoming
        obtain ⟨-, hlistens⟩ := hcoming
        cases hmode : (modes j).mode with
        | listening f' rx =>
            rw [hmode] at hlistens
            obtain ⟨r, hr, hid, rfl⟩ := hlistens
            exact .inl ⟨_, Registry.mem_send hr, hid, Nat.succ_pos _⟩
        | _ => rw [hmode] at hlistens; exact hlistens.elim
  · exact .inr ⟨i', by rw [after_other hi]; exact coming_kept hstays hcoming⟩

omit h in
/-- So is a poll of the caller itself that goes on waiting. -/
theorem met_own {f : Filter} {runId : Uuid} (hfilter : d.mode.filter = some f)
    (hclaim : Claimable (exec capacity e q s).2.world f runId)
    (hmet : ∀ f, (modes i).mode.filter = some f → Claimable s.world f runId → Met modes s i runId) :
    Met (after modes i d) (exec capacity e q s).2 i runId := by
  -- before it has a receiver, others are on their way
  have hdeaf : (modes i).mode.receiver = none → (∀ m, ¬ Coming s runId m (modes i).mode) →
      Met modes s i runId → Met (after modes i d) (exec capacity e q s).2 i runId := by
    rintro hdeaf hself (hunread | ⟨i', hcoming⟩)
    · cases hmode : (modes i).mode with
      | listening f' rx => rw [hmode] at hdeaf; cases hdeaf
      | _ => rw [hmode] at hunread; exact hunread.elim
    · have hi : i' ≠ i := fun heq => hself _ (heq ▸ hcoming)
      exact .inr ⟨i', by rw [after_other hi]; exact coming_deaf hdeaf hcoming⟩
  cases hmove with
  | @plain stmt _ _ _ =>
      have hout := outcome_of_plain starts (modes i) stmt (exec capacity e (.stmt stmt) s).1
      generalize (nextStmt starts (modes i) stmt _).mode = mode at hout hfilter
      generalize hans : (exec capacity e (.stmt stmt) s).1 = a at hout
      cases hout with
      | @unsubscribed ns taskQueue workerId types secs _ hnone =>
          obtain rfl := Option.some.inj hfilter
          obtain ⟨hdb, hfree⟩ := none_available (hans.trans hnone)
          obtain ⟨r, hr, hmatches⟩ := hclaim
          have hmem : r ∈ s.world.db.runs.rows := by
            have hr' := Db.mem_of_run hr
            rwa [show (exec capacity e (.stmt (.pollWorkflow ns taskQueue workerId types secs)) s).2.world.db =
              s.world.db from hdb] at hr'
          obtain ⟨r', hr', hav⟩ := hund.unlocked ns taskQueue workerId types secs r rfl hmem hmatches
          exact absurd hav (hfree r' hr')
      | _ => cases hfilter
  | aside hidle _ => rw [hidle] at hfilter; cases hfilter
  | @enter f' _ hun =>
      refine hdeaf (by rw [hun]; rfl) (fun _ hc => by rw [hun] at hc; exact hc) (hmet f' (by rw [hun]; rfl) ?_)
      obtain rfl := Option.some.inj hfilter
      exact hclaim
  | @subscribe f' tx _ hholding =>
      refine hdeaf (by rw [hholding]; rfl) (fun _ hc => by rw [hholding] at hc; exact hc)
        (hmet f' (by rw [hholding]; rfl) ?_)
      obtain rfl := Option.some.inj hfilter
      exact hclaim
  | @release f' rx id _ hl =>
      have hstays : ∀ rx, (modes i).mode.receiver = some rx → s.queue.registry.Stays
          (exec capacity e (.queue (.dropSender id)) s).2.queue.registry rx :=
        fun _ _ => exec_stays capacity e.queue trivial
      unfold Met
      rw [after_own]
      rcases hmet f hfilter hclaim with hunread | ⟨i', hcoming⟩
      · exact .inl (unread_kept hstays hunread)
      · by_cases hi : i' = i
        · rw [hi, hl] at hcoming
          exact hcoming.elim
        · exact .inr ⟨i', by rw [after_other hi]; exact coming_kept hstays hcoming⟩
  | _ => cases hfilter

omit h in
/-- A run that a step of a call creates for a waiting poll is one that the call owes. -/
theorem coming_of_created {j : Nat} {f : Filter} {runId : Uuid} {r : RunRow} {m : Mode}
    (hfilter : (modes j).mode.filter = some f) (hnone : s.world.run runId = none)
    (hsome : (exec capacity e q s).2.world.run runId = some r)
    (hmatches : f.Matches (exec capacity e q s).2.world.now r) :
    Coming (exec capacity e q s).2 runId m d.mode := by
  cases hmove with
  | @plain stmt _ _ _ =>
      change (stmt.exec e.env s.world.db).2.run runId = some r at hsome
      rcases Routing.creation_cases hnone hsome with ⟨params, rfl, rfl⟩ | ⟨t, fireAt, rfl, ht, rfl⟩
      · have hid : params.runId = runId := Db.runId_of_run hsome
        cases hans : ((Stmt.createWorkflow params).exec e.env s.world.db).1 with
        | error x =>
            rw [createWorkflow_error hans] at hsome
            rw [show s.world.db.run runId = none from hnone] at hsome
            cases hsome
        | ok id =>
            rw [show (exec capacity e (.stmt (.createWorkflow params)) s).1 = .ok id from hans]
            cases hstarts : starts with
            | false => exact absurd hmatches.1 (hund.created params f rfl hstarts ⟨j, hfilter⟩)
            | true => exact hid
      · have hid : e.env.fresh = runId := Db.runId_of_run hsome
        have hpayload := hund.payload t.runId fireAt t f rfl ht ⟨j, hfilter⟩ hmatches.1
        rcases createScheduleInstance_cases fireAt e.env ht hpayload with hdb | hans
        · rw [hdb] at hsome
          rw [show s.world.db.run runId = none from hnone] at hsome
          cases hsome
        · rw [show (exec capacity e (.stmt (.createScheduleInstance t.runId fireAt)) s).1 =
            .ok (some e.env.fresh) from hans]
          exact hid
  | tell _ _ _ =>
      rcases Routing.creation_cases hnone hsome with ⟨params, heq, -⟩ | ⟨t, fireAt, heq, -⟩ <;> cases heq
  | untold _ _ =>
      rcases Routing.creation_cases hnone hsome with ⟨params, heq, -⟩ | ⟨t, fireAt, heq, -⟩ <;> cases heq
  | wait _ => rw [wait_world, hnone] at hsome; cases hsome
  | _ => rw [queue_world, hnone] at hsome; cases hsome

/-- What the poll can claim and was there, it could claim before. -/
theorem claimable_before {f : Filter} {runId : Uuid} {r r' : RunRow} (hwaits : Waits modes f)
    (hr : s.world.run runId = some r) (hr' : (exec capacity e q s).2.world.run runId = some r')
    (hmatches : f.Matches (exec capacity e q s).2.world.now r') : f.Matches s.world.now r := by
  cases hmove with
  | @plain stmt _ _ hplain =>
      refine matches_before hund hwaits ?_ ?_ hr hr' hmatches
      · rintro _ _ rfl
        exact hplain
      · rintro _ _ _ rfl
        obtain ⟨t, ht, rfl⟩ := hplain
        exact (h.batch i t ht).imp (fun ⟨x, hx, hsnapped⟩ => ⟨x, hx, hsnapped.1⟩) id
  | tell _ _ _ =>
      exact matches_before hund hwaits (fun _ _ heq => by cases heq) (fun _ _ _ heq => by cases heq)
        hr hr' hmatches
  | untold _ _ =>
      exact matches_before hund hwaits (fun _ _ heq => by cases heq) (fun _ _ _ heq => by cases heq)
        hr hr' hmatches
  | wait _ =>
      rw [wait_world] at hr' hmatches
      obtain rfl := Option.some.inj (hr.symm.trans hr')
      exact hmatches
  | _ =>
      rw [queue_world] at hr' hmatches
      obtain rfl := Option.some.inj (hr.symm.trans hr')
      exact hmatches

theorem covered_after (hcovered : Covered modes s) :
    Covered (after modes i d) (exec capacity e q s).2 := by
  intro j f runId hfilter hclaim
  have hmet : ∀ f, (modes j).mode.filter = some f → Claimable s.world f runId → Met modes s j runId :=
    fun f hf hc => hcovered j f runId hf hc
  by_cases hj : j = i
  · subst hj
    rw [after_own] at hfilter
    exact met_own hund hmove hfilter hclaim hmet
  · rw [after_other hj] at hfilter
    obtain ⟨r', hr', hmatches⟩ := hclaim
    cases hr : s.world.run runId with
    | none =>
        refine .inr ⟨i, ?_⟩
        rw [after_own]
        exact coming_of_created hund hmove hfilter hr hr' hmatches
    | some r =>
        have hbefore : Claimable s.world f runId :=
          ⟨r, hr, claimable_before h hund hmove ⟨j, hfilter⟩ hr hr' hmatches⟩
        exact met_other h hund hmove hj hfilter hbefore (hmet f hfilter hbefore)

end Preservation

end WakeUp

end Kagzi
