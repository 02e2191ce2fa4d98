import Kagzi.Queue.Notifier

/-!
# Subscribers are not orphaned

A call of `subscribe` holds a clone of the sender from the time it has looked its key up
until it has its receiver.  In between the cleanup may remove the sender from the map, and
another call may put a new channel there.  The receiver then belongs to a channel that the
map does not have.  That channel is closed as soon as its last clone is dropped, and only
calls of `subscribe` hold clones.  So when no such call is in progress, every receiver
belongs to the sender under its key, or its channel is closed (`no_orphans`).
-/

namespace Kagzi

open Atomic Broadcast

namespace Queue

namespace Subscribers

/-! ## What is claimed -/

/-- No call of `subscribe` is in progress. -/
def NoneSubscribing (p : NotifierState) : Prop :=
  ∀ (i : Nat) (ns taskQueue : String) (c : Code Answer),
    p.calls[i]? = some (.subscribe ns taskQueue, c) → ∀ q k, c ≠ .call q k

/-- The call has obtained the receiver. -/
def Obtained (p : NotifierState) (i : Nat) (ns taskQueue : String) (r : Receiver String) : Prop :=
  p.returned i = some (.subscribe ns taskQueue, .receiver r.id)

/-- The receiver belongs to the sender under its key, and the next `notify` of the queue
reaches it. -/
def Reached (capacity : Nat) (s : State) (ns taskQueue : String) (r : Receiver String) : Prop :=
  s.registry.get? (queueKey ns taskQueue) = some r.chan ∧
    ∀ e e' e'' : Supply, e.fault = false →
      ((service capacity).alone [e, e', e''] s (notify ns taskQueue)).2 = .ret () ∧
        { r with unread := r.unread + 1 } ∈
          ((service capacity).alone [e, e', e''] s (notify ns taskQueue)).1.registry.receivers

/-- The channel of the receiver is closed, and reading from it returns at once. -/
def Over (s : State) (r : Receiver String) : Prop :=
  s.registry.Closed r.chan ∧ s.registry.Readable r.id

/-- Whenever no call of `subscribe` is in progress, every receiver was obtained by one, and
belongs to the sender under the key of that call or is over. -/
def NoOrphans (capacity : Nat) : Prop :=
  ∀ p : NotifierState, Steps (service capacity) (.init .empty []) p → NoneSubscribing p →
    ∀ r ∈ p.store.registry.receivers,
      (∃ i ns taskQueue, Obtained p i ns taskQueue r) ∧
        ∀ i ns taskQueue, Obtained p i ns taskQueue r →
          Reached capacity p.store ns taskQueue r ∨ Over p.store r

/-! ## One step -/

abbrev Now := Moment Op Op.Result State Supply

abbrev Ran := Event Op Op.Result Supply

/-- The clone that the step has made. -/
def cloned : Ran → Option Nat
  | ⟨_, _, .entry _, tx⟩ => some tx.id
  | _ => none

/-- The receiver that the step has made. -/
def attached : Ran → Option Nat
  | ⟨_, _, .subscribe _, rx⟩ => some rx
  | _ => none

/-- A step gives no id out again. -/
theorem exec_grows (capacity i : Nat) (e : Supply) (q : Op) (s : State) :
    s.registry.Grows (exec capacity e q s).2.registry
      (cloned ⟨i, e, q, (exec capacity e q s).1⟩) (attached ⟨i, e, q, (exec capacity e q s).1⟩) := by
  cases q with
  | pgNotify payload =>
      show s.registry.Grows (pgNotify e payload s).2.registry none none
      rw [pgNotify_registry]
      exact s.registry.grows_refl
  | listen =>
      show s.registry.Grows (listen e s).2.registry none none
      rw [listen_registry]
      exact s.registry.grows_refl
  | select =>
      show s.registry.Grows (select e s).2.registry none none
      rw [select_registry]
      exact s.registry.grows_refl
  | entry key => exact s.registry.grows_getOrInsert key
  | get key => exact s.registry.grows_refl
  | retain => exact s.registry.grows_retain
  | subscribe chan => exact s.registry.grows_subscribe chan
  | dropSender id => exact s.registry.grows_dropClone id
  | send chan => exact s.registry.grows_send chan
  | recv rx => exact s.registry.grows_recv capacity rx
  | dropReceiver rx => exact s.registry.grows_dropReceiver rx

/-- The clones and the receivers were made by steps, and their ids have been given out. -/
structure Accounted (m : Now) : Prop where
  clones : ∀ tx ∈ m.store.registry.clones,
    tx.id < m.store.registry.fresh ∧ ∃ ran ∈ m.trace, cloned ran = some tx.id
  receivers : ∀ r ∈ m.store.registry.receivers,
    r.id < m.store.registry.fresh ∧ ∃ ran ∈ m.trace, attached ran = some r.id

theorem accounted_kept (capacity : Nat) : Invariant (service capacity).toEngine Accounted := by
  intro i e q m hm _
  have hgrows := exec_grows capacity i e q m.store
  constructor
  · intro tx htx
    rcases hgrows.clones tx htx with hold | hnew
    · obtain ⟨hid, ran, hran, hcloned⟩ := hm.clones tx hold
      exact ⟨Nat.lt_of_lt_of_le hid hgrows.fresh, ran, List.mem_cons_of_mem _ hran, hcloned⟩
    · exact ⟨(hgrows.new_clone _ hnew).2, _, List.mem_cons_self .., hnew⟩
  · intro r hr
    rcases hgrows.receivers r hr with ⟨r', hold, hid', -⟩ | hnew
    · obtain ⟨hid, ran, hran, hattached⟩ := hm.receivers r' hold
      rw [hid'] at hid hattached
      exact ⟨Nat.lt_of_lt_of_le hid hgrows.fresh, ran, List.mem_cons_of_mem _ hran, hattached⟩
    · exact ⟨(hgrows.new_receiver _ hnew).2, _, List.mem_cons_self .., hnew⟩

/-! ## A call of `subscribe` -/

/-- Every step is allowed. -/
abbrev free : Condition Op Op.Result State Supply := fun _ _ _ _ => True

section Judgements
variable {capacity i : Nat} {key : String}

/-- The clones that the caller has made are those of `tx`, and its receivers those of `rx`. -/
structure Made (i : Nat) (tx rx : Option Nat) (trace : List Ran) : Prop where
  clones : ∀ ran ∈ trace, ran.caller = i → ∀ id, cloned ran = some id → tx = some id
  receivers : ∀ ran ∈ trace, ran.caller = i → ∀ id, attached ran = some id → rx = some id

theorem made_stable (tx rx : Option Nat) :
    Stable (service capacity).toEngine free i fun m => Made i tx rx m.trace := by
  intro j e q m hj hm _ _
  constructor
  · intro ran hran hcaller
    rcases List.mem_cons.mp hran with rfl | hran
    · exact absurd hcaller hj
    · exact hm.clones ran hran hcaller
  · intro ran hran hcaller
    rcases List.mem_cons.mp hran with rfl | hran
    · exact absurd hcaller hj
    · exact hm.receivers ran hran hcaller

/-- The id was given out, and no clone has it any more. -/
def Dropped (id : Nat) (s : State) : Prop :=
  id < s.registry.fresh ∧ ∀ tx ∈ s.registry.clones, tx.id ≠ id

theorem dropped_kept (id : Nat) :
    Invariant (service capacity).toEngine fun m => Dropped id m.store := by
  intro i e q m ⟨hid, hm⟩ _
  have hgrows := exec_grows capacity i e q m.store
  refine ⟨Nat.lt_of_lt_of_le hid hgrows.fresh, fun tx htx heq => ?_⟩
  rcases hgrows.clones tx htx with hold | hnew
  · exact hm tx hold heq
  · have := (hgrows.new_clone _ hnew).1
    omega

/-- The id was given out, and a receiver that has it is one of the key. -/
def Keyed (key : String) (id : Nat) (s : State) : Prop :=
  id < s.registry.fresh ∧ ∀ r ∈ s.registry.receivers, r.id = id → r.chan.key = key

theorem keyed_kept (key : String) (id : Nat) :
    Invariant (service capacity).toEngine fun m => Keyed key id m.store := by
  intro i e q m ⟨hid, hm⟩ _
  have hgrows := exec_grows capacity i e q m.store
  refine ⟨Nat.lt_of_lt_of_le hid hgrows.fresh, fun r hr heq => ?_⟩
  rcases hgrows.receivers r hr with ⟨r', hold, hid', hchan⟩ | hnew
  · rw [← hchan]
    exact hm r' hold (hid'.trans heq)
  · have := (hgrows.new_receiver _ hnew).1
    omega

theorem given_kept (id : Nat) :
    Invariant (service capacity).toEngine fun m => id < m.store.registry.fresh :=
  fun i e q m hid _ => Nat.lt_of_lt_of_le hid (exec_grows capacity i e q m.store).fresh

/-- What the caller has made with a step of its own. -/
theorem Made.cons {tx rx tx' rx' : Option Nat} {trace : List Ran} {ran : Ran}
    (h : Made i tx rx trace) (htx : ∀ id, tx = some id → tx' = some id)
    (hrx : ∀ id, rx = some id → rx' = some id) (hcloned : ∀ id, cloned ran = some id → tx' = some id)
    (hattached : ∀ id, attached ran = some id → rx' = some id) : Made i tx' rx' (ran :: trace) := by
  constructor
  · intro ran' hran hcaller id hid
    rcases List.mem_cons.mp hran with rfl | hran
    · exact hcloned id hid
    · exact htx id (h.clones ran' hran hcaller id hid)
  · intro ran' hran hcaller id hid
    rcases List.mem_cons.mp hran with rfl | hran
    · exact hattached id hid
    · exact hrx id (h.receivers ran' hran hcaller id hid)

/-- A call of `subscribe` that has returned: it has made one receiver, which is one of its
key, and its clone of the sender is gone. -/
def Settled (i : Nat) (key : String) (rx : Nat) (m : Now) : Prop :=
  ∃ id, Made i (some id) (some rx) m.trace ∧ Dropped id m.store ∧ Keyed key rx m.store

theorem sat_subscribe (ns taskQueue : String) :
    Sat (service capacity).toEngine free i
      (fun m => Made i none none m.trace ∧ Accounted m) (subscribe ns taskQueue)
      (fun rx => Settled i (queueKey ns taskQueue) rx) (fun _ _ => False) := by
  refine Sat.query_bind
    (L := fun tx m => (Made i (some tx.id) none m.trace ∧ Accounted m) ∧
      tx.id < m.store.registry.fresh ∧ tx.chan.key = queueKey ns taskQueue)
    (fun tx => ((made_stable _ _).and (accounted_kept capacity).restrict.stable).and
      ((given_kept _).restrict.stable.and stable_const))
    (fun e m hm ha => ⟨trivial, ⟨?_, accounted_kept capacity i e _ m hm.2 ha⟩, ?_, ?_⟩) fun tx => ?_
  · exact hm.1.cons (fun _ h => nomatch h) (fun _ h => h) (fun _ h => h) fun _ h => h
  · exact ((m.store.registry.grows_getOrInsert _).new_clone _ rfl).2
  · exact m.store.registry.getOrInsert_key _
  refine Sat.query_bind
    (L := fun rx m => Made i (some tx.id) (some rx) m.trace ∧ tx.id < m.store.registry.fresh ∧
      Keyed (queueKey ns taskQueue) rx m.store)
    (fun rx => (made_stable _ _).and ((given_kept _).restrict.stable.and
      (keyed_kept _ _).restrict.stable))
    (fun e m hm ha => ⟨trivial, ?_, given_kept _ i e _ m hm.2.1 ha, ?_⟩) fun rx => ?_
  · exact hm.1.1.cons (fun _ h => h) (fun _ h => nomatch h) (fun _ h => nomatch h) fun _ h => h
  · refine ⟨Nat.lt_succ_self _, fun r hr hid => ?_⟩
    rcases List.mem_append.mp hr with hr | hr
    · have := (hm.1.2.receivers r hr).1
      have hfresh : r.id = m.store.registry.fresh := hid
      omega
    · rw [List.mem_singleton.mp hr]
      exact hm.2.2
  refine Sat.query_bind (L := fun _ m => Settled i (queueKey ns taskQueue) rx m)
    (fun _ => ?_) (fun e m hm ha => ⟨trivial, tx.id, ?_, ?_, keyed_kept _ _ i e _ m hm.2.2 ha⟩)
    fun _ m hm => hm
  · rintro j e q m hj ⟨id, hmade, hdropped, hkeyed⟩ ha hΓ
    exact ⟨id, made_stable _ _ j e q m hj hmade ha hΓ, dropped_kept id j e q m hdropped ha,
      keyed_kept _ _ j e q m hkeyed ha⟩
  · exact hm.1.cons (fun _ h => h) (fun _ h => h) (fun _ h => nomatch h) fun _ h => nomatch h
  · refine ⟨hm.2.1, fun tx' htx' hid => ?_⟩
    have hne := (List.mem_filter.mp htx').2
    simp [hid] at hne

end Judgements

/-! ## The result -/

section Result
variable {capacity i : Nat} {p : NotifierState}

/-- Only calls of `subscribe` make clones and receivers. -/
def Makes (call : Call) (q : Op) : Prop :=
  match q with
  | .entry _ => ∃ ns taskQueue, call = .subscribe ns taskQueue
  | .subscribe _ => ∃ ns taskQueue, call = .subscribe ns taskQueue
  | _ => True

theorem orError_uses {allowed : Op → Prop} (r : Except QueueError Unit) : (orError r).Uses allowed :=
  Prog.uses_ofExcept r

theorem deliver_uses {allowed : Op → Prop} (key : String) (hget : allowed (.get key))
    (hsend : ∀ c, allowed (.send c)) : (deliver key).Uses allowed := by
  refine ⟨hget, fun found => ?_⟩
  cases found with
  | none => trivial
  | some tx => exact ⟨hsend tx, fun _ => trivial⟩

theorem listenLoop_uses {allowed : Op → Prop} (hselect : allowed .select) (hretain : allowed .retain)
    (hlisten : allowed .listen) (hget : ∀ key, allowed (.get key)) (hsend : ∀ c, allowed (.send c))
    (rounds : Nat) : (listenLoop rounds).Uses allowed := by
  induction rounds with
  | zero => trivial
  | succ rounds ih =>
      refine ⟨hselect, fun wake => ?_⟩
      cases wake with
      | shutdown => trivial
      | tick => exact ⟨hretain, fun _ => ih⟩
      | notification payload => exact (deliver_uses payload (hget _) hsend).bind fun _ => ih
      | error => exact ⟨hlisten, fun r => (orError_uses r).bind fun _ => ih⟩

/-- The operations of a call. -/
theorem handle_uses (call : Call) : (handle call).Uses (Makes call) := by
  cases call with
  | notify ns taskQueue =>
      refine Prog.Uses.bind ⟨trivial, fun r => (orError_uses r).bind fun _ => ?_⟩ fun _ => trivial
      exact deliver_uses _ trivial fun _ => trivial
  | subscribe ns taskQueue =>
      exact ⟨⟨ns, taskQueue, rfl⟩, fun _ => ⟨⟨ns, taskQueue, rfl⟩, fun _ => ⟨trivial, fun _ => trivial⟩⟩⟩
  | start rounds =>
      refine Prog.Uses.bind ⟨trivial, fun r => (orError_uses r).bind fun _ => ?_⟩ fun _ => trivial
      exact listenLoop_uses trivial trivial trivial (fun _ => trivial) (fun _ => trivial) rounds
  | cleanup => exact ⟨trivial, fun _ => trivial⟩
  | recv rx => exact ⟨trivial, fun _ => trivial⟩
  | dropReceiver rx => exact ⟨trivial, fun _ => trivial⟩
  | remote ns taskQueue => exact ⟨trivial, fun r => (orError_uses r).bind fun _ => trivial⟩

/-- What is known of a call that has returned. -/
def Returned (i : Nat) (call : Call) (answer : Answer) (m : Now) : Prop :=
  ∀ ns taskQueue, call = .subscribe ns taskQueue →
    ∃ rx, answer = .receiver rx ∧ Settled i (queueKey ns taskQueue) rx m

/-- A call of `subscribe` does not fail. -/
def Failed (_ : Nat) (call : Call) (_ : QueueError) (_ : Now) : Prop :=
  ∀ ns taskQueue, call ≠ .subscribe ns taskQueue

theorem serves (capacity : Nat) :
    Serves (service capacity) free Accounted Returned Failed := by
  intro i call _
  by_cases h : ∃ ns taskQueue, call = .subscribe ns taskQueue
  · obtain ⟨ns, taskQueue, rfl⟩ := h
    refine ⟨_, (made_stable none none).and (accounted_kept capacity).restrict.stable, ?_, ?_⟩
    · refine fun m hm hfresh => ⟨⟨?_, ?_⟩, hm⟩
      · exact fun ran hran hcaller => absurd hcaller (hfresh ran hran)
      · exact fun ran hran hcaller => absurd hcaller (hfresh ran hran)
    · refine Sat.bind ((sat_subscribe ns taskQueue).mono (fun _ h => h) (fun _ _ h => h)
        fun _ _ h => h.elim) fun rx m hm => ?_
      rintro ns' taskQueue' heq
      obtain ⟨rfl, rfl⟩ := Call.subscribe.inj heq
      exact ⟨rx, rfl, hm⟩
  · refine ⟨fun _ => True, stable_true, fun _ _ _ => trivial, ?_⟩
    refine (Sat.of_invariant (fun _ _ _ => trivial) fun _ _ _ _ _ _ => trivial).mono
      (fun _ h => h) ?_ ?_
    · exact fun _ _ _ ns taskQueue heq => absurd ⟨ns, taskQueue, heq⟩ h
    · exact fun _ _ _ ns taskQueue heq => h ⟨ns, taskQueue, heq⟩

/-- What is known of a run. -/
structure Known (capacity : Nat) (p : NotifierState) : Prop where
  accounted : Accounted p.toMoment
  sound : Sound (service capacity) free Returned Failed p
  asked : p.Asked Makes

theorem known_of_steps (h : Steps (service capacity) (.init .empty []) p) : Known capacity p := by
  have hempty : Accounted ⟨State.empty, []⟩ := by
    constructor
    · exact fun tx htx => nomatch htx
    · exact fun r hr => nomatch hr
  have hinv := accounted_kept capacity
  exact
    { accounted := h.invariant hinv hempty
      sound := (h.sound (serves capacity) hinv.restrict hempty (sound_nil _)).2
      asked := h.asked (fun call _ => handle_uses call) (fun _ _ _ hc => nomatch hc)
        fun ran hran => nomatch hran }

/-- The call that has made a clone or a receiver has settled, if none is in progress. -/
theorem Known.settled (h : Known capacity p) (hnone : NoneSubscribing p) {ran : Ran}
    (hran : ran ∈ p.trace) (hmade : (cloned ran).isSome = true ∨ (attached ran).isSome = true) :
    ∃ ns taskQueue rx, p.returned ran.caller = some (.subscribe ns taskQueue, .receiver rx) ∧
      Settled ran.caller (queueKey ns taskQueue) rx p.toMoment := by
  obtain ⟨call, c, hget, hmakes⟩ := h.asked ran hran
  have hcall : ∃ ns taskQueue, call = .subscribe ns taskQueue := by
    obtain ⟨caller, e, q, a⟩ := ran
    cases q with
    | entry _ => exact hmakes
    | subscribe _ => exact hmakes
    | _ => rcases hmade with hmade | hmade <;> cases hmade
  obtain ⟨ns, taskQueue, rfl⟩ := hcall
  cases c with
  | call q k => exact absurd rfl (hnone _ _ _ _ hget q k)
  | fail x => exact absurd rfl (h.sound.error hget ns taskQueue)
  | ret answer =>
      obtain ⟨rx, rfl, hsettled⟩ := h.sound.result hget ns taskQueue rfl
      exact ⟨ns, taskQueue, rx, by simp [Pool.returned, hget], hsettled⟩

/-- When no call of `subscribe` is in progress, no clone is left. -/
theorem Known.no_clones (h : Known capacity p) (hnone : NoneSubscribing p) :
    p.store.registry.clones = [] := by
  refine List.eq_nil_iff_forall_not_mem.mpr fun tx htx => ?_
  obtain ⟨-, ran, hran, hcloned⟩ := h.accounted.clones tx htx
  obtain ⟨_, _, _, _, id, hmade, hdropped, -⟩ := h.settled hnone hran (.inl (by simp [hcloned]))
  have hid : some id = some tx.id := hmade.clones ran hran rfl _ hcloned
  exact hdropped.2 tx htx (Option.some.inj hid).symm

/-- Its receivers were obtained by calls. -/
theorem Known.obtained (h : Known capacity p) (hnone : NoneSubscribing p) {r : Receiver String}
    (hr : r ∈ p.store.registry.receivers) : ∃ i ns taskQueue, Obtained p i ns taskQueue r := by
  obtain ⟨-, ran, hran, hattached⟩ := h.accounted.receivers r hr
  obtain ⟨ns, taskQueue, rx, hreturned, id, hmade, -, -⟩ :=
    h.settled hnone hran (.inr (by simp [hattached]))
  obtain rfl : rx = r.id := Option.some.inj (hmade.receivers ran hran rfl _ hattached)
  exact ⟨ran.caller, ns, taskQueue, hreturned⟩

/-- A receiver that a call has obtained is one of the key of the call. -/
theorem Known.key (h : Known capacity p) {ns taskQueue : String} {r : Receiver String}
    (hr : r ∈ p.store.registry.receivers) (hobtained : Obtained p i ns taskQueue r) :
    r.chan.key = queueKey ns taskQueue := by
  obtain ⟨rx, heq, -, -, -, hkeyed⟩ :=
    h.sound.result (Pool.calls_of_returned hobtained) ns taskQueue rfl
  obtain rfl : r.id = rx := Answer.receiver.inj heq
  exact hkeyed.2 r hr rfl

/-- A `notify` reaches the receivers of the sender under its key. -/
theorem reached_of_get {s : State} {ns taskQueue : String} {r : Receiver String}
    (hr : r ∈ s.registry.receivers)
    (hget : s.registry.get? (queueKey ns taskQueue) = some r.chan) :
    Reached capacity s ns taskQueue r := by
  refine ⟨hget, fun e e' e'' hfault => ?_⟩
  have hsent : pgNotify e (queueKey ns taskQueue) s =
      (.ok (), { s with wire := s.wire ++ [queueKey ns taskQueue] }) := by
    simp [pgNotify, hfault]
  have halone : (service capacity).alone [e, e', e''] s (notify ns taskQueue) =
      (⟨s.registry.send r.chan, s.wire ++ [queueKey ns taskQueue]⟩, .ret ()) := by
    simp [service, notify, deliver, op, Prog.query, hsent, orError, Prog.ofExcept, exec, hget,
      State.upon]
  rw [halone]
  exact ⟨rfl, Registry.mem_send hr⟩

/-- No subscriber is orphaned. -/
theorem no_orphans (capacity : Nat) : NoOrphans capacity := by
  intro p h hnone r hr
  have hknown := known_of_steps h
  refine ⟨hknown.obtained hnone hr, fun i ns taskQueue hobtained => ?_⟩
  have hkey := hknown.key hr hobtained
  rcases Registry.get?_key_or_closed (hknown.no_clones hnone) r.chan with hget | hclosed
  · exact .inl (reached_of_get hr (hkey ▸ hget))
  · exact .inr ⟨hclosed, r, hr, rfl, .inr hclosed⟩

end Result

/-- The cleanup removes the sender that a subscriber has looked up, and the next subscriber
puts another one there. -/
def replaced : NotifierState :=
  fireAll (service 16) (.init .empty [])
    [.start (.subscribe "ns" "queue"), .exec 0 .quiet, .start .cleanup, .exec 1 .quiet,
      .start (.subscribe "ns" "queue"), .exec 2 .quiet, .exec 2 .quiet, .exec 2 .quiet,
      .exec 0 .quiet, .exec 0 .quiet]

theorem no_orphans_replaced : replaced.store.registry.receivers.length = 2 ∧
    ∀ r ∈ replaced.store.registry.receivers,
      (∃ ns taskQueue, Reached 16 replaced.store ns taskQueue r) ∨ Over replaced.store r := by
  have h : Steps (service 16) (.init .empty []) replaced := AllEnabled.steps (by decide +kernel)
  have hidle : ∀ i < 3, (replaced.returned i).isSome = true := by decide +kernel
  have hnone : NoneSubscribing replaced := by
    rintro i ns taskQueue c hget q k rfl
    have hlt : i < 3 := by
      obtain ⟨hlt, -⟩ := List.getElem?_eq_some_iff.mp hget
      exact Nat.lt_of_lt_of_eq hlt (by decide +kernel)
    have hreturned := hidle i hlt
    rw [Pool.returned, hget] at hreturned
    cases hreturned
  refine ⟨by decide +kernel, fun r hr => ?_⟩
  obtain ⟨⟨i, ns, taskQueue, hobtained⟩, hreaches⟩ := no_orphans 16 replaced h hnone r hr
  exact (hreaches i ns taskQueue hobtained).imp_left fun hreached => ⟨ns, taskQueue, hreached⟩

end Subscribers

end Queue

end Kagzi
