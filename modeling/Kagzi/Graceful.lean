import Kagzi.Sdk.Runtime

/-!
# Workers leave in good order

A worker never runs more executions than it was built for, every execution it was handed
runs once, and it deregisters when the last of them has ended (`Conserved`, `Orderly`).
What a shutdown can lose is the answer of one poll.

From wherever a worker is it can be shut down without being handed anything more
(`can_always_drain`).
-/

namespace Kagzi

open Sdk

namespace Graceful

variable {V : Type} {host : Host V} {json : Json V} {backon : Backon} {s s' : Runtime V}

/-! ## What has happened -/

/-- The executions that the answers of the polls have handed out. -/
def handed (host : Host V) (json : Json V) (trace : List (Happened V)) : List (Execution V) :=
  trace.filterMap fun
    | .answered result => host.spawned json result
    | _ => none

/-- The executions that have ended. -/
def ended (trace : List (Happened V)) : List (Execution V) :=
  trace.filterMap fun
    | .finished run => some run
    | _ => none

def isPolled : Happened V → Bool
  | .polled _ => true
  | _ => false

def isAnswered : Happened V → Bool
  | .answered _ => true
  | _ => false

def isDropped : Happened V → Bool
  | .dropped => true
  | _ => false

/-! ## Nothing gets lost -/

/-- The permits, the executions and the polls, at one moment. -/
structure Conserved (host : Host V) (json : Json V) (s : Runtime V) : Prop where
  permits : s.availablePermits + s.held + s.active.length = host.maxConcurrent
  executions : (handed host json s.trace).Perm (s.active ++ ended s.trace)
  polls : s.trace.countP isPolled = s.trace.countP isAnswered + s.trace.countP isDropped + s.held
  drops : s.trace.countP isDropped ≤ 1
  undropped : s.main = .registering ∨ s.main.looping = true → s.trace.countP isDropped = 0

theorem conserved_init (host : Host V) (json : Json V) : Conserved host json (.init host) where
  permits := rfl
  executions := .nil
  polls := rfl
  drops := Nat.zero_le 1
  undropped := fun _ => rfl

theorem main_answer (host : Host V) (json : Json V) (backon : Backon) (s : Runtime V)
    (result : PollResult) :
    (s.answer host json backon result).main = .sleeping ∨
    (s.answer host json backon result).main = .acquiring :=
  ite_eq_or_eq ..

/-- The answer of a poll hands the permit on to the execution, or gives it back. -/
theorem Conserved.answer (h : Conserved host json s) (hs : s.main = .polling)
    (result : PollResult) :
    Conserved host json (s.answer host json backon result) := by
  have hdrops : s.trace.countP isDropped = 0 := h.undropped (.inr (by rw [hs]; rfl))
  have hheld : s.held = 1 := if_pos hs
  have hheld' : (s.answer host json backon result).held = 0 := by
    refine if_neg fun hmain => ?_
    rcases main_answer host json backon s result with h' | h' <;> rw [h'] at hmain <;> cases hmain
  have hpermits := h.permits
  have hpolls := h.polls
  have hdrops' : (s.answer host json backon result).trace.countP isDropped = 0 := by
    simpa [Runtime.answer, List.countP_cons, isDropped] using hdrops
  refine ⟨?_, ?_, ?_, hdrops' ▸ Nat.zero_le 1, fun _ => hdrops'⟩
  · rw [hheld']
    show (if (host.spawned json result).isSome then s.availablePermits else s.availablePermits +
      1) + 0 +
      (s.active ++ (host.spawned json result).toList).length = host.maxConcurrent
    cases host.spawned json result with
    | none =>
        simp only [Option.isSome_none, Bool.false_eq_true, if_false, Option.toList_none,
          List.append_nil]
        omega
    | some run =>
        simp only [Option.isSome_some, if_true, Option.toList_some, List.length_append,
          List.length_singleton]
        omega
  · show (handed host json (.answered result :: s.trace)).Perm
      ((s.active ++ (host.spawned json result).toList) ++ ended s.trace)
    cases hrun : host.spawned json result with
    | none => simpa [handed, hrun] using h.executions
    | some run =>
        simp only [handed, List.filterMap_cons, hrun, Option.toList_some, List.append_assoc]
        exact (h.executions.cons run).trans List.perm_middle.symm
  · rw [hheld', hdrops']
    simp only [Runtime.answer, List.countP_cons, isPolled, isAnswered]
    simp
    omega

/-- A step that leaves the permits, the executions and the polls as they were. -/
theorem Conserved.idle (h : Conserved host json s)
    (hpermits : s'.availablePermits = s.availablePermits) (hactive : s'.active = s.active)
    (hheld : s'.held = s.held)
    (hmain : s'.main = .registering ∨ s'.main.looping = true →
      s.main = .registering ∨ s.main.looping = true)
    (htrace : s'.trace = s.trace ∨ ∃ x, s'.trace = x :: s.trace ∧ isPolled x = false ∧
      isAnswered x = false ∧ isDropped x = false ∧ ∀ run, x ≠ .finished run) :
    Conserved host json s' := by
  obtain ⟨hp, he, hc, hd, hu⟩ := h
  rcases htrace with htrace | ⟨x, htrace, hx, hx', hx'', hrun⟩
  · refine ⟨by rw [hpermits, hactive, hheld, hp], ?_, ?_, ?_, fun hm => ?_⟩ <;> rw [htrace]
    · rwa [hactive]
    · rwa [hheld]
    · exact hd
    · exact hu (hmain hm)
  · have hhanded : handed host json (x :: s.trace) = handed host json s.trace := by
      cases x with
      | answered result => cases hx'
      | _ => rfl
    have hended : ended (x :: s.trace) = ended s.trace := by
      cases x with
      | finished run => exact absurd rfl (hrun run)
      | _ => rfl
    refine ⟨by rw [hpermits, hactive, hheld, hp], ?_, ?_, ?_, fun hm => ?_⟩ <;> rw [htrace]
    · rwa [hactive, hhanded, hended]
    · simpa [List.countP_cons, hx, hx', hx'', hheld] using hc
    · simpa [List.countP_cons, hx''] using hd
    · simpa [List.countP_cons, hx''] using hu (hmain hm)

theorem conserved_step (h : Conserved host json s) (hstep : Runtime.Step host json backon s s') :
    Conserved host json s' := by
  cases hstep with
  | registered workerId hs =>
      exact h.idle rfl rfl (by simp [Runtime.held, hs]) (fun _ => .inl hs)
        (.inr ⟨_, rfl, rfl, rfl, rfl, fun _ hx => by cases hx⟩)
  | refused hs => exact h.idle rfl rfl (by simp [Runtime.held, hs]) (fun _ => .inl hs) (.inl rfl)
  | @acquired n workerId hs hn hid =>
      have hheld : s.held = 0 := by simp [Runtime.held, hs]
      have hpermits := h.permits
      have hpolls := h.polls
      have hdrops := h.undropped (.inr (by rw [hs]; rfl))
      refine ⟨?_, h.executions, ?_, h.drops, fun _ => hdrops⟩
      · simp only [Runtime.held, if_true]
        omega
      · simp only [Runtime.held, if_true, List.countP_cons, isPolled, isAnswered, isDropped]
        simp
        omega
  | answered result hs => exact h.answer hs result
  | woken hs =>
      exact h.idle rfl rfl (by simp [Runtime.held, hs]) (fun _ => .inr (by rw [hs]; rfl)) (.inl rfl)
  | interrupted hs _ =>
      have hdrops := h.undropped (.inr hs)
      have hpermits := h.permits
      have hpolls := h.polls
      by_cases hmain : s.main = .polling
      · have hheld : s.held = 1 := if_pos hmain
        refine ⟨?_, ?_, ?_, ?_, fun hm => ?_⟩
        · simp only [Runtime.interrupt, Runtime.held, hmain, if_true]
          simp
          omega
        · simpa [Runtime.interrupt, hmain, handed, ended] using h.executions
        · simp only [Runtime.interrupt, Runtime.held, hmain, if_true, List.countP_cons, isPolled,
            isAnswered, isDropped]
          simp
          omega
        · simp [Runtime.interrupt, hmain, List.countP_cons, isDropped, hdrops]
        · rcases hm with hm | hm <;> cases hm
      · have hheld : s.held = 0 := if_neg hmain
        exact h.idle (by simp [Runtime.interrupt, hheld]) rfl
          (by simp [Runtime.interrupt, Runtime.held, hmain])
          (fun _ => .inr hs) (.inl (by simp [Runtime.interrupt, hmain]))
  | drained hs _ _ =>
      refine h.idle rfl rfl (by simp [Runtime.held, hs]) (fun hm => ?_)
        (.inr ⟨_, rfl, rfl, rfl, rfl, fun _ hx => by cases hx⟩)
      rcases hm with hm | hm <;> cases hm
  | left hs =>
      refine h.idle rfl rfl (by simp [Runtime.held, hs]) (fun hm => ?_) (.inl rfl)
      rcases hm with hm | hm <;> cases hm
  | @finished before after run hactive =>
      obtain ⟨hp, he, hc, hd, hu⟩ := h
      refine ⟨?_, ?_, ?_, ?_, fun hm => ?_⟩
      · rw [hactive] at hp
        simp only [List.length_append, List.length_cons, Runtime.held] at hp ⊢
        omega
      · rw [hactive] at he
        simp only [handed, ended, List.filterMap_cons] at he ⊢
        exact he.trans ((List.perm_middle.append_right _).trans List.perm_middle.symm)
      · simpa [List.countP_cons, isPolled, isAnswered, isDropped, Runtime.held] using hc
      · simpa [List.countP_cons, isDropped] using hd
      · simpa [List.countP_cons, isDropped] using hu hm
  | shutdown => exact h.idle rfl rfl rfl id (.inr ⟨_, rfl, rfl, rfl, rfl, fun _ hx => by cases hx⟩)
  | ticked _ _ =>
      exact h.idle rfl rfl rfl id (.inr ⟨_, rfl, rfl, rfl, rfl, fun _ hx => by cases hx⟩)
  | beaten result _ =>
      unfold Runtime.beaten
      split
      next => exact h.idle rfl rfl rfl id (.inr ⟨_, rfl, rfl, rfl, rfl, fun _ hx => by cases hx⟩)
      next => exact h.idle rfl rfl rfl id (.inl rfl)
  | silenced _ _ => exact h.idle rfl rfl rfl id (.inl rfl)

theorem Runs.conserved (h : Runtime.Steps host json backon (.init host) s) :
    Conserved host json s := by
  induction h with
  | refl => exact conserved_init host json
  | tail _ hstep ih => exact conserved_step ih hstep

/-- In every run of a worker the permits that are left, that of a poll and those of the
executions are the ones it was built with.  The executions that were handed out run or have
ended, each once.  Every poll was answered or is under way, but for at most one that a shutdown
has dropped. -/
theorem executions_are_conserved (host : Host V) (json : Json V) (backon : Backon) {s : Runtime V}
    (h : Runtime.Steps host json backon (.init host) s) :
    s.availablePermits + s.held + s.active.length = host.maxConcurrent ∧
      (handed host json s.trace).Perm (s.active ++ ended s.trace) ∧
      s.trace.countP isPolled = s.trace.countP isAnswered + s.trace.countP isDropped + s.held ∧
      s.trace.countP isDropped ≤ 1 :=
  have hs := Runs.conserved h
  ⟨hs.permits, hs.executions, hs.polls, hs.drops⟩

/-- A worker with one handler and room for two executions. -/
def pair : Host Bool :=
  ⟨2, { ns := "ns", taskQueue := "job", workerId := "", workflows := [("job", fun _ => .ok true)],
        defaultRetry := none, waits := 0, responseLost := fun _ => false, reportLost :=
          fun _ => false }⟩

def booleans : Json Bool := { Codec.bool with null := false, display := fun _ => "" }

/-- One delay. -/
def once : Backon := ⟨fun minDelay _ => [minDelay], fun _ _ => rfl⟩

/-- It is handed one execution and shut down during the next poll. -/
theorem interrupted_run : ∃ s, Runtime.Steps pair booleans once (.init pair) s ∧
    s.main = .draining ∧
    s.active.length = 1 ∧ s.trace.countP isDropped = 1 := by
  have hregistered := Relation.ReflTransGen.single
    (Runtime.Step.registered "w" rfl : Runtime.Step pair booleans once (.init pair) _)
  have hpolled := hregistered.tail (.acquired rfl rfl rfl)
  have hhanded := hpolled.tail (.answered (.ok (.pollTask "1" "job" [])) rfl)
  have hagain := hhanded.tail (.acquired rfl rfl rfl)
  have hdropped := (hagain.tail .shutdown).tail (.interrupted rfl rfl)
  exact ⟨_, hdropped, rfl, rfl, rfl⟩

theorem executions_are_conserved_interrupted :
    ∃ s, Runtime.Steps pair booleans once (.init pair) s ∧
    s.availablePermits + s.held = 1 ∧ s.trace.countP isDropped = 1 ∧
      s.trace.countP isPolled = s.trace.countP isAnswered + 1 := by
  obtain ⟨s, hs, hmain, hactive, hdropped⟩ := interrupted_run
  obtain ⟨hpermits, -, hpolls, -⟩ := executions_are_conserved pair booleans once hs
  have hheld : s.held = 0 := by simp [Runtime.held, hmain]
  have hmax : pair.maxConcurrent = 2 := rfl
  exact ⟨s, hs, by omega, hdropped, by omega⟩

/-! ## Leaving -/

/-- What came before a worker deregistered, and what can come after it. -/
def Parted (host : Host V) (json : Json V) (trace : List (Happened V)) : Prop :=
  ∀ later workerId earlier, trace = later ++ .deregistered workerId :: earlier →
    (handed host json earlier).Perm (ended earlier) ∧ (∃ cause, .cancelled cause ∈ earlier) ∧
      ∀ x ∈ later, ∃ cause, x = .cancelled cause

/-- The worker has not deregistered. -/
def Present (trace : List (Happened V)) : Prop := ∀ workerId, .deregistered workerId ∉ trace

theorem Present.parted {trace : List (Happened V)} (h : Present trace) :
    Parted host json trace := by
  intro later workerId earlier htrace
  exact absurd (htrace ▸ List.mem_append_right _ (List.mem_cons_self ..)) (h workerId)

theorem Present.cons {trace : List (Happened V)} {x : Happened V} (h : Present trace)
    (hx : ∀ workerId, x ≠ .deregistered workerId) : Present (x :: trace) := by
  intro workerId hmem
  cases hmem with
  | head => exact hx workerId rfl
  | tail _ hmem => exact h workerId hmem

theorem Parted.cancelled {trace : List (Happened V)} (h : Parted host json trace)
    (cause : ShutdownCause) :
    Parted host json (.cancelled cause :: trace) := by
  intro later workerId earlier htrace
  cases later with
  | nil => cases htrace
  | cons x later =>
      obtain ⟨rfl, hrest⟩ := List.cons.inj htrace
      obtain ⟨hperm, hcause, hlater⟩ := h later workerId earlier hrest
      refine ⟨hperm, hcause, fun y hy => ?_⟩
      cases hy with
      | head => exact ⟨cause, rfl⟩
      | tail _ hy => exact hlater y hy

theorem Present.deregistered {trace : List (Happened V)} (h : Present trace)
    (hperm : (handed host json trace).Perm (ended trace))
    (hcause : ∃ cause, .cancelled cause ∈ trace) (workerId : String) :
    Parted host json (.deregistered workerId :: trace) := by
  intro later workerId' earlier htrace
  cases later with
  | nil =>
      obtain ⟨-, rfl⟩ := List.cons.inj htrace
      exact ⟨hperm, hcause, fun _ hx => by cases hx⟩
  | cons x later =>
      obtain ⟨-, rfl⟩ := List.cons.inj htrace
      exact absurd (List.mem_append_right _ (List.mem_cons_self ..)) (h workerId')

/-- `run` is over, or waits for the answer to its last request. -/
def Gone (s : Runtime V) : Prop := s.main = .deregistering ∨ s.main = .returned

theorem not_over_of_looping (h : s.main.looping = true) : ¬ Gone s := by
  rintro (hover | hover) <;> rw [hover] at h <;> cases h

/-- Who knows what about the shutdown, and what is left when `run` is over. -/
structure Orderly (host : Host V) (json : Json V) (s : Runtime V) : Prop where
  fresh : s.main = .registering → s.active = [] ∧ s.heartbeat = .off
  named : s.main ≠ .registering → s.main ≠ .returned → ∃ workerId, s.workerId = some workerId
  told : s.shutdown = true → ∃ cause, .cancelled cause ∈ s.trace
  drains : s.main = .draining → s.shutdown = true
  idle : Gone s → s.active = [] ∧ s.heartbeat = .off
  present : ¬ Gone s → Present s.trace
  parted : Parted host json s.trace

theorem orderly_init (host : Host V) (json : Json V) : Orderly host json (.init host) where
  fresh := fun _ => ⟨rfl, rfl⟩
  named := fun h => absurd rfl h
  told := fun h => by cases h
  drains := fun h => by cases h
  idle := fun h => by rcases h with h | h <;> cases h
  present := fun _ _ h => by cases h
  parted := Present.parted fun _ h => by cases h

theorem Orderly.told_cons (h : Orderly host json s) (x : Happened V) (hs : s.shutdown = true) :
    ∃ cause, .cancelled cause ∈ x :: s.trace :=
  (h.told hs).imp fun _ hmem => List.mem_cons_of_mem _ hmem

/-- A task that is still there shows that the worker is. -/
theorem Orderly.present_cons (h : Orderly host json s) (hover : ¬ Gone s) {x : Happened V}
    (hx : ∀ workerId, x ≠ .deregistered workerId) : Present (x :: s.trace) :=
  (h.present hover).cons hx

theorem Orderly.cancel (h : Orderly host json s) (cause : ShutdownCause) :
    Orderly host json (s.cancel cause) where
  fresh := h.fresh
  named := h.named
  told := fun _ => ⟨cause, List.mem_cons_self ..⟩
  drains := fun _ => rfl
  idle := h.idle
  present := fun hover => h.present_cons hover fun _ hx => by cases hx
  parted := h.parted.cancelled cause

/-- A step of the main loop to a place in the loop. -/
theorem Orderly.loop (h : Orderly host json s) (hs : s.main.looping = true)
    (hs' : s'.main.looping = true) (hid : s'.workerId = s.workerId)
    (hshutdown : s'.shutdown = s.shutdown)
    (htrace : s'.trace = s.trace ∨
      ∃ x, s'.trace = x :: s.trace ∧ ∀ workerId, x ≠ .deregistered workerId) :
    Orderly host json s' := by
  have hpresent : Present s'.trace := by
    rcases htrace with htrace | ⟨x, htrace, hx⟩ <;> rw [htrace]
    · exact h.present (not_over_of_looping hs)
    · exact h.present_cons (not_over_of_looping hs) hx
  refine ⟨fun hm => ?_, fun _ _ => ?_, fun ht => ?_, fun hm => ?_, fun hover =>
    absurd hover (not_over_of_looping hs'),
    fun _ => hpresent, hpresent.parted⟩
  · rw [hm] at hs'
    cases hs'
  · rw [hid]
    refine h.named (fun hm => ?_) fun hm => ?_ <;> rw [hm] at hs <;> cases hs
  · obtain ⟨cause, hmem⟩ := h.told (hshutdown ▸ ht)
    refine ⟨cause, ?_⟩
    rcases htrace with htrace | ⟨x, htrace, -⟩ <;> rw [htrace]
    · exact hmem
    · exact List.mem_cons_of_mem _ hmem
  · rw [hm] at hs'
    cases hs'

theorem orderly_step (hc : Conserved host json s) (h : Orderly host json s)
    (hstep : Runtime.Step host json backon s s') : Orderly host json s' := by
  cases hstep with
  | registered workerId hs =>
      have hover : ¬ Gone s := by simp [Gone, hs]
      have hpresent := h.present_cons hover (x := .registered workerId) fun _ hx => by cases hx
      exact ⟨fun hm => (by cases hm), fun _ _ => ⟨workerId, rfl⟩, h.told_cons _, fun hm =>
        (by cases hm),
        fun ho => (by rcases ho with ho | ho <;> cases ho), fun _ => hpresent, hpresent.parted⟩
  | refused hs =>
      exact ⟨fun hm => (by cases hm), fun _ hne => absurd rfl hne, h.told, fun hm => (by cases hm),
        fun _ => h.fresh hs, fun hover => absurd (.inr rfl) hover, h.parted⟩
  | acquired hs _ _ =>
      exact h.loop (by rw [hs]; rfl) rfl rfl rfl (.inr ⟨_, rfl, fun _ hx => by cases hx⟩)
  | answered result hs =>
      refine h.loop (by rw [hs]; rfl) ?_ rfl rfl (.inr ⟨_, rfl, fun _ hx => by cases hx⟩)
      rcases main_answer host json backon s result with hm | hm <;>
        rw [hm] <;> rfl
  | woken hs => exact h.loop (by rw [hs]; rfl) rfl rfl rfl (.inl rfl)
  | interrupted hs hshutdown =>
      have hover : ¬ Gone s := not_over_of_looping hs
      have hpresent : Present s.interrupt.trace := by
        simp only [Runtime.interrupt]
        split
        next => exact h.present_cons hover fun _ hx => by cases hx
        next => exact h.present hover
      refine ⟨fun hm => (by cases hm), fun _ _ => ?_, fun _ => ?_, fun _ => hshutdown,
        fun ho => (by rcases ho with ho | ho <;> cases ho), fun _ => hpresent, hpresent.parted⟩
      · refine h.named (fun hm => ?_) fun hm => ?_ <;> rw [hm] at hs <;> cases hs
      · obtain ⟨cause, hmem⟩ := h.told hshutdown
        refine ⟨cause, ?_⟩
        simp only [Runtime.interrupt]
        split
        next => exact List.mem_cons_of_mem _ hmem
        next => exact hmem
  | @drained workerId hs hcount hid =>
      have hover : ¬ Gone s := by simp [Gone, hs]
      -- a count of no executions means that the semaphore has all its permits back
      have hactive : s.active = [] := by
        have hpermits := hc.permits
        simp only [Runtime.activeCount] at hcount
        exact List.eq_nil_of_length_eq_zero (by omega)
      have hperm : (handed host json s.trace).Perm (ended s.trace) := by
        simpa [hactive] using hc.executions
      have hcause := h.told (h.drains hs)
      exact ⟨fun hm => (by cases hm), fun _ _ => ⟨workerId, hid⟩, h.told_cons _, fun hm =>
        (by cases hm),
        fun _ => ⟨hactive, rfl⟩, fun ho => absurd (.inl rfl) ho,
        (h.present hover).deregistered hperm hcause workerId⟩
  | left hs =>
      exact ⟨fun hm => (by cases hm), fun _ hne => absurd rfl hne, h.told, fun hm => (by cases hm),
        fun _ => h.idle (.inl hs), fun ho => absurd (.inr rfl) ho, h.parted⟩
  | @finished before after run hactive =>
      have hne : s.active ≠ [] := by simp [hactive]
      have hover : ¬ Gone s := fun hover => hne (h.idle hover).1
      have hpresent := h.present_cons hover (x := .finished run) fun _ hx => by cases hx
      exact ⟨fun hm => absurd (h.fresh hm).1 hne, h.named, h.told_cons _, h.drains,
        fun ho => absurd ho hover, fun _ => hpresent, hpresent.parted⟩
  | shutdown => exact h.cancel .called
  | @ticked workerId hb hid =>
      have hne : s.heartbeat ≠ .off := by simp [hb]
      have hover : ¬ Gone s := fun hover => hne (h.idle hover).2
      have hpresent := h.present_cons hover (x := .beat workerId) fun _ hx => by cases hx
      exact ⟨fun hm => absurd (h.fresh hm).2 hne, h.named, h.told_cons _, h.drains,
        fun ho => absurd ho hover, fun _ => hpresent, hpresent.parted⟩
  | beaten result hb =>
      have hne : s.heartbeat ≠ .off := by simp [hb]
      have hover : ¬ Gone s := fun hover => hne (h.idle hover).2
      have hbeaten : ∀ {t : Runtime V}, Orderly host json t → t.main = s.main →
          Orderly host json { t with heartbeat := .ticking } := by
        intro t ht hmain
        have hover' : ¬ Gone t := by rwa [Gone, hmain]
        refine ⟨fun hm => absurd (h.fresh (hmain ▸ hm)).2 hne, ht.named, ht.told, ht.drains,
          fun ho => absurd ho hover',
          fun _ => ht.present hover', ht.parted⟩
      unfold Runtime.beaten
      split
      next cause _ => exact hbeaten (h.cancel cause) rfl
      next => exact hbeaten h rfl
  | silenced hb _ =>
      have hne : s.heartbeat ≠ .off := by simp [hb]
      exact ⟨fun hm => ⟨(h.fresh hm).1, rfl⟩, h.named, h.told, h.drains, fun ho =>
        ⟨(h.idle ho).1, rfl⟩,
        h.present, h.parted⟩

theorem Runs.orderly (h : Runtime.Steps host json backon (.init host) s) : Orderly host json s := by
  induction h with
  | refl => exact orderly_init host json
  | tail hsteps hstep ih => exact orderly_step (Runs.conserved hsteps) ih hstep

/-- When a worker has deregistered, it had been told to leave, every execution it was handed
had ended, and it has done nothing since. -/
theorem deregisters_when_drained (host : Host V) (json : Json V) (backon : Backon) {s : Runtime V}
    (h : Runtime.Steps host json backon (.init host) s) {later earlier : List (Happened V)}
    {workerId : String} (htrace : s.trace = later ++ .deregistered workerId :: earlier) :
    (handed host json earlier).Perm (ended earlier) ∧ (∃ cause, .cancelled cause ∈ earlier) ∧
      ∀ x ∈ later, ∃ cause, x = .cancelled cause :=
  (Runs.orderly h).parted later workerId earlier htrace

/-- It is handed one execution, ends it and leaves. -/
theorem drained_run : ∃ s earlier, Runtime.Steps pair booleans once (.init pair) s ∧
    s.trace = [] ++ .deregistered "w" :: earlier ∧ (handed pair booleans earlier).length = 1 := by
  have hregistered := Relation.ReflTransGen.single
    (Runtime.Step.registered "w" rfl : Runtime.Step pair booleans once (.init pair) _)
  have hhanded := (hregistered.tail (.acquired rfl rfl rfl)).tail
      (.answered (.ok (.pollTask "1" "job" [])) rfl)
  have hdraining := (hhanded.tail .shutdown).tail (.interrupted rfl rfl)
  have hended := hdraining.tail (.finished (show _ = [] ++ _ :: [] from rfl))
  exact ⟨_, _, hended.tail (.drained rfl rfl rfl), rfl, rfl⟩

theorem deregisters_when_drained_once : ∃ s earlier, Runtime.Steps pair booleans once
    (.init pair) s ∧
    s.trace = .deregistered "w" :: earlier ∧ (ended earlier).length = 1 := by
  obtain ⟨s, earlier, hs, htrace, hlength⟩ := drained_run
  obtain ⟨hperm, -, -⟩ := deregisters_when_drained pair booleans once hs htrace
  exact ⟨s, earlier, hs, htrace, hperm.length_eq ▸ hlength⟩

/-! ## Getting there -/

/-- A draining worker returns as soon as its executions have ended. -/
theorem returns_of_draining (n : Nat) (hc : Conserved host json s) (ho : Orderly host json s)
    (hs : s.main = .draining) (hn : s.active.length = n) :
    ∃ s', Runtime.Steps host json backon s s' ∧ s'.main = .returned ∧
      handed host json s'.trace = handed host json s.trace := by
  induction n generalizing s with
  | zero =>
      obtain ⟨workerId, hid⟩ := ho.named (by simp [hs]) (by simp [hs])
      have hpermits := hc.permits
      have hcount : s.activeCount host = 0 := by
        simp only [Runtime.held, hs] at hpermits
        simp only [Runtime.activeCount]
        simp at hpermits
        omega
      have hdrained : Runtime.Step host json backon s _ := .drained hs hcount hid
      exact ⟨_, (Relation.ReflTransGen.single hdrained).tail (.left rfl), rfl, rfl⟩
  | succ n ih =>
      cases hactive : s.active with
      | nil => simp [hactive] at hn
      | cons run rest =>
          have hsplit : s.active = [] ++ run :: rest := hactive
          have hstep : Runtime.Step host json backon s _ := .finished hsplit
          obtain ⟨s', hsteps, hmain, hhanded⟩ :=
            ih (conserved_step hc hstep) (orderly_step hc ho hstep) hs
            (by simpa [hactive] using hn)
          exact ⟨s', hsteps.head hstep, hmain, hhanded⟩

/-- From the loop of `run` a worker returns when it is shut down. -/
theorem returns_of_looping (hc : Conserved host json s) (ho : Orderly host json s)
    (hs : s.main.looping = true) :
    ∃ s', Runtime.Steps host json backon s s' ∧ s'.main = .returned ∧
      handed host json s'.trace = handed host json s.trace := by
  have hshutdown : Runtime.Step host json backon s (s.cancel .called) := .shutdown
  have hinterrupt : Runtime.Step host json backon (s.cancel .called) (s.cancel .called).interrupt :=
    .interrupted hs rfl
  have hc' := conserved_step hc hshutdown
  have ho' := orderly_step hc ho hshutdown
  obtain ⟨s', hsteps, hmain, hhanded⟩ := returns_of_draining _ (conserved_step hc' hinterrupt)
    (orderly_step hc' ho' hinterrupt) rfl rfl
  refine ⟨s', (hsteps.head hinterrupt).head hshutdown, hmain, hhanded.trans ?_⟩
  simp only [Runtime.interrupt]
  split <;> rfl

/-- From every place it can be in, a worker can return from `run` without being handed another
execution: no step of it waits for something that cannot come. -/
theorem can_always_drain (host : Host V) (json : Json V) (backon : Backon) {s : Runtime V}
    (h : Runtime.Steps host json backon (.init host) s) :
    ∃ s', Runtime.Steps host json backon s s' ∧ s'.main = .returned ∧ s'.active = [] ∧
      handed host json s'.trace = handed host json s.trace := by
  have hc := Runs.conserved h
  have ho := Runs.orderly h
  have hreturns : ∃ s', Runtime.Steps host json backon s s' ∧ s'.main = .returned ∧
      handed host json s'.trace = handed host json s.trace := by
    cases hmain : s.main with
    | registering => exact ⟨_, .single (.refused hmain), rfl, rfl⟩
    | acquiring => exact returns_of_looping hc ho (by rw [hmain]; rfl)
    | polling => exact returns_of_looping hc ho (by rw [hmain]; rfl)
    | sleeping => exact returns_of_looping hc ho (by rw [hmain]; rfl)
    | draining => exact returns_of_draining _ hc ho hmain rfl
    | deregistering => exact ⟨_, .single (.left hmain), rfl, rfl⟩
    | returned => exact ⟨s, .refl, hmain, rfl⟩
  obtain ⟨s', hsteps, hmain, hhanded⟩ := hreturns
  exact ⟨s', hsteps, hmain, ((Runs.orderly (h.trans hsteps)).idle (.inr hmain)).1, hhanded⟩

theorem can_always_drain_interrupted : ∃ s, Runtime.Steps pair booleans once (.init pair) s ∧
    s.main = .returned ∧ s.active = [] := by
  obtain ⟨s, hs, -, -, -⟩ := interrupted_run
  obtain ⟨s', hsteps, hmain, hactive, -⟩ := can_always_drain pair booleans once hs
  exact ⟨s', hs.trans hsteps, hmain, hactive⟩

end Graceful

end Kagzi
