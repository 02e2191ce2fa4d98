import Kagzi.Lifecycle

/-!
# The output of a run

The output of a run is meant to be the one its completion sent.  `complete` of the
store updates the run only if it is running, but writes the payload in any case.
A `CompleteWorkflow` that comes too late leaves its output with a run that is
cancelled, failed or waiting, or replaces the output of the completion that won
(`output_of_waiting_run`).

When no completion gets past an update that has missed, outputs belong to
completions, and a completion that loses changes nothing
(`output_belongs_if_unwritten`).
-/

namespace Kagzi

open Atomic

namespace Output

/-- The server without the requests that manage schedules. -/
abbrev service (cfg : Config) : Service Stmt Stmt.Result World Env Request Status Response :=
  Lifecycle.service cfg

/-- The output of a run. -/
def output (w : World) (runId : Uuid) : Option Bytes := (w.db.payload runId).bind PayloadRow.output

/-- The output that a completion sends. -/
def sent (req : CompleteWorkflowRequest) : Bytes := (payloadToOptionalBytes req.output).getD []

/-- The statement moves the run to `COMPLETED`, with the output. -/
def Completes (runId : Uuid) (bytes : Bytes) (ran : Ran) (before after : World) : Prop :=
  ran.query = .completeRun runId bytes ∧ before.HasStatus runId .running ∧
    after.HasStatus runId .completed

/-- The statement with this answer is the update of a completion, and hit. -/
def Hits : (q : Stmt) → q.Result → Prop
  | .completeRun _ _, .ok true => True
  | _, _ => False

/-- The caller is a completion that has won. -/
def Won (i : Nat) (trace : List Ran) : Prop :=
  ∃ ran ∈ trace, ran.caller = i ∧ Hits ran.query ran.answer

/-- The caller has changed nothing. -/
def Idle (w : World) (i : Nat) (trace : List Ran) : Prop :=
  ¬ Did store w i (fun _ before after => after.db ≠ before.db) trace

/-- A run with an output is completed, and a completion with that output has
completed it.  A completion that does not win changes nothing.  No run has an output
at the start. -/
def OutputBelongs (cfg : Config)
    (S : Service Stmt Stmt.Result World Env Request Status Response) : Prop :=
  ∀ (w : World) (p : ServerState), (∀ runId, output w runId = none) → Steps S (.init w []) p →
    (∀ runId bytes, output p.store runId = some bytes → p.store.HasStatus runId .completed ∧
      ∃ i req c, p.calls[i]? = some (.completeWorkflow req, c) ∧
        cfg.parseUuid req.runId = some runId ∧ bytes = sent req ∧
        Did store w i (Completes runId bytes) p.trace) ∧
    ∀ i req c, p.calls[i]? = some (.completeWorkflow req, c) → ¬ Won i p.trace → Idle w i p.trace

/-- No completion gets past an update that has missed. -/
def Unwritten : Condition Stmt Stmt.Result World Env := fun _ _ q _ =>
  match q with
  | .setOutput _ _ => False
  | _ => True

instance (i : Nat) (e : Env) (q : Stmt) (m : Now) : Decidable (Unwritten i e q m) := by
  unfold Unwritten
  split <;> infer_instance

abbrev engine : Engine Stmt Stmt.Result World Env :=
  (store.restrict Unwritten).restrict Lifecycle.Guarded

theorem replayed_kept (w : World) : Invariant engine (Replayed store w) :=
  replayed_invariant store engine rfl w

/-! ## Outputs of completions -/

/-- An output is that of a completion that has completed its run. -/
def Owned (w : World) (m : Now) : Prop :=
  ∀ runId bytes, output m.store runId = some bytes → m.store.HasStatus runId .completed ∧
    ∃ i, Did store w i (Completes runId bytes) m.trace

/-- A statement that completes a run, or leaves the output of the run alone. -/
theorem exec_output {w : World} {i : Nat} {e : Env} {q : Stmt} {m : Now} {runId : Uuid}
    {bytes : Bytes} (hm : Replayed store w m) (ha : engine.admits i e q m)
    (h : output (m.after engine i e q).store runId = some bytes) :
    output m.store runId = some bytes ∨
      (m.after engine i e q).store.HasStatus runId .completed ∧
        Did store w i (Completes runId bytes) (m.after engine i e q).trace := by
  have hchange := q.exec_payload e m.store.db runId
  change ((q.exec e m.store.db).2.payload runId).bind PayloadRow.output = some bytes at h
  show (m.store.db.payload runId).bind PayloadRow.output = some bytes ∨ _
  generalize hold : m.store.db.payload runId = old at hchange
  generalize hnew : (q.exec e m.store.db).2.payload runId = new at hchange h
  cases hchange with
  | same => exact .inl h
  | created => cases h
  | instantiated => cases h
  | written => exact ha.1.2.elim
  | deleted _ => cases h
  | @completed p sentBytes =>
      obtain rfl : sentBytes = bytes := Option.some.inj h
      have hid : p.runId = runId := Db.runId_of_payload hold
      rcases Stmt.exec_cases e (.completeRun p.runId sentBytes) m.store.db with hx | hx
      · rw [hx, hold] at hnew
        exact .inl (Option.some.inj hnew ▸ h)
      by_cases hhit : (completeRun p.runId sentBytes e m.store.db).1 = .ok true
      · obtain ⟨r, hr, hs, hr'⟩ := completeRun_hit hhit
        have hdone : (m.after engine i e (.completeRun p.runId sentBytes)).store.HasStatus runId
            .completed := by
          refine ⟨r.complete e.began, ?_, rfl⟩
          show ((Stmt.completeRun p.runId sentBytes).exec e m.store.db).2.run runId = _
          rw [hx, ← hid]
          exact hr'
        refine .inr ⟨hdone, ?_⟩
        have hcompletes : Completes runId sentBytes
            ⟨i, e, .completeRun p.runId sentBytes,
              (store.exec e (.completeRun p.runId sentBytes) m.store).1⟩
            m.store (store.exec e (.completeRun p.runId sentBytes) m.store).2 :=
          ⟨by rw [hid], ⟨r, by rw [← hid]; exact hr, hs⟩, hdone⟩
        exact hm.did hcompletes
      · rw [hx, show (Stmt.completeRun p.runId sentBytes).sql e m.store.db
          = completeRun p.runId sentBytes e m.store.db from rfl, completeRun_miss hhit, hold] at hnew
        exact .inl (Option.some.inj hnew ▸ h)

theorem owned_invariant (w : World) :
    Invariant engine fun m => Replayed store w m ∧ Owned w m := by
  rintro i e q m ⟨hm, hown⟩ ha
  refine ⟨replayed_kept w i e q m hm ha, fun runId bytes h => ?_⟩
  rcases exec_output hm ha h with h | ⟨hdone, hdid⟩
  · obtain ⟨hdone, j, hdid⟩ := hown runId bytes h
    exact ⟨Lifecycle.hasStatus_invariant rfl i e q m hdone ⟨ha.1.1, ha.2⟩, j,
      did_invariant (M := store) (N := engine) i e q m hdid ha⟩
  · exact ⟨hdone, i, hdid⟩

/-! ## Which request completes what -/

/-- The statement is not the update of a completion. -/
def Plain (q : Stmt) : Prop := ∀ runId bytes, q ≠ .completeRun runId bytes

theorem plain_of_readsSteps {q : Stmt} (h : q.readsSteps = true) : Plain q := by
  rintro runId bytes rfl
  cases h

theorem plain_of_footprint {cfg : Config} {req : Request}
    (h : ∀ r, req ≠ .completeWorkflow r) {q : Stmt} (hq : req.footprint cfg q) : Plain q := by
  rintro runId bytes rfl
  obtain ⟨⟨r, hr⟩, -⟩ := hq.1
  exact h r hr

section Completion
variable {cfg : Config}

theorem handle_plain {req : Request} (h : ∀ r, req ≠ .completeWorkflow r) :
    (handle cfg req).Uses Plain :=
  (handle_footprint cfg req).mono fun _ hq => plain_of_footprint h hq

theorem recordLifecycleEvent_plain (max : Nat) (utf8 : Bytes → Option String) (runId : Uuid)
    (stepKind : StepKind) (bytes : Option Bytes) :
    (StepRepository.recordLifecycleEvent max utf8 runId stepKind bytes).Uses Plain := by
  refine recordLifecycleEvent_uses plain_of_readsSteps _ _ _ ?_ ?_
  · intro _ _ _ _ runId bytes h
    cases h
  · intro step _ _ _
    constructor
    all_goals
      intro runId bytes h
      cases h

/-- The statements of the check of a worker's request. -/
def Checks : Stmt → Prop
  | .getNamespace _ => True
  | .checkWorkflowState _ _ => True
  | _ => False

theorem validateWorkflowAction_checks (cfg : Config) (runId : Uuid) :
    (WorkerService.validateWorkflowAction cfg runId).Uses Checks := by
  refine (uses_stmt trivial).bind fun found => (uses_orFail _ _).bind fun ns => ?_
  refine (uses_stmt trivial).bind fun check => ?_
  split
  next => trivial
  next =>
    split
    next => split <;> trivial
    next => trivial

theorem plain_of_checks {q : Stmt} (h : Checks q) : Plain q := by
  rintro runId bytes rfl
  exact h

theorem exec_of_checks {q : Stmt} (h : Checks q) (e : Env) (db : Db) : (q.exec e db).2 = db := by
  rcases q.exec_cases e db with hx | hx
  · rw [hx]
  · rw [hx]
    cases q with
    | getNamespace _ => rfl
    | checkWorkflowState runId ns =>
        simp only [Stmt.sql, checkWorkflowState]
        split <;> rfl
    | _ => exact h.elim

/-- An update of a completion is that of the request, with the output it sends. -/
def Sends (cfg : Config) (req : Request) (q : Stmt) : Prop :=
  ∀ runId bytes, q = .completeRun runId bytes → ∃ r, req = .completeWorkflow r ∧
    cfg.parseUuid r.runId = some runId ∧ bytes = sent r

theorem sends_of_plain {req : Request} {q : Stmt} (h : Plain q) : Sends cfg req q :=
  fun runId bytes hq => absurd hq (h runId bytes)

theorem completeWorkflow_sends (req : CompleteWorkflowRequest) :
    (WorkerService.completeWorkflow cfg req).Uses (Sends cfg (.completeWorkflow req)) := by
  refine uses_uuid_bind fun runId hid => ?_
  refine Prog.Uses.bind ((validateWorkflowAction_checks cfg runId).mono fun _ hq =>
    sends_of_plain (plain_of_checks hq)) fun _ => ?_
  refine Prog.Uses.bind (uses_call ((Prog.uses_ofExcept _).bind fun _ => ?_)) fun _ => ?_
  · refine Prog.Uses.bind (uses_sql ?_) fun hit => ?_
    · intro target bytes h
      obtain ⟨rfl, rfl⟩ := Stmt.completeRun.inj h
      exact ⟨req, rfl, hid, rfl⟩
    · split
      next => trivial
      next => exact uses_sql (sends_of_plain fun _ _ h => by cases h)
  · exact Prog.Uses.bind ((recordLifecycleEvent_plain _ _ _ _ _).mono fun _ hq =>
      sends_of_plain hq).attempt fun _ => trivial

theorem handle_sends (cfg : Config) (req : Request) : (handle cfg req).Uses (Sends cfg req) := by
  by_cases h : ∃ r, req = .completeWorkflow r
  · obtain ⟨r, rfl⟩ := h
    exact completeWorkflow_sends r
  · exact (handle_plain fun r hr => h ⟨r, hr⟩).mono fun _ hq => sends_of_plain hq

end Completion

/-! ## Completions that lose -/

section Losers
variable {ε ε' α β : Type} {P : α → Prop} {R : β → Prop}

/-- Until its completion hits, the program changes nothing, and it returns only
results that satisfy `P`.  The write of a completion that has missed is left out. -/
def Cautious (P : α → Prop) : Prog Stmt Stmt.Result ε α → Prop
  | .ret a => P a
  | .fail _ => True
  | .call q k => (∃ runId bytes, q = .setOutput runId bytes) ∨
      ∀ e db, ¬ Hits q (q.exec e db).1 →
        (q.exec e db).2 = db ∧ Cautious P (k (q.exec e db).1)

theorem Cautious.bind {p : Prog Stmt Stmt.Result ε α} {f : α → Prog Stmt Stmt.Result ε β}
    (hp : Cautious P p) (hf : ∀ a, P a → Cautious R (f a)) : Cautious R (p >>= f) := by
  induction p with
  | ret a => exact hf a hp
  | fail x => trivial
  | call q k ih => exact hp.imp id fun h e db hmiss => ⟨(h e db hmiss).1, ih _ (h e db hmiss).2⟩

theorem Cautious.mapError {g : ε → ε'} {p : Prog Stmt Stmt.Result ε α} (hp : Cautious P p) :
    Cautious P (p.mapError g) := by
  induction p with
  | ret a => exact hp
  | fail x => trivial
  | call q k ih => exact hp.imp id fun h e db hmiss => ⟨(h e db hmiss).1, ih _ (h e db hmiss).2⟩

theorem cautious_of_checks {p : Prog Stmt Stmt.Result ε α} (hp : p.Uses Checks) :
    Cautious (fun _ => True) p := by
  induction p with
  | ret a => trivial
  | fail x => trivial
  | call q k ih => exact .inr fun e db _ => ⟨exec_of_checks hp.1 e db, ih _ (hp.2 _)⟩

/-- An update that misses changes nothing. -/
theorem cautious_completeRun (runId : Uuid) (bytes : Bytes) :
    Cautious (fun hit => hit = false) (sql (.completeRun runId bytes)) := by
  refine .inr fun e db hmiss => ?_
  rcases Stmt.exec_cases e (.completeRun runId bytes) db with hx | hx
  · rw [hx]
    exact ⟨rfl, trivial⟩
  · rw [hx] at hmiss ⊢
    change ¬ Hits (.completeRun runId bytes) (completeRun runId bytes e db).1 at hmiss
    refine ⟨completeRun_miss fun hhit => hmiss (by rw [hhit]; trivial), ?_⟩
    show Cautious _ (Prog.ofExcept (completeRun runId bytes e db).1)
    cases hres : (completeRun runId bytes e db).1 with
    | error x => trivial
    | ok hit =>
        cases hit with
        | true => exact absurd (by rw [hres]; trivial) hmiss
        | false => rfl

/-- A completion of the store returns only when it has won. -/
theorem cautious_complete (max : Nat) (runId : Uuid) (bytes : Bytes) :
    Cautious (fun _ => False) (WorkflowRepository.complete max runId bytes) := by
  refine (cautious_of_checks (Prog.uses_ofExcept _)).bind fun _ _ => ?_
  refine (cautious_completeRun runId bytes).bind fun hit hhit => ?_
  subst hhit
  exact .inl ⟨runId, bytes, rfl⟩

theorem cautious_completeWorkflow (cfg : Config) (req : CompleteWorkflowRequest) :
    Cautious (fun _ => True) (WorkerService.completeWorkflow cfg req) := by
  refine (cautious_of_checks (uses_orFail _ _)).bind fun runId _ => ?_
  refine (cautious_of_checks (validateWorkflowAction_checks cfg runId)).bind fun _ _ => ?_
  exact (cautious_complete _ _ _).mapError.bind fun _ h => h.elim

end Losers

/-- A completion has won, or it has changed nothing and goes on so. -/
def Careful (w : World) (i : Nat) : Request → Rpc Response → Now → Prop
  | .completeWorkflow _, c, m =>
      Won i m.trace ∨ Idle w i m.trace ∧ Cautious (fun _ => True) c
  | _, _, _ => True

section Careful
variable {cfg : Config} {w : World} {i j : Nat} {e : Env} {q : Stmt} {m : Now}

theorem Won.after (h : Won i m.trace) : Won i (m.after store j e q).trace := by
  obtain ⟨ran, hran, hcaller, hhits⟩ := h
  exact ⟨ran, List.mem_cons_of_mem _ hran, hcaller, hhits⟩

theorem idle_after (hm : Replayed store w m) (h : Idle w i m.trace)
    (hq : j = i → (q.exec e m.store.db).2 = m.store.db) : Idle w i (m.after store j e q).trace :=
  hm.not_did h fun hj hne => hne (hq hj)

theorem careful_spawn (req : Request) (hnone : ∀ ran ∈ m.trace, ran.caller ≠ i) :
    Careful w i req (handle cfg req) m := by
  cases req with
  | completeWorkflow req =>
      refine .inr ⟨?_, cautious_completeWorkflow cfg req⟩
      rintro ⟨later, ran, earlier, htrace, hcaller, -⟩
      exact hnone ran (by simp [htrace]) hcaller
  | _ => trivial

theorem careful_own {req : Request} {k : q.Result → Rpc Response} (hm : Replayed store w m)
    (h : Careful w i req (.call q k) m) (hq : Unwritten i e q m) :
    Careful w i req (k (q.exec e m.store.db).1) (m.after store i e q) := by
  cases req with
  | completeWorkflow req =>
      rcases h with hwon | ⟨hidle, hcautious⟩
      · exact .inl hwon.after
      by_cases hhits : Hits q (q.exec e m.store.db).1
      · exact .inl ⟨_, List.mem_cons_self .., rfl, hhits⟩
      · rcases hcautious with ⟨runId, bytes, rfl⟩ | hcautious
        · exact hq.elim
        · obtain ⟨hsame, hnext⟩ := hcautious e m.store.db hhits
          exact .inr ⟨idle_after hm hidle fun _ => hsame, hnext⟩
  | _ => trivial

theorem careful_other {req : Request} {c : Rpc Response} (hm : Replayed store w m)
    (h : Careful w i req c m) (hne : j ≠ i) : Careful w i req c (m.after store j e q) := by
  cases req with
  | completeWorkflow req =>
      exact h.imp Won.after fun h => ⟨idle_after hm h.1 fun heq => absurd heq hne, h.2⟩
  | _ => trivial

end Careful

/-- A completion that has not won has changed nothing. -/
theorem losers_idle {cfg : Config} {w : World} {p : ServerState}
    (h : Steps ((service cfg).restrict Unwritten) (.init w []) p) (i : Nat)
    (req : CompleteWorkflowRequest) (c : Rpc Response)
    (hget : p.calls[i]? = some (.completeWorkflow req, c)) (hlost : ¬ Won i p.trace) :
    Idle w i p.trace := by
  have hinv : Invariant ((service cfg).restrict Unwritten).toEngine (Replayed store w) :=
    replayed_invariant store ((service cfg).restrict Unwritten).toEngine rfl w
  have hstart : ∀ i req c, (Pool.init w [] : ServerState).calls[i]? = some (req, c) →
      Careful w i req c ⟨w, []⟩ := by
    intro i req c hget
    cases hget
  have hcareful := h.calls_at hinv (fun i req m _ _ hnone => careful_spawn req hnone)
    (fun i e req q k m hm hc ha => careful_own hm hc ha.2)
    (fun i j e req q c m hm hc hne _ => careful_other hm hc hne)
    rfl (fun ran hran => by cases hran) hstart
  rcases hcareful i _ c hget with hwon | hidle
  · exact absurd hwon hlost
  · exact hidle.1

/-! ## The result -/

/-- Outputs belong to completions in the runs in which no completion gets past an
update that has missed. -/
theorem output_belongs_if_unwritten (cfg : Config) :
    OutputBelongs cfg ((service cfg).restrict Unwritten) := by
  intro w p hw h
  have htrue : Invariant (((service cfg).restrict Unwritten).toEngine.restrict Lifecycle.Guarded)
      fun _ => True := fun _ _ _ _ _ _ => trivial
  obtain ⟨hguarded, -⟩ := h.sound (Lifecycle.serves cfg).restrict htrue trivial (sound_nil w)
  have howned : Owned w p.toMoment := by
    have hstart : Replayed store w ⟨w, []⟩ ∧ Owned w ⟨w, []⟩ := by
      refine ⟨rfl, fun runId bytes hout => ?_⟩
      rw [show output w runId = none from hw runId] at hout
      cases hout
    exact (hguarded.invariant (owned_invariant w) hstart).2
  refine ⟨fun runId bytes hout => ?_, losers_idle h⟩
  obtain ⟨hdone, i, hdid⟩ := howned runId bytes hout
  have hasked : p.Asked (Sends cfg) :=
    h.asked (fun req _ => handle_sends cfg req) (fun i req c hget => by cases hget)
      fun ran hran => by cases hran
  obtain ⟨later, ran, earlier, htrace, hcaller, hquery, hbefore, hafter⟩ := hdid
  obtain ⟨req, c, hget, hsends⟩ := hasked ran (by simp [htrace])
  obtain ⟨r, rfl, hid, hbytes⟩ := hsends runId bytes hquery
  exact ⟨hdone, i, r, c, hcaller ▸ hget, hid, hbytes, later, ran, earlier, htrace, hcaller, hquery,
    hbefore, hafter⟩

/-! ## A completion that wins -/

/-- A worker completes its run with an output. -/
def completedInTime : ServerState :=
  fireAll ((service .sample).restrict Unwritten) (.init (.empty 0) []) <|
    [.start (.startWorkflow ⟨"job", "queue", "type", none, "ns", "", none⟩)] ++
      runs 0 6 (.quiet 0 1) ++
      [.start (.register ⟨"ns", "queue", ["type"], "host", 7, ""⟩)] ++ runs 1 1 (.quiet 0 2) ++
      [.start (.pollTask ⟨"queue", "2", "ns", ["type"]⟩ 0)] ++ runs 2 7 (.quiet 0 3) ++
      [.start (.completeWorkflow ⟨"ns", "1", some [7]⟩)] ++ runs 3 7 (.quiet 1 4)

/-- The run has the output of the request that completed it. -/
theorem output_belongs_if_unwritten_completedInTime :
    output completedInTime.store 1 = some [7] ∧
      ∃ (i : Nat) (req : CompleteWorkflowRequest) (c : Rpc Response),
        completedInTime.calls[i]? = some (.completeWorkflow req, c) ∧
        Config.sample.parseUuid req.runId = some 1 ∧ [7] = sent req := by
  have hsteps : Steps ((service .sample).restrict Unwritten) (.init (.empty 0) [])
      completedInTime := AllEnabled.steps (by decide +kernel)
  have hout : output completedInTime.store 1 = some [7] := by decide +kernel
  obtain ⟨-, i, req, c, hget, hid, hsent, -⟩ :=
    (output_belongs_if_unwritten .sample (.empty 0) _ (fun _ => rfl) hsteps).1 1 [7] hout
  exact ⟨hout, i, req, c, hget, hid, hsent⟩

/-! ## An output without a completion -/

/-- A run that still waits is completed with an output. -/
def completedTooEarly : List (Action Env Request) :=
  [.start (.startWorkflow ⟨"job", "queue", "type", none, "ns", "", none⟩)] ++ runs 0 6 (.quiet 0 1) ++
    [.start (.completeWorkflow ⟨"ns", "1", some [7]⟩)] ++ runs 1 4 (.quiet 5 2)

/-- The run waits, and has an output. -/
theorem output_of_waiting_run : ¬ OutputBelongs .sample (service .sample) := by
  intro hbelongs
  let p := fireAll (service .sample) (.init (.empty 0) []) completedTooEarly
  have h : Steps (service .sample) (.init (.empty 0) []) p := AllEnabled.steps (by decide +kernel)
  have hstatus : (p.store.run 1).map RunRow.status = some .pending := by decide +kernel
  have hout : output p.store 1 = some [7] := by decide +kernel
  obtain ⟨⟨r, hr, hs⟩, -⟩ := (hbelongs (.empty 0) p (fun _ => rfl) h).1 1 [7] hout
  rw [hr, Option.map_some, hs] at hstatus
  cases hstatus

end Output

end Kagzi
