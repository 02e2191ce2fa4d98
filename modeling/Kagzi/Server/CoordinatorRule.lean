import Kagzi.Server.Service

/-!
# A proof rule for the coordinator

The coordinator works on templates as they were when a tick read them.
`CoordinatorRule` collects what has to be shown about its statements, one
hypothesis for each kind.  `Snap now t` is what the read establishes for a
template `t` of the batch, `Made t fireAt` what the creation of an instance
establishes, and `Done now t` what is known of `t` when the tick has handled it.
The first two must survive all statements but the reads of the same coordinator.
`CoordinatorRule.sat_run` does the induction over the batch and the ticks: a
coordinator that ends without an error has handled every template it read.
-/

namespace Kagzi

open Atomic

/-! ## Reads -/

/-- The statement reads the templates that are due. -/
def Stmt.isRead : Stmt → Bool
  | .findDueSchedules _ _ => true
  | _ => false

/-- The time of a tick and the templates it read. -/
def batch : Ran → Option (Int × List WorkflowRun)
  | ⟨_, _, .findDueSchedules now _, .ok ts⟩ => some (now, ts)
  | _ => none

theorem batch_of_not_read {i : Nat} {e : Env} {q : Stmt} {a : q.Result} (hq : q.isRead = false) :
    batch ⟨i, e, q, a⟩ = none := by
  cases q with
  | findDueSchedules _ _ => cases hq
  | _ => rfl

/-- Every template that the coordinator `i` has read is done. -/
def Handled (i : Nat) (Done : Int → WorkflowRun → Now → Prop) (m : Now) : Prop :=
  ∀ ran ∈ m.trace, ran.caller = i → ∀ now ts, batch ran = some (now, ts) → ∀ t ∈ ts, Done now t m

/-- Every template that the coordinator `i` has read is done, or one of those to
come. -/
def Pending (i : Nat) (Done : Int → WorkflowRun → Now → Prop) (now : Int) (rest : List WorkflowRun)
    (m : Now) : Prop :=
  ∀ ran ∈ m.trace, ran.caller = i → ∀ now' ts, batch ran = some (now', ts) → ∀ t ∈ ts,
    Done now' t m ∨ now' = now ∧ t ∈ rest

section Steadiness
variable {M : Engine Stmt Stmt.Result World Env} {Γ : Condition Stmt Stmt.Result World Env}
variable {i : Nat} {K L : Now → Prop} {Done : Int → WorkflowRun → Now → Prop}

/-- A property that survives all statements but the reads of `i`. -/
def Steady (M : Engine Stmt Stmt.Result World Env) (Γ : Condition Stmt Stmt.Result World Env)
    (i : Nat) (K : Now → Prop) : Prop :=
  ∀ j e q m, (j = i → q.isRead = false) → K m → M.admits j e q m → Γ j e q m →
    K (m.after M j e q)

theorem Steady.stable (h : Steady M Γ i K) : Stable M Γ i K :=
  fun j e q m hj => h j e q m fun heq => absurd heq hj

theorem steady_true : Steady M Γ i fun _ => True := fun _ _ _ _ _ _ _ _ => trivial

theorem Steady.and (hK : Steady M Γ i K) (hL : Steady M Γ i L) :
    Steady M Γ i fun m => K m ∧ L m :=
  fun j e q m hj h ha hΓ => ⟨hK j e q m hj h.1 ha hΓ, hL j e q m hj h.2 ha hΓ⟩

theorem Steady.imp {φ : Prop} (hK : Steady M Γ i K) : Steady M Γ i fun m => φ → K m :=
  fun j e q m hj h ha hΓ hφ => hK j e q m hj (h hφ) ha hΓ

theorem steady_of_invariant (h : Invariant (M.restrict Γ) K) : Steady M Γ i K :=
  fun j e q m _ hK ha hΓ => h j e q m hK ⟨ha, hΓ⟩

theorem pending_steady (hdone : ∀ now t, Invariant (M.restrict Γ) (Done now t)) (now : Int)
    (rest : List WorkflowRun) : Steady M Γ i (Pending i Done now rest) := by
  intro j e q m hj hm ha hΓ ran hran hcaller now' ts hb t ht
  rcases List.mem_cons.mp hran with rfl | hran
  · rw [batch_of_not_read (hj hcaller)] at hb
    cases hb
  · rcases hm ran hran hcaller now' ts hb t ht with h | h
    · exact .inl (hdone now' t j e q m h ⟨ha, hΓ⟩)
    · exact .inr h

theorem Handled.pending (hdone : ∀ now t, Invariant (M.restrict Γ) (Done now t)) {e : Env}
    {m : Now} {now limit : Int} {ts : List WorkflowRun} (h : Handled i Done m)
    (ha : (M.restrict Γ).admits i e (.findDueSchedules now limit) m)
    (hres : (M.exec e (.findDueSchedules now limit) m.store).1 = .ok ts) :
    Pending i Done now ts (m.after M i e (.findDueSchedules now limit)) := by
  intro ran hran hcaller now' ts' hb t ht
  rcases List.mem_cons.mp hran with rfl | hran
  · rw [hres] at hb
    obtain ⟨rfl, rfl⟩ := Prod.mk.inj (Option.some.inj hb)
    exact .inr ⟨rfl, ht⟩
  · exact .inl (hdone now' t i e _ m (h ran hran hcaller now' ts' hb t ht) ha)

theorem Pending.handled {now : Int} {m : Now} (h : Pending i Done now [] m) : Handled i Done m := by
  intro ran hran hcaller now' ts hb t ht
  rcases h ran hran hcaller now' ts hb t ht with h | ⟨-, h⟩
  · exact h
  · cases h

theorem Pending.tail {now : Int} {t : WorkflowRun} {rest : List WorkflowRun} {m : Now}
    (h : Pending i Done now (t :: rest) m) (ht : Done now t m) : Pending i Done now rest m := by
  intro ran hran hcaller now' ts hb t' ht'
  rcases h ran hran hcaller now' ts hb t' ht' with h | ⟨hnow, hmem⟩
  · exact .inl h
  · rcases List.mem_cons.mp hmem with rfl | hmem
    · exact .inl (hnow ▸ ht)
    · exact .inr ⟨hnow, hmem⟩

end Steadiness

/-! ## The rule -/

/-- The statements of the coordinator that change no run. -/
def Stmt.isPlain : Stmt → Bool
  | .utcNow => true
  | .findDueSchedules _ _ => true
  | .rateCheck => true
  | .notify _ _ => true
  | .markStaleOffline _ => true
  | _ => false

open Coordinator in
/-- What has to be shown for the coordinator to satisfy a guarantee. -/
structure CoordinatorRule (cfg : Config) (M : Engine Stmt Stmt.Result World Env)
    (Γ : Condition Stmt Stmt.Result World Env) (i : Nat) (K : Now → Prop)
    (Snap : Int → WorkflowRun → Now → Prop) (Made : WorkflowRun → Int → Now → Prop)
    (Done : Int → WorkflowRun → Now → Prop) : Prop where
  inv : Invariant (M.restrict Γ) K
  snap_steady : ∀ now t, Steady M Γ i (Snap now t)
  made_steady : ∀ t fireAt, Steady M Γ i (Made t fireAt)
  done_inv : ∀ now t, Invariant (M.restrict Γ) (Done now t)
  plain : ∀ e q m, q.isPlain = true → K m → M.admits i e q m → Γ i e q m
  read : ∀ e m now limit ts, K m → M.admits i e (.findDueSchedules now limit) m →
    (M.exec e (.findDueSchedules now limit) m.store).1 = .ok ts → ∀ t ∈ ts,
    Snap now t (m.after M i e (.findDueSchedules now limit))
  skip : ∀ e m now t next, decision cfg now t.toRunRow = .skip next → K m → Snap now t m →
    M.admits i e (.updateNextFire t.runId next (some now)) m →
    Γ i e (.updateNextFire t.runId next (some now)) m
  create : ∀ e m now t fireAt next, decision cfg now t.toRunRow = .fire fireAt next → K m →
    Snap now t m → M.admits i e (.createScheduleInstance t.runId fireAt) m →
    Γ i e (.createScheduleInstance t.runId fireAt) m
  made : ∀ e m now t fireAt next a, decision cfg now t.toRunRow = .fire fireAt next → K m →
    Snap now t m → M.admits i e (.createScheduleInstance t.runId fireAt) m →
    (M.exec e (.createScheduleInstance t.runId fireAt) m.store).1 = .ok a →
    Made t fireAt (m.after M i e (.createScheduleInstance t.runId fireAt))
  advance : ∀ e m now t fireAt next, decision cfg now t.toRunRow = .fire fireAt next → K m →
    Snap now t m → Made t fireAt m → M.admits i e (.updateNextFire t.runId next (some fireAt)) m →
    Γ i e (.updateNextFire t.runId next (some fireAt)) m
  ignored : ∀ m now t, decision cfg now t.toRunRow = .ignore → K m → Snap now t m → Done now t m := by
    intros; trivial
  refused : ∀ e m now t fireAt next, decision cfg now t.toRunRow = .fire fireAt next → K m →
    Snap now t m → M.admits i e .rateCheck m → (M.exec e .rateCheck m.store).1 = .ok false →
    Done now t (m.after M i e .rateCheck) := by
    intros; trivial
  skipped : ∀ e m now t next, decision cfg now t.toRunRow = .skip next → K m → Snap now t m →
    M.admits i e (.updateNextFire t.runId next (some now)) m →
    (M.exec e (.updateNextFire t.runId next (some now)) m.store).1 = .ok () →
    Done now t (m.after M i e (.updateNextFire t.runId next (some now))) := by
    intros; trivial
  advanced : ∀ e m now t fireAt next, decision cfg now t.toRunRow = .fire fireAt next → K m →
    Snap now t m → Made t fireAt m → M.admits i e (.updateNextFire t.runId next (some fireAt)) m →
    (M.exec e (.updateNextFire t.runId next (some fireAt)) m.store).1 = .ok () →
    Done now t (m.after M i e (.updateNextFire t.runId next (some fireAt))) := by
    intros; trivial

namespace CoordinatorRule

variable {cfg : Config} {M : Engine Stmt Stmt.Result World Env}
variable {Γ : Condition Stmt Stmt.Result World Env} {i : Nat} {K : Now → Prop}
variable {Snap : Int → WorkflowRun → Now → Prop} {Made : WorkflowRun → Int → Now → Prop}
variable {Done : Int → WorkflowRun → Now → Prop}

/-- A statement that is no read keeps what is steady, and its answer may
establish more. -/
theorem sat_steady {I : Now → Prop} {q : Stmt} {P : q.Ans → Now → Prop} (hq : q.isRead = false)
    (hI : Steady M Γ i I) (hP : ∀ a, Steady M Γ i (P a))
    (h : ∀ e m, I m → M.admits i e q m → Γ i e q m ∧
      ∀ a, (M.exec e q m.store).1 = .ok a → P a (m.after M i e q)) :
    Sat M Γ i I (sql q) (fun a m => P a m ∧ I m) (fun _ => I) := by
  intro e m hm ha
  obtain ⟨hΓ, hok⟩ := h e m hm ha
  have hm' : I (m.after M i e q) := hI i e q m (fun _ => hq) hm ha hΓ
  refine ⟨hΓ, ?_⟩
  cases hres : (M.exec e q m.store).1 with
  | ok a => exact ⟨_, ((hP a).and hI).stable, ⟨hok a hres, hm'⟩, fun _ h => h⟩
  | error x => exact ⟨I, hI.stable, hm', fun _ h => h⟩

theorem sat_plain (R : CoordinatorRule cfg M Γ i K Snap Made Done) {L : Now → Prop} {q : Stmt}
    (hq : q.isPlain = true) (hread : q.isRead = false) (hL : Steady M Γ i L) :
    Sat M Γ i (fun m => K m ∧ L m) (sql q) (fun _ m => K m ∧ L m) (fun _ m => K m ∧ L m) :=
  (sat_steady hread ((steady_of_invariant R.inv).and hL) (fun _ => steady_true)
    fun e m hm ha => ⟨R.plain e q m hq hm.1 ha, fun _ _ => trivial⟩).mono
    (fun _ hm => hm) (fun _ _ hm => hm.2) (fun _ _ hm => hm)

/-- One template of a batch.  `L` is what is known of the others. -/
theorem sat_fireTemplate (R : CoordinatorRule cfg M Γ i K Snap Made Done) {L : Now → Prop}
    (hL : Steady M Γ i L) (now : Int) (t : WorkflowRun) :
    Sat M Γ i (fun m => K m ∧ Snap now t m ∧ L m) (Coordinator.fireTemplate cfg now t)
      (fun _ m => K m ∧ Done now t m ∧ L m) (fun _ => K) := by
  have hinv : Steady M Γ i fun m => K m ∧ Snap now t m ∧ L m :=
    (steady_of_invariant R.inv).and ((R.snap_steady now t).and hL)
  unfold Coordinator.fireTemplate
  split
  next hd => exact fun m hm => ⟨hm.1, R.ignored m now t hd hm.1 hm.2.1, hm.2.2⟩
  next => exact fun m hm => hm.1
  next next hd =>
    refine (sat_steady rfl hinv (fun _ => steady_of_invariant (R.done_inv now t)) fun e m hm ha => ?_).mono
      (fun _ hm => hm) (fun _ _ hm => ⟨hm.2.1, hm.1, hm.2.2.2⟩) (fun _ _ hm => hm.1)
    exact ⟨R.skip e m now t next hd hm.1 hm.2.1 ha,
      fun a hres => R.skipped e m now t next hd hm.1 hm.2.1 ha hres⟩
  next fireAt next hd =>
    have hcreate : Sat M Γ i (fun m => K m ∧ Snap now t m ∧ L m)
        (sql (.createScheduleInstance t.runId fireAt))
        (fun _ m => Made t fireAt m ∧ K m ∧ Snap now t m ∧ L m) (fun _ => K) := by
      refine (sat_steady (P := fun _ => Made t fireAt) rfl hinv (fun _ => R.made_steady t fireAt)
        fun e m hm ha => ?_).mono
        (fun _ hm => hm) (fun _ _ hm => hm) (fun _ _ hm => hm.1)
      exact ⟨R.create e m now t fireAt next hd hm.1 hm.2.1 ha,
        fun a hres => R.made e m now t fireAt next a hd hm.1 hm.2.1 ha hres⟩
    have hadvance : Sat M Γ i (fun m => Made t fireAt m ∧ K m ∧ Snap now t m ∧ L m)
        (sql (.updateNextFire t.runId next (some fireAt)))
        (fun _ m => K m ∧ Done now t m ∧ L m) (fun _ => K) := by
      refine (sat_steady rfl ((R.made_steady t fireAt).and hinv) (fun _ => steady_of_invariant (R.done_inv now t))
        fun e m hm ha => ?_).mono
        (fun _ hm => hm) (fun _ _ hm => ⟨hm.2.2.1, hm.1, hm.2.2.2.2⟩) (fun _ _ hm => hm.2.1)
      exact ⟨R.advance e m now t fireAt next hd hm.2.1 hm.2.2.1 hm.1 ha,
        fun a hres => R.advanced e m now t fireAt next hd hm.2.1 hm.2.2.1 hm.1 ha hres⟩
    have hcheck : Sat M Γ i (fun m => K m ∧ Snap now t m ∧ L m) (sql .rateCheck)
        (fun granted m => (granted = false → Done now t m) ∧ K m ∧ Snap now t m ∧ L m)
        (fun _ => K) := by
      refine (sat_steady (P := fun granted m => granted = false → Done now t m) rfl hinv
        (fun _ => (steady_of_invariant (R.done_inv now t)).imp) fun e m hm ha => ?_).mono
        (fun _ hm => hm) (fun _ _ hm => hm) (fun _ _ hm => hm.1)
      refine ⟨R.plain e .rateCheck m rfl hm.1 ha, fun granted hres hfalse => ?_⟩
      exact R.refused e m now t fireAt next hd hm.1 hm.2.1 ha (hfalse ▸ hres)
    refine Sat.bind hcheck fun granted => ?_
    cases granted with
    | false => exact fun m hm => ⟨hm.2.1, hm.1 rfl, hm.2.2.2⟩
    | true =>
        refine Sat.bind (hcreate.start fun _ hm => hm.2) fun created => ?_
        cases created with
        | none => exact hadvance
        | some runId =>
            have hnotify := R.sat_plain (q := .notify t.ns t.taskQueue) rfl rfl
              ((R.made_steady t fireAt).and ((R.snap_steady now t).and hL))
            refine Sat.bind ((hnotify.attempt (R := fun _ m => K m ∧ Made t fireAt m ∧
              Snap now t m ∧ L m) (fun _ _ hm => hm) (fun _ _ hm => hm)).start
              fun _ hm => ⟨hm.2.1, hm.1, hm.2.2⟩) fun _ => hadvance.start ?_
            exact fun _ hm => ⟨hm.2.1, hm.1, hm.2.2⟩

/-- Induction over the batch: what the read established for the templates still
to come stays true meanwhile. -/
theorem sat_fireTemplates (R : CoordinatorRule cfg M Γ i K Snap Made Done) (φ : Prop) (now : Int)
    (ts : List WorkflowRun) :
    Sat M Γ i (fun m => K m ∧ (∀ t ∈ ts, Snap now t m) ∧ (φ → Pending i Done now ts m))
      (Coordinator.fireTemplates cfg now ts)
      (fun _ m => K m ∧ (φ → Handled i Done m)) (fun _ => K) := by
  induction ts with
  | nil => exact fun m hm => ⟨hm.1, fun hφ => (hm.2.2 hφ).handled⟩
  | cons t ts ih =>
      have hrest : Steady M Γ i fun m => (∀ t ∈ ts, Snap now t m) ∧
          (φ → Pending i Done now (t :: ts) m) :=
        Steady.and (fun j e q m hj hm ha hΓ t ht => R.snap_steady now t j e q m hj (hm t ht) ha hΓ)
          (pending_steady R.done_inv now (t :: ts)).imp
      refine Sat.bind ((R.sat_fireTemplate hrest now t).start fun m hm => ?_) fun _ => ih.start ?_
      · exact ⟨hm.1, hm.2.1 t (List.mem_cons_self ..),
          fun t' ht' => hm.2.1 t' (List.mem_cons_of_mem _ ht'), hm.2.2⟩
      · exact fun m hm => ⟨hm.1, hm.2.2.1, fun hφ => (hm.2.2.2 hφ).tail hm.2.1⟩

theorem sat_read (R : CoordinatorRule cfg M Γ i K Snap Made Done) (φ : Prop) (now limit : Int) :
    Sat M Γ i (fun m => K m ∧ (φ → Handled i Done m)) (sql (.findDueSchedules now limit))
      (fun ts m => K m ∧ (∀ t ∈ ts, Snap now t m) ∧ (φ → Pending i Done now ts m))
      (fun _ => K) := by
  intro e m hm ha
  have hΓ := R.plain e (.findDueSchedules now limit) m rfl hm.1 ha
  have hK := R.inv i e (.findDueSchedules now limit) m hm.1 ⟨ha, hΓ⟩
  refine ⟨hΓ, ?_⟩
  cases hres : (M.exec e (.findDueSchedules now limit) m.store).1 with
  | error x => exact ⟨K, (steady_of_invariant R.inv).stable, hK, fun _ h => h⟩
  | ok ts =>
      have hsnap : Steady M Γ i fun m => ∀ t ∈ ts, Snap now t m :=
        fun j e q m hj hm ha hΓ t ht => R.snap_steady now t j e q m hj (hm t ht) ha hΓ
      refine ⟨_, ((steady_of_invariant R.inv).and
        (hsnap.and (pending_steady R.done_inv now ts).imp)).stable,
        ⟨hK, R.read e m now limit ts hm.1 ha hres, fun hφ => ?_⟩, fun _ h => h⟩
      exact (hm.2 hφ).pending R.done_inv ⟨ha, hΓ⟩ hres

/-- A plain statement that is no read. -/
theorem sat_handled (R : CoordinatorRule cfg M Γ i K Snap Made Done) (φ : Prop) {q : Stmt}
    (hq : q.isPlain = true) (hread : q.isRead = false) :
    Sat M Γ i (fun m => K m ∧ (φ → Handled i Done m)) (sql q)
      (fun _ m => K m ∧ (φ → Handled i Done m)) (fun _ m => K m ∧ (φ → Handled i Done m)) := by
  refine R.sat_plain hq hread fun j e q m hj hm ha hΓ hφ => ?_
  have hpending : Pending i Done 0 [] m :=
    fun ran hran hcaller now ts hb t ht => .inl (hm hφ ran hran hcaller now ts hb t ht)
  exact (pending_steady R.done_inv 0 [] j e q m hj hpending ha hΓ).handled

theorem sat_tick (R : CoordinatorRule cfg M Γ i K Snap Made Done) (φ : Prop) :
    Sat M Γ i (fun m => K m ∧ (φ → Handled i Done m)) (Coordinator.tick cfg)
      (fun errors m => K m ∧ (φ ∧ errors = [] → Handled i Done m)) (fun _ => K) := by
  have hfire : Sat M Γ i (fun m => K m ∧ (φ → Handled i Done m)) (Coordinator.fireDueSchedules cfg)
      (fun _ m => K m ∧ (φ → Handled i Done m)) (fun _ => K) := by
    refine Sat.bind ((R.sat_handled φ (q := .utcNow) rfl rfl).mono (fun _ h => h) (fun _ _ h => h)
      fun _ _ h => h.1) fun now => ?_
    exact Sat.bind (R.sat_read φ now _) fun ts => R.sat_fireTemplates φ now ts
  refine Sat.bind (hfire.attempt (R := fun fired m => K m ∧
    (φ ∧ Coordinator.logged fired = [] → Handled i Done m)) (fun _ m hm => ⟨hm.1, fun hφ => hm.2 hφ.1⟩)
    (fun x m hm => ⟨hm, fun hφ => by cases hφ.2⟩)) fun fired => ?_
  refine Sat.bind ((R.sat_handled (φ ∧ Coordinator.logged fired = [])
    (q := .markStaleOffline cfg.coordinator.workerStaleThresholdSecs) rfl rfl).attempt
    (R := fun _ m => K m ∧ (φ ∧ Coordinator.logged fired = [] → Handled i Done m))
    (fun _ _ hm => hm) (fun _ _ hm => hm)) fun marked m hm => ⟨hm.1, fun hφ => ?_⟩
  exact hm.2 ⟨hφ.1, (List.append_eq_nil_iff.mp hφ.2).1⟩

/-- Induction over the ticks. -/
theorem sat_run_handled (R : CoordinatorRule cfg M Γ i K Snap Made Done) (φ : Prop) (ticks : Nat) :
    Sat M Γ i (fun m => K m ∧ (φ → Handled i Done m)) (Coordinator.run cfg ticks)
      (fun errors m => K m ∧ (φ ∧ errors = [] → Handled i Done m)) (fun _ => K) := by
  induction ticks generalizing φ with
  | zero => exact fun m hm => ⟨hm.1, fun hφ => hm.2 hφ.1⟩
  | succ ticks ih =>
      refine Sat.bind (R.sat_tick φ) fun errors => ?_
      refine Sat.bind (ih (φ ∧ errors = [])) fun rest m hm => ⟨hm.1, fun hφ => hm.2 ?_⟩
      obtain ⟨herrors, hrest⟩ := List.append_eq_nil_iff.mp hφ.2
      exact ⟨⟨hφ.1, herrors⟩, hrest⟩

/-- The coordinator keeps `K`. -/
theorem sat_run (R : CoordinatorRule cfg M Γ i K Snap Made Done) (ticks : Nat) :
    Sat M Γ i K (Coordinator.run cfg ticks) (fun _ => K) (fun _ => K) :=
  (R.sat_run_handled False ticks).mono (fun _ hm => ⟨hm, fun h => h.elim⟩) (fun _ _ hm => hm.1)
    (fun _ _ hm => hm)

/-- A coordinator that ends without an error has handled every template it
read. -/
theorem sat_coordinator (R : CoordinatorRule cfg M Γ i K Snap Made Done) (ticks : Nat) :
    Sat M Γ i (fun m => K m ∧ ∀ ran ∈ m.trace, ran.caller ≠ i) (handle cfg (.coordinator ticks))
      (fun resp m => K m ∧ (resp = .coordinator [] → Handled i Done m)) (fun _ => K) := by
  refine Sat.bind ((R.sat_run_handled True ticks).start fun m hm => ⟨hm.1, fun _ => ?_⟩)
    fun errors m hm => ⟨hm.1, fun hresp => hm.2 ⟨trivial, Response.coordinator.inj hresp⟩⟩
  intro ran hran hcaller
  exact absurd hcaller (hm.2 ran hran)

end CoordinatorRule

end Kagzi
