import Kagzi.Server.CoordinatorRule
import Kagzi.Store.RunChange

/-!
# Instances of templates

What a trace says about the instances the coordinator created, and when
`create_schedule_instance` answers that it created one.  A slot is a template
with a fire time.
-/

namespace Kagzi

open Atomic

/-! ## The instances of a trace -/

/-- The slot of a `create_schedule_instance` that did not fail, with its
answer. -/
def creation : Ran → Option (Uuid × Int × Option Uuid)
  | ⟨_, _, .createScheduleInstance templateRunId fireAt, .ok answer⟩ =>
      some (templateRunId, fireAt, answer)
  | _ => none

/-- The instance that a statement created for a slot. -/
def instanceFor (templateRunId : Uuid) (fireAt : Int) (ran : Ran) : Option Uuid :=
  match creation ran with
  | some (template, slot, some runId) =>
      if template = templateRunId ∧ slot = fireAt then some runId else none
  | _ => none

/-- The instances created for a slot, newest first. -/
def created (templateRunId : Uuid) (fireAt : Int) (trace : List Ran) : List Uuid :=
  trace.filterMap (instanceFor templateRunId fireAt)

/-- An instance was created for the slot. -/
def Fired (templateRunId : Uuid) (fireAt : Int) (trace : List Ran) : Prop :=
  ∃ runId, runId ∈ created templateRunId fireAt trace

instance (templateRunId : Uuid) (fireAt : Int) (trace : List Ran) :
    Decidable (Fired templateRunId fireAt trace) :=
  decidable_of_iff (0 < (created templateRunId fireAt trace).length) List.length_pos_iff_exists_mem

theorem instanceFor_eq_some {templateRunId runId : Uuid} {fireAt : Int} {ran : Ran} :
    instanceFor templateRunId fireAt ran = some runId ↔
      creation ran = some (templateRunId, fireAt, some runId) := by
  unfold instanceFor
  split
  next template slot id h =>
    rw [h]
    by_cases hslot : template = templateRunId ∧ slot = fireAt
    · obtain ⟨rfl, rfl⟩ := hslot
      simp
    · rw [if_neg hslot]
      constructor
      · intro h
        cases h
      · intro h
        obtain ⟨rfl, h'⟩ := Prod.mk.inj (Option.some.inj h)
        exact absurd ⟨rfl, (Prod.mk.inj h').1⟩ hslot
  next hno =>
    constructor
    · intro h
      cases h
    · intro h
      exact absurd h (hno _ _ _)

theorem Fired.cons {templateRunId : Uuid} {fireAt : Int} {trace : List Ran} (ran : Ran)
    (h : Fired templateRunId fireAt trace) : Fired templateRunId fireAt (ran :: trace) := by
  obtain ⟨runId, h⟩ := h
  obtain ⟨x, hx, hi⟩ := List.mem_filterMap.mp h
  exact ⟨runId, List.mem_filterMap.mpr ⟨x, List.mem_cons_of_mem _ hx, hi⟩⟩

theorem fired_of_creation {templateRunId runId : Uuid} {fireAt : Int} {ran : Ran}
    {trace : List Ran} (h : creation ran = some (templateRunId, fireAt, some runId)) :
    Fired templateRunId fireAt (ran :: trace) :=
  ⟨runId, List.mem_filterMap.mpr ⟨ran, List.mem_cons_self .., instanceFor_eq_some.mpr h⟩⟩

theorem fired_cons {templateRunId : Uuid} {fireAt : Int} {trace : List Ran} {ran : Ran} :
    Fired templateRunId fireAt (ran :: trace) ↔
      (∃ runId, creation ran = some (templateRunId, fireAt, some runId)) ∨
        Fired templateRunId fireAt trace := by
  constructor
  · rintro ⟨runId, h⟩
    obtain ⟨ran', hran, hi⟩ := List.mem_filterMap.mp h
    rcases List.mem_cons.mp hran with rfl | hran
    · exact .inl ⟨runId, instanceFor_eq_some.mp hi⟩
    · exact .inr ⟨runId, List.mem_filterMap.mpr ⟨ran', hran, hi⟩⟩
  · rintro (⟨runId, h⟩ | h)
    · exact fired_of_creation h
    · exact h.cons ran

/-- Only `create_schedule_instance` creates instances. -/
theorem creation_inv {i : Nat} {e : Env} {q : Stmt} {a : q.Result} {templateRunId : Uuid}
    {fireAt : Int} {answer : Option Uuid}
    (h : creation ⟨i, e, q, a⟩ = some (templateRunId, fireAt, answer)) :
    q = .createScheduleInstance templateRunId fireAt := by
  cases q with
  | createScheduleInstance template slot =>
      cases a with
      | error x => cases h
      | ok answer' =>
          obtain ⟨rfl, h'⟩ := Prod.mk.inj (Option.some.inj h)
          rw [(Prod.mk.inj h').1]
  | _ => cases h

theorem answer_of_creation {i : Nat} {e : Env} {templateRunId : Uuid} {fireAt : Int}
    {a : Except StoreError (Option Uuid)} {answer : Option Uuid}
    (h : creation ⟨i, e, .createScheduleInstance templateRunId fireAt, a⟩
      = some (templateRunId, fireAt, answer)) : a = .ok answer := by
  cases a with
  | error x => cases h
  | ok answer' => rw [(Prod.mk.inj (Prod.mk.inj (Option.some.inj h)).2).2]

theorem fired_of_answer {M : Engine Stmt Stmt.Result World Env} {i : Nat} {e : Env} {m : Now}
    {templateRunId runId : Uuid} {fireAt : Int}
    (h : (M.exec e (.createScheduleInstance templateRunId fireAt) m.store).1 = .ok (some runId)) :
    Fired templateRunId fireAt
      (m.after M i e (.createScheduleInstance templateRunId fireAt)).trace := by
  rw [Moment.after_trace, h]
  exact fired_of_creation rfl

/-! ## The answers -/

/-- A run of the template holds the slot in the index. -/
def Db.Holds (db : Db) (templateRunId : Uuid) (fireAt : Int) (r : RunRow) : Prop :=
  r ∈ db.runs.rows ∧ r.scheduleId = some templateRunId ∧ r.availableAt = some fireAt

theorem slotTaken_iff {db : Db} {templateRunId : Uuid} {fireAt : Int} :
    db.slotTaken templateRunId fireAt = true ↔ ∃ r, db.Holds templateRunId fireAt r := by
  simp [Db.slotTaken, Db.Holds]

theorem forall_holds_iff {db : Db} {templateRunId : Uuid} {fireAt : Int} {P : Prop} :
    (∀ r, db.Holds templateRunId fireAt r → P) ↔ (db.slotTaken templateRunId fireAt = true → P) := by
  rw [slotTaken_iff, forall_exists_index]

section Answers
variable {templateRunId : Uuid} {fireAt : Int} {e : Env}

/-- An instance is created for a free slot only. -/
theorem free_of_created {w : World} {runId : Uuid}
    (h : (store.exec e (.createScheduleInstance templateRunId fireAt) w).1 = .ok (some runId)) :
    ∀ r, ¬ w.db.Holds templateRunId fireAt r := by
  intro r hr
  rw [store_exec_fst, Stmt.exec_ok h] at h
  change (createScheduleInstance templateRunId fireAt e w.db).1 = .ok (some runId) at h
  unfold createScheduleInstance at h
  split at h
  next => cases h
  next => rw [if_pos (slotTaken_iff.mpr ⟨r, hr⟩)] at h; cases h

/-- The template and its payload are there. -/
def World.HasTemplate (w : World) (templateRunId : Uuid) : Prop :=
  (∃ t, w.run templateRunId = some t) ∧ w.db.HasPayload templateRunId

/-- While the template is there, the answer that an instance exists means that
the slot is taken. -/
theorem taken_of_none {w : World} (ht : w.HasTemplate templateRunId)
    (h : (store.exec e (.createScheduleInstance templateRunId fireAt) w).1 = .ok none) :
    ∃ r, w.db.Holds templateRunId fireAt r := by
  obtain ⟨⟨t, hrun⟩, hpayload⟩ := ht
  obtain ⟨payload, hp⟩ := Option.isSome_iff_exists.mp hpayload
  rw [store_exec_fst, Stmt.exec_ok h] at h
  change (createScheduleInstance templateRunId fireAt e w.db).1 = .ok none at h
  unfold createScheduleInstance at h
  rw [show w.db.run templateRunId = some t from hrun, hp] at h
  dsimp only at h
  split at h
  next htaken => exact slotTaken_iff.mp htaken
  next =>
    unfold Db.insertRun at h
    split at h
    next => cases h
    next hinput => cases hinput
    next => split at h <;> cases h

/-- Only its deletion takes a template away. -/
theorem World.HasTemplate.exec {w : World} {q : Stmt} (hq : q.deletes ≠ some templateRunId)
    (e : Env)
    (h : w.HasTemplate templateRunId) : (store.exec e q w).2.HasTemplate templateRunId := by
  obtain ⟨⟨t, hrun⟩, hpayload⟩ := h
  refine ⟨?_, q.exec_hasPayload e hq hpayload⟩
  have hc := q.exec_run e w.db templateRunId
  rw [show w.db.run templateRunId = some t from hrun] at hc
  rw [store_exec_run]
  change ∃ t, (q.exec e w.db).2.run templateRunId = some t
  generalize (q.exec e w.db).2.run templateRunId = new at hc ⊢
  cases hc with
  | deleted =>
      rw [← Db.runId_of_run hrun] at hq
      exact absurd rfl hq
  | _ => exact ⟨_, rfl⟩

theorem rateCheck_granted {w : World} (h : e.rand % 2 = 0) :
    (store.exec e .rateCheck w).1 ≠ .ok false := by
  intro hres
  rw [store_exec_fst, Stmt.exec_ok hres] at hres
  have hval : decide (e.rand % 2 = 0) = false := Except.ok.inj hres
  simp [h] at hval

end Answers

end Kagzi
