import Kagzi.Store.StepTransactions
import Mathlib.Data.List.Perm.Basic

/-!
# The attempts of a step

The attempts of a step are numbered from one without a gap, and the one with
the highest number, and no other, is the latest (`Structured`).  This holds of
the committed rows at every moment, whatever `begin`, `complete`, `fail`,
`complete_pending_sleeps` and `record_lifecycle_event` do to the step at the
same time (`attempts_are_structured`).

A new attempt takes its number from what its transaction saw when the `INSERT`
began, and by the time the row enters the index other transactions may have
committed.  `Numbered` is what stays true of that number: it is at most the
next one, and it is the next one when the transaction has itself demoted the
latest attempt, since nobody else can then commit an attempt of the step.  When
the row enters the index, no latest attempt stands in its way.  So there was
none, or the transaction has demoted it.

`Ledger` is the shape of the slots of a step between commits: the numbered
attempts, and perhaps one new attempt that belongs to the transaction that has
demoted the latest.  `Safe` follows the code of a transaction: what it demotes
it must replace before it returns.
-/

namespace Kagzi.AttemptTable

open Atomic ReadCommitted Relational

/-! ## The shape -/

/-- The attempts of a step. -/
def attempts (rows : List StepRow) (runId : Uuid) (stepId : String) : List StepRow :=
  rows.filter (StepRow.ofStep runId stepId)

/-- For every step with `k > 0` rows: one row is the latest, the numbers are
`1` to `k`, and the latest is the row with the number `k`. -/
def Structured (rows : List StepRow) : Prop :=
  ∀ runId stepId, attempts rows runId stepId ≠ [] →
    (attempts rows runId stepId).countP StepRow.isLatest = 1 ∧
    ((attempts rows runId stepId).map StepRow.attemptNumber).Perm
      ((List.range (attempts rows runId stepId).length).map fun n : Nat => (n : Int) + 1) ∧
    ∀ r ∈ attempts rows runId stepId,
      r.isLatest = true ↔ r.attemptNumber = (attempts rows runId stepId).length

/-- The attempts of a step in the order of their numbers. -/
def Chain (rows : List StepRow) : Prop :=
  ∀ (n : Nat) (r : StepRow), rows[n]? = some r →
    r.attemptNumber = (n : Int) + 1 ∧ (r.isLatest = true ↔ n + 1 = rows.length)

theorem Chain.nil : Chain [] := by
  intro n r h
  simp at h

/-- New versions that keep the number and the flag. -/
theorem Chain.map {α : Type} {old new : α → StepRow} {l : List α} (h : Chain (l.map old))
    (hnew : ∀ a ∈ l, (new a).attemptNumber = (old a).attemptNumber ∧
      (new a).isLatest = (old a).isLatest) : Chain (l.map new) := by
  intro n r hr
  obtain ⟨a, ha, rfl⟩ : ∃ a, l[n]? = some a ∧ new a = r := by simpa using hr
  obtain ⟨hnum, hlat⟩ := h n (old a) (by simp [ha])
  obtain ⟨hnum', hlat'⟩ := hnew a (List.mem_of_getElem? ha)
  exact ⟨hnum'.trans hnum, by simpa [hlat'] using hlat⟩

/-- A new latest attempt after those that were there, which are demoted. -/
theorem Chain.snoc {α : Type} {old new : α → StepRow} {l : List α} {x : StepRow}
    (h : Chain (l.map old))
    (hnew : ∀ a ∈ l, (new a).attemptNumber = (old a).attemptNumber ∧ (new a).isLatest = false)
    (hx : x.attemptNumber = l.length + 1) (hlatest : x.isLatest = true) :
    Chain (l.map new ++ [x]) := by
  intro n r hr
  rcases Nat.lt_or_ge n l.length with hn | hn
  · rw [List.getElem?_append_left (by simpa using hn)] at hr
    obtain ⟨a, ha, rfl⟩ : ∃ a, l[n]? = some a ∧ new a = r := by simpa using hr
    obtain ⟨hnum, _⟩ := h n (old a) (by simp [ha])
    obtain ⟨hnum', hlat'⟩ := hnew a (List.mem_of_getElem? ha)
    refine ⟨hnum'.trans hnum, ?_⟩
    simp only [hlat', List.length_append, List.length_map, List.length_singleton]
    constructor
    · nofun
    · omega
  · rw [List.getElem?_append_right (by simpa using hn)] at hr
    obtain ⟨hn', rfl⟩ : n = l.length ∧ x = r := by
      simp only [List.length_map, List.getElem?_singleton] at hr
      split at hr
      · exact ⟨by omega, by simpa using hr⟩
      · cases hr
    simp [hn', hx, hlatest]

/-- In a chain that is not empty there is one latest attempt. -/
theorem Chain.countP {rows : List StepRow} (h : Chain rows) (hne : rows ≠ []) :
    rows.countP StepRow.isLatest = 1 := by
  obtain ⟨init, last, rfl⟩ := List.eq_nil_or_concat' rows |>.resolve_left hne
  have hlast := (h init.length last (by simp)).2
  have hinit : init.countP StepRow.isLatest = 0 := by
    refine List.countP_eq_zero.mpr fun r hr => ?_
    obtain ⟨n, hn⟩ := List.mem_iff_getElem?.mp hr
    have hlt : n < init.length := (List.getElem?_eq_some_iff.mp hn).1
    have := (h n r (by rw [List.getElem?_append_left hlt, hn])).2
    simp only [this, List.length_append, List.length_singleton]
    omega
  simp [List.countP_append, hinit, hlast]

theorem Chain.numbers {rows : List StepRow} (h : Chain rows) :
    rows.map StepRow.attemptNumber = (List.range rows.length).map fun n : Nat => (n : Int) + 1 := by
  refine List.ext_getElem? fun n => ?_
  simp only [List.getElem?_map]
  rcases Nat.lt_or_ge n rows.length with hn | hn
  · have := (h n rows[n] (by simp [hn])).1
    simp [hn, this]
  · simp [hn]

theorem Chain.latest {rows : List StepRow} (h : Chain rows) {r : StepRow} (hr : r ∈ rows) :
    r.isLatest = true ↔ r.attemptNumber = rows.length := by
  obtain ⟨n, hn⟩ := List.mem_iff_getElem?.mp hr
  obtain ⟨hnum, hlat⟩ := h n r hn
  rw [hlat, hnum]
  omega

/-- The shape does not depend on the order of the rows. -/
theorem structured_iff {rows : List StepRow} :
    Structured rows ↔
      ∀ runId stepId, ∃ ordered, (attempts rows runId stepId).Perm ordered ∧ Chain ordered := by
  constructor
  · intro h runId stepId
    by_cases hne : attempts rows runId stepId = []
    · exact ⟨[], by rw [hne], .nil⟩
    obtain ⟨_, hnum, hlat⟩ := h runId stepId hne
    -- the rows in the order of their numbers
    obtain ⟨ordered, hmap, hperm⟩ :=
      (congrFun₂ (List.eq_map_comp_perm StepRow.attemptNumber) _ _).mpr hnum.symm
    refine ⟨ordered, hperm.symm, fun n r hr => ?_⟩
    have hn : r.attemptNumber = (n : Int) + 1 := by
      have := congrArg (·[n]?) hmap
      have hlt : n < (attempts rows runId stepId).length := by
        rw [← hperm.length_eq]
        exact (List.getElem?_eq_some_iff.mp hr).1
      simpa [hr, hlt] using this.symm
    refine ⟨hn, ?_⟩
    rw [hlat r (hperm.subset (List.mem_of_getElem? hr)), hn, hperm.length_eq]
    omega
  · intro h runId stepId hne
    obtain ⟨ordered, hperm, hchain⟩ := h runId stepId
    have hne' : ordered ≠ [] := fun hnil => hne (hperm.trans (by rw [hnil])).eq_nil
    refine ⟨?_, ?_, ?_⟩
    · rw [hperm.countP_eq]
      exact hchain.countP hne'
    · rw [hperm.length_eq, ← hchain.numbers]
      exact hperm.map _
    · intro r hr
      rw [hperm.length_eq]
      exact hchain.latest (hperm.subset hr)

/-! ## The slots of a step -/

/-- The slot holds a row of the step. -/
def about (runId : Uuid) (stepId : String) (sl : Slot StepRow) : Bool :=
  (sl.committed.or (sl.pending.map Prod.snd)).any (StepRow.ofStep runId stepId)

/-- The slots of the step. -/
def slotsOf (runId : Uuid) (stepId : String) (heap : List (Slot StepRow)) : List (Slot StepRow) :=
  heap.filter (about runId stepId)

/-- The row `x` may replace the row `r`: the same attempt, and not the latest
unless `r` is. -/
structure Amends (r x : StepRow) : Prop where
  runId : x.runId = r.runId
  stepId : x.stepId = r.stepId
  attemptNumber : x.attemptNumber = r.attemptNumber
  isLatest : x.isLatest = true → r.isLatest = true

/-- An attempt that is committed, and the version somebody has written of it. -/
structure Attempt where
  row : StepRow
  pending : Option (Nat × StepRow)

/-- The slot of an attempt. -/
def Attempt.slot (a : Attempt) : Slot StepRow := ⟨some a.row, a.pending⟩

/-- What stands after the attempts of a step in the heap: nothing, or the next
attempt, which belongs to the transaction that has demoted the latest. -/
inductive Ends (as : List Attempt) : List (Slot StepRow) → Prop where
  | quiet : Ends as []
  | inserted {i : Nat} {x : StepRow} : x.attemptNumber = (as.length : Int) + 1 → x.isLatest = true →
      (∀ a ∈ as, a.row.isLatest = true → ∃ y, a.pending = some (i, y) ∧ y.isLatest = false) →
      Ends as [⟨none, some (i, x)⟩]

/-- The slots of a step: its attempts in the order of their numbers, and what
comes after. -/
def Ledger (slots : List (Slot StepRow)) : Prop :=
  ∃ as tail, slots.Perm (as.map Attempt.slot ++ tail) ∧ Chain (as.map Attempt.row) ∧ Ends as tail

/-- A heap in which the slots of every step have that shape. -/
structure Sorted (heap : List (Slot StepRow)) : Prop where
  amends : ∀ sl ∈ heap, ∀ r i x, sl.committed = some r → sl.pending = some (i, x) → Amends r x
  ledger : ∀ runId stepId, Ledger (slotsOf runId stepId heap)

theorem about_eq_true {runId : Uuid} {stepId : String} {sl : Slot StepRow} :
    about runId stepId sl = true ↔
      ∃ r, (sl.committed = some r ∨ sl.committed = none ∧ ∃ i, sl.pending = some (i, r)) ∧
        r.runId = runId ∧ r.stepId = stepId := by
  obtain ⟨_ | r, _ | ⟨i, x⟩⟩ := sl <;> simp [about, StepRow.ofStep]

theorem about_congr {runId : Uuid} {stepId : String} {sl sl' : Slot StepRow} {r x : StepRow}
    (hsl : sl.committed = some r) (hsl' : sl'.committed = some x) (hrun : x.runId = r.runId)
    (hstep : x.stepId = r.stepId) : about runId stepId sl' = about runId stepId sl := by
  simp [about, hsl, hsl', StepRow.ofStep, hrun, hstep]

/-- An attempt with its row is not one that is still to be inserted. -/
theorem Ends.committed {as : List Attempt} {tail : List (Slot StepRow)} (h : Ends as tail) :
    ∀ sl ∈ tail, sl.committed = none := by
  cases h with
  | quiet => simp
  | inserted => simp

/-- A slot with a committed row is the slot of an attempt. -/
theorem mem_attempts {as : List Attempt} {tail slots : List (Slot StepRow)}
    {sl : Slot StepRow} {r : StepRow} (hperm : slots.Perm (as.map Attempt.slot ++ tail))
    (hends : Ends as tail) (hsl : sl ∈ slots) (hr : sl.committed = some r) :
    ∃ a ∈ as, a.slot = sl ∧ a.row = r := by
  rcases List.mem_append.mp (hperm.subset hsl) with h | h
  · obtain ⟨a, ha, rfl⟩ := List.mem_map.mp h
    exact ⟨a, ha, rfl, Option.some.inj hr⟩
  · cases (hends.committed sl h).symm.trans hr

/-- A slot without a committed row stands at the end. -/
theorem mem_tail {as : List Attempt} {tail slots : List (Slot StepRow)} {sl : Slot StepRow}
    (hperm : slots.Perm (as.map Attempt.slot ++ tail)) (hsl : sl ∈ slots)
    (hr : sl.committed = none) : sl ∈ tail := by
  rcases List.mem_append.mp (hperm.subset hsl) with h | h
  · obtain ⟨a, ha, rfl⟩ := List.mem_map.mp h
    cases hr
  · exact h

/-! ## The number of attempts -/

/-- The number of committed attempts of the step. -/
def count (runId : Uuid) (stepId : String) (heap : List (Slot StepRow)) : Nat :=
  heap.countP fun sl => sl.committed.any (StepRow.ofStep runId stepId)

/-- One of the slots is that of the latest attempt of the step, demoted by whom
the slots belong to. -/
def Demoting (runId : Uuid) (stepId : String) (own : List (Slot StepRow)) : Prop :=
  ∃ sl ∈ own, ∃ r i x, sl = ⟨some r, some (i, x)⟩ ∧ r.runId = runId ∧ r.stepId = stepId ∧
    r.isLatest = true ∧ x.isLatest = false

theorem count_eq {runId : Uuid} {stepId : String} {heap : List (Slot StepRow)}
    {as : List Attempt} {tail : List (Slot StepRow)}
    (hperm : (slotsOf runId stepId heap).Perm (as.map Attempt.slot ++ tail))
    (hends : Ends as tail) : count runId stepId heap = as.length := by
  have hcommitted : ∀ sl ∈ heap, sl.committed.any (StepRow.ofStep runId stepId) = true →
      about runId stepId sl = true := by
    intro sl _ hsl
    obtain ⟨_ | r, p⟩ := sl
    · cases hsl
    · exact hsl
  have hslots : count runId stepId heap = count runId stepId (slotsOf runId stepId heap) := by
    unfold count slotsOf
    rw [List.countP_filter]
    refine List.countP_congr fun sl hsl => ?_
    simp only [Bool.and_eq_true]
    exact ⟨fun h => ⟨h, hcommitted sl hsl h⟩, And.left⟩
  have has : ∀ sl ∈ as.map Attempt.slot, sl.committed.any (StepRow.ofStep runId stepId) = true := by
    intro sl hsl
    have hmem : sl ∈ slotsOf runId stepId heap :=
      hperm.symm.subset (List.mem_append_left _ hsl)
    obtain ⟨a, _, rfl⟩ := List.mem_map.mp hsl
    exact (List.mem_filter.mp hmem).2
  have htail : ∀ sl ∈ tail, sl.committed.any (StepRow.ofStep runId stepId) = false := by
    intro sl hsl
    rw [hends.committed sl hsl]
    rfl
  rw [hslots, count, hperm.countP_eq, List.countP_append, List.countP_eq_length.mpr has,
    List.countP_eq_zero.mpr (by simpa using htail)]
  simp

/-! ## What the heap operations keep -/

variable {i j : Nat} {heap heap' : List (Slot StepRow)}

/-- Whatever a transaction sees of an attempt is a row of the step. -/
theorem Sorted.seenBy_any (hs : Sorted heap) {sl : Slot StepRow} {r : StepRow} (hsl : sl ∈ heap)
    (hr : sl.committed = some r) (runId : Uuid) (stepId : String) :
    (sl.seenBy j).any (StepRow.ofStep runId stepId) = StepRow.ofStep runId stepId r := by
  obtain ⟨c, _ | ⟨k, x⟩⟩ := sl
  · obtain rfl : c = some r := hr
    rfl
  · obtain rfl : c = some r := hr
    have ham := hs.amends _ hsl r k x rfl rfl
    by_cases hk : k = j <;> simp [Slot.seenBy, hk, StepRow.ofStep, ham.runId, ham.stepId]

/-- The transaction that inserts an attempt of a step has demoted the latest. -/
theorem Sorted.of_new (hs : Sorted heap) {x : StepRow} (hnew : ⟨none, some (j, x)⟩ ∈ heap) :
    x.isLatest = true ∧
      ∀ sl ∈ heap, ∀ r, sl.committed = some r → r.runId = x.runId → r.stepId = x.stepId →
        r.isLatest = true → ∃ y, sl.pending = some (j, y) ∧ y.isLatest = false := by
  obtain ⟨as, tail, hperm, _, hends⟩ := hs.ledger x.runId x.stepId
  have hmem := mem_tail hperm
    (List.mem_filter.mpr ⟨hnew, about_eq_true.mpr ⟨x, .inr ⟨rfl, j, rfl⟩, rfl, rfl⟩⟩) rfl
  cases hends with
  | quiet => cases hmem
  | @inserted k z _ hlatest hall =>
      obtain ⟨rfl, rfl⟩ : j = k ∧ x = z := by simpa using hmem
      refine ⟨hlatest, fun sl hsl r hr hrun hstep hrlatest => ?_⟩
      obtain ⟨a, ha, rfl, rfl⟩ := mem_attempts hperm (.inserted ‹_› hlatest hall)
        (List.mem_filter.mpr ⟨hsl, about_eq_true.mpr ⟨r, .inl hr, hrun, hstep⟩⟩) hr
      exact hall a ha hrlatest

theorem count_write {runId : Uuid} {stepId : String} {before after : List (Slot StepRow)}
    {sl : Slot StepRow} {x : StepRow} :
    count runId stepId (before ++ sl.write j x :: after) =
      count runId stepId (before ++ sl :: after) := by
  simp only [count, List.countP_append, List.countP_cons, Slot.write_committed]
  rfl

theorem count_place {runId : Uuid} {stepId : String} {x : StepRow} :
    count runId stepId (heap ++ [⟨none, some (j, x)⟩]) = count runId stepId heap := by
  simp [count]

theorem count_abort {runId : Uuid} {stepId : String} :
    count runId stepId (heap.map (Slot.abort j)) = count runId stepId heap := by
  rw [count, count, List.countP_map]
  exact List.countP_congr fun sl _ => by simp

theorem count_commit {runId : Uuid} {stepId : String} :
    count runId stepId (heap.map (Slot.commit j)) =
      heap.countP fun sl => (sl.seenBy j).any (StepRow.ofStep runId stepId) := by
  rw [count, List.countP_map]
  exact List.countP_congr fun sl _ => by simp [Slot.commit_committed]

/-- Attempts are never lost. -/
theorem count_le (hs : Sorted heap) (h : Shift j heap heap') (runId : Uuid) (stepId : String) :
    count runId stepId heap ≤ count runId stepId heap' := by
  cases h with
  | none => exact Nat.le_refl _
  | write => rw [count_write]
  | place => rw [count_place]
  | abort => rw [count_abort]
  | commit =>
      rw [count_commit]
      refine List.countP_mono_left fun sl hsl h => ?_
      obtain ⟨_ | r, p⟩ := sl
      · cases h
      · rw [hs.seenBy_any hsl rfl]
        exact h

/-- While a transaction holds the demoted latest attempt of a step, the others
add no attempt to it. -/
theorem count_of_demoting (hs : Sorted heap) (h : Shift j heap heap') {runId : Uuid}
    {stepId : String} (hd : Demoting runId stepId (mine i heap)) (hij : i ≠ j) :
    count runId stepId heap' = count runId stepId heap := by
  cases h with
  | none => rfl
  | write => rw [count_write]
  | place => rw [count_place]
  | abort => rw [count_abort]
  | commit =>
      rw [count_commit]
      refine List.countP_congr fun sl hsl => ?_
      obtain ⟨_ | r, p⟩ := sl
      · -- a new attempt of the transaction `j` would have the latest demoted by `j`
        refine ⟨fun h => ?_, nofun⟩
        exfalso
        obtain ⟨x, hx, hstep⟩ := (Option.any_eq_true _ _).mp h
        obtain rfl : p = some (j, x) := Slot.pending_of_seenBy rfl hx
        obtain ⟨hrun, hid⟩ : x.runId = runId ∧ x.stepId = stepId := by
          simpa [StepRow.ofStep] using hstep
        obtain ⟨_, hall⟩ := hs.of_new hsl
        obtain ⟨sl, hmine, r, k, y, rfl, hrun', hid', hlatest, _⟩ := hd
        obtain ⟨hmem, hheld⟩ := List.mem_filter.mp hmine
        obtain ⟨z, hz, _⟩ :=
          hall _ hmem r rfl (hrun'.trans hrun.symm) (hid'.trans hid.symm) hlatest
        cases hz
        exact hij (of_decide_eq_true hheld).symm
      · rw [hs.seenBy_any hsl rfl]
        rfl

/-! ## Steps of transactions -/

/-- The version `x` of an attempt is written. -/
theorem Sorted.write {before after : List (Slot StepRow)} {sl : Slot StepRow} {r x : StepRow}
    (hs : Sorted (before ++ sl :: after)) (hfree : sl.lockedFor i = false)
    (hr : sl.committed = some r) (hx : Amends r x)
    (hold : ∀ sl' ∈ mine i (before ++ sl :: after), sl'.committed.isSome = true) :
    Sorted (before ++ sl.write i x :: after) := by
  refine ⟨fun sl' hsl' r' k y hr' hy => ?_, fun runId stepId => ?_⟩
  · simp only [List.mem_append, List.mem_cons] at hsl'
    rcases hsl' with h | rfl | h
    · exact hs.amends sl' (by simp [h]) r' k y hr' hy
    · cases hr.symm.trans hr'
      cases hy
      exact hx
    · exact hs.amends sl' (by simp [h]) r' k y hr' hy
  · have hsame : about runId stepId (sl.write i x) = about runId stepId sl :=
      about_congr hr hr rfl rfl
    have hledger := hs.ledger runId stepId
    cases habout : about runId stepId sl with
    | false =>
        simpa [slotsOf, List.filter_append, List.filter_cons, hsame, habout] using hledger
    | true =>
        simp only [slotsOf, List.filter_append, List.filter_cons, hsame, habout, if_true]
          at hledger ⊢
        obtain ⟨as, tail, hperm, hchain, hends⟩ := hledger
        obtain ⟨a, ha, rfl, rfl⟩ := mem_attempts hperm hends (by simp) hr
        obtain ⟨front, back, rfl⟩ := List.append_of_mem ha
        refine ⟨front ++ ⟨a.row, some (i, x)⟩ :: back, tail, ?_, by simpa using hchain, ?_⟩
        · -- the new version takes the place of the old one
          simp only [List.map_append, List.map_cons, List.append_assoc, List.cons_append]
            at hperm ⊢
          have hrest := (List.perm_middle.symm.trans (hperm.trans List.perm_middle)).cons_inv
          exact List.perm_middle.trans ((hrest.cons _).trans List.perm_middle.symm)
        · cases hends with
          | quiet => exact .quiet
          | @inserted k z hnum hlatest hall =>
              refine .inserted (by simpa using hnum) hlatest fun b hb hblatest => ?_
              simp only [List.mem_append, List.mem_cons] at hb
              rcases hb with hb | rfl | hb
              · exact hall b (by simp [hb]) hblatest
              · -- the latest attempt is held by the transaction that inserts the next
                exfalso
                obtain ⟨y, hy, _⟩ := hall a (by simp) hblatest
                obtain rfl : k = i := by simpa [Slot.lockedFor, Attempt.slot, hy] using hfree
                have hnew : (⟨none, some (k, z)⟩ : Slot StepRow) ∈ slotsOf runId stepId
                    (before ++ a.slot :: after) := by
                  simp only [slotsOf, List.filter_append, List.filter_cons, habout, if_true]
                  exact hperm.symm.subset (by simp)
                have := hold _ (List.mem_filter.mpr
                  ⟨(List.mem_filter.mp hnew).1, by simp [Slot.heldBy]⟩)
                cases this
              · exact hall b (by simp [hb]) hblatest

/-- What stays true of the number of a row that is to be inserted. -/
structure Numbered (i : Nat) (x : StepRow) (heap : List (Slot StepRow)) : Prop where
  pos : 1 ≤ x.attemptNumber
  le : x.attemptNumber ≤ count x.runId x.stepId heap + 1
  eq : Demoting x.runId x.stepId (mine i heap) →
    x.attemptNumber = count x.runId x.stepId heap + 1

/-- An attempt that nothing blocks is the only version of the step that claims to
be the latest. -/
theorem demoted_of_not_blocks {a : Attempt} {x : StepRow} (h : ¬ a.slot.Blocks i x)
    (ham : ∀ k y, a.pending = some (k, y) → Amends a.row y) (hrun : a.row.runId = x.runId)
    (hstep : a.row.stepId = x.stepId) (hx : x.isLatest = true) (hlatest : a.row.isLatest = true) :
    ∃ y, a.pending = some (i, y) ∧ y.isLatest = false := by
  obtain ⟨row, _ | ⟨k, y⟩⟩ := a
  · exact absurd (.inl ⟨row, rfl, .inr ⟨hlatest, hx, hrun, hstep⟩⟩) h
  · by_cases hk : k = i
    · subst hk
      refine ⟨y, rfl, Bool.eq_false_of_not_eq_true fun hy => h (.inl ⟨y, ?_, ?_⟩)⟩
      · simp [Slot.seenBy, Attempt.slot]
      · have := ham k y rfl
        exact .inr ⟨hy, hx, this.runId.trans hrun, this.stepId.trans hstep⟩
    · refine absurd (.inl ⟨row, ?_, .inr ⟨hlatest, hx, hrun, hstep⟩⟩) h
      simp [Slot.seenBy, Attempt.slot, hk]

/-- In a chain that is not empty there is a latest attempt. -/
theorem Chain.exists_latest {as : List Attempt} (h : Chain (as.map Attempt.row)) (hne : as ≠ []) :
    ∃ a ∈ as, a.row.isLatest = true := by
  have hone := h.countP (by simpa using hne)
  obtain ⟨r, hr, hlatest⟩ := List.countP_pos_iff.mp (by rw [hone]; exact Nat.one_pos)
  obtain ⟨a, ha, rfl⟩ := List.mem_map.mp hr
  exact ⟨a, ha, hlatest⟩

/-- A new attempt enters the indexes. -/
theorem Sorted.place (hs : Sorted heap) {x : StepRow} (hx : x.isLatest = true)
    (hnum : Numbered i x heap) (hfree : ∀ sl ∈ heap, ¬ sl.Blocks i x) :
    Sorted (heap ++ [⟨none, some (i, x)⟩]) := by
  refine ⟨fun sl hsl r k y hr hy => ?_, fun runId stepId => ?_⟩
  · rcases List.mem_append.mp hsl with h | h
    · exact hs.amends sl h r k y hr hy
    · rw [List.mem_singleton.mp h] at hr
      cases hr
  · have hledger := hs.ledger runId stepId
    cases habout : about runId stepId (⟨none, some (i, x)⟩ : Slot StepRow) with
    | false => simpa [slotsOf, List.filter_append, habout] using hledger
    | true =>
        obtain ⟨rfl, rfl⟩ : x.runId = runId ∧ x.stepId = stepId := by
          simpa [about, StepRow.ofStep] using habout
        obtain ⟨as, tail, hperm, hchain, hends⟩ := hledger
        have hcount := count_eq hperm hends
        have hmem : ∀ sl, sl ∈ as.map Attempt.slot ++ tail →
            sl ∈ heap ∧ about x.runId x.stepId sl = true :=
          fun sl hsl => List.mem_filter.mp (hperm.symm.subset hsl)
        cases hends with
        | @inserted k z _ hlatest _ =>
            -- another new attempt would be in the way
            exfalso
            obtain ⟨hin, hstep⟩ := hmem ⟨none, some (k, z)⟩ (by simp)
            have hclash : Row.Clash z x := by
              obtain ⟨hzrun, hzstep⟩ : z.runId = x.runId ∧ z.stepId = x.stepId := by
                simpa [about, StepRow.ofStep] using hstep
              exact .inr ⟨hlatest, hx, hzrun, hzstep⟩
            by_cases hk : k = i
            · exact hfree _ hin (.inl ⟨z, by simp [Slot.seenBy, hk], hclash⟩)
            · exact hfree _ hin (.inr ⟨k, z, rfl, hk, hclash⟩)
        | quiet =>
            have hdemoted : ∀ a ∈ as, a.row.isLatest = true →
                ∃ y, a.pending = some (i, y) ∧ y.isLatest = false := by
              intro a ha hlatest
              obtain ⟨hin, hstep⟩ := hmem a.slot (by simpa using ⟨a, ha, rfl⟩)
              obtain ⟨harun, hastep⟩ : a.row.runId = x.runId ∧ a.row.stepId = x.stepId := by
                simpa [about, StepRow.ofStep, Attempt.slot] using hstep
              exact demoted_of_not_blocks (hfree _ hin)
                (fun k y hy => hs.amends _ hin _ k y rfl hy) harun hastep hx hlatest
            have hnext : x.attemptNumber = (as.length : Int) + 1 := by
              by_cases hne : as = []
              · subst hne
                have hpos := hnum.pos
                have hle := hnum.le
                simp only [hcount, List.length_nil] at hle ⊢
                omega
              · obtain ⟨a, ha, hlatest⟩ := hchain.exists_latest hne
                obtain ⟨y, hy, hylatest⟩ := hdemoted a ha hlatest
                obtain ⟨hin, hstep⟩ := hmem a.slot (by simpa using ⟨a, ha, rfl⟩)
                obtain ⟨harun, hastep⟩ : a.row.runId = x.runId ∧ a.row.stepId = x.stepId := by
                  simpa [about, StepRow.ofStep, Attempt.slot] using hstep
                have hown : a.slot ∈ mine i heap :=
                  List.mem_filter.mpr ⟨hin, by simp [Slot.heldBy, Attempt.slot, hy]⟩
                rw [← hcount]
                exact hnum.eq ⟨a.slot, hown, a.row, i, y, by rw [Attempt.slot, hy], harun, hastep,
                  hlatest, hylatest⟩
            refine ⟨as, [⟨none, some (i, x)⟩], ?_, hchain, .inserted hnext hx hdemoted⟩
            have hslots : slotsOf x.runId x.stepId (heap ++ [⟨none, some (i, x)⟩]) =
                slotsOf x.runId x.stepId heap ++ [⟨none, some (i, x)⟩] := by
              simp [slotsOf, List.filter_append, habout]
            rw [hslots]
            rw [List.append_nil] at hperm
            exact hperm.append_right _

/-! ## The end of a transaction -/

/-- The attempt after the commit of the transaction `i`. -/
def Attempt.commit (i : Nat) (a : Attempt) : Attempt :=
  match a.pending with
  | some (j, x) => if j = i then ⟨x, none⟩ else a
  | none => a

/-- The attempt after the end of the transaction `i` without a commit. -/
def Attempt.abort (i : Nat) (a : Attempt) : Attempt :=
  match a.pending with
  | some (j, _) => if j = i then ⟨a.row, none⟩ else a
  | none => a

theorem Attempt.slot_commit (i : Nat) (a : Attempt) : (a.commit i).slot = a.slot.commit i := by
  obtain ⟨r, _ | ⟨j, x⟩⟩ := a
  · rfl
  · by_cases hj : j = i <;> simp [Attempt.commit, Attempt.slot, Slot.commit, hj]

theorem Attempt.slot_abort (i : Nat) (a : Attempt) : (a.abort i).slot = a.slot.abort i := by
  obtain ⟨r, _ | ⟨j, x⟩⟩ := a
  · rfl
  · by_cases hj : j = i <;> simp [Attempt.abort, Attempt.slot, Slot.abort, Slot.heldBy, hj]

@[simp] theorem Attempt.row_abort (i : Nat) (a : Attempt) : (a.abort i).row = a.row := by
  obtain ⟨r, _ | ⟨j, x⟩⟩ := a
  · rfl
  · by_cases hj : j = i <;> simp [Attempt.abort, hj]

theorem about_abort {sl : Slot StepRow} {runId : Uuid} {stepId : String}
    (h : about runId stepId (sl.abort i) = true) : about runId stepId sl = true := by
  obtain ⟨r, hr | ⟨hr, k, hk⟩, hstep⟩ := about_eq_true.mp h
  · exact about_eq_true.mpr ⟨r, .inl (by simpa using hr), hstep⟩
  · exact about_eq_true.mpr
      ⟨r, .inr ⟨by simpa using hr, k, (Slot.pending_of_abort hk).1⟩, hstep⟩

theorem Sorted.abort (hs : Sorted heap) (i : Nat) : Sorted (heap.map (Slot.abort i)) := by
  refine ⟨fun sl hsl r k y hr hy => ?_, fun runId stepId => ?_⟩
  · obtain ⟨old, hold, rfl⟩ := List.mem_map.mp hsl
    exact hs.amends old hold r k y (by simpa using hr) (Slot.pending_of_abort hy).1
  · obtain ⟨as, tail, hperm, hchain, hends⟩ := hs.ledger runId stepId
    have hslots : slotsOf runId stepId (heap.map (Slot.abort i)) =
        ((slotsOf runId stepId heap).map (Slot.abort i)).filter (about runId stepId) := by
      simp only [slotsOf, List.filter_map, List.filter_filter]
      congr 1
      refine List.filter_congr fun sl _ => ?_
      cases h : about runId stepId (sl.abort i) with
      | true => simp [h, about_abort h]
      | false => simp [h]
    have habout : ∀ sl ∈ as.map Attempt.slot ++ tail, about runId stepId sl = true :=
      fun sl hsl => (List.mem_filter.mp (hperm.symm.subset hsl)).2
    -- the attempts stay, and the new one goes if it belongs to `i`
    refine ⟨as.map (Attempt.abort i), (tail.map (Slot.abort i)).filter (about runId stepId), ?_,
      by simpa [Function.comp_def] using hchain, ?_⟩
    · have hkept : ((as.map Attempt.slot).map (Slot.abort i)).filter (about runId stepId) =
          (as.map (Attempt.abort i)).map Attempt.slot := by
        rw [List.filter_eq_self.mpr]
        · simp [Function.comp_def, Attempt.slot_abort]
        · intro sl hsl
          obtain ⟨old, hold, rfl⟩ := List.mem_map.mp hsl
          obtain ⟨a, ha, rfl⟩ := List.mem_map.mp hold
          have hrow : (a.slot.abort i).committed = some a.row := by
            rw [Slot.abort_committed]
            rfl
          have hslot : a.slot.committed = some a.row := rfl
          rw [about_congr hslot hrow rfl rfl]
          exact habout _ (List.mem_append_left _ hold)
      rw [hslots, ← hkept, ← List.filter_append, ← List.map_append]
      exact (hperm.map _).filter _
    · cases hends with
      | quiet => exact .quiet
      | @inserted k z hnum hlatest hall =>
          by_cases hk : k = i
          · have hgone : (⟨none, some (k, z)⟩ : Slot StepRow).abort i = ⟨none, none⟩ :=
              Slot.abort_of_heldBy (by simp [Slot.heldBy, hk])
            simpa [hgone, about] using Ends.quiet
          · have hstays : (⟨none, some (k, z)⟩ : Slot StepRow).abort i = ⟨none, some (k, z)⟩ :=
              Slot.abort_of_not_heldBy (by simp [Slot.heldBy, hk])
            rw [List.map_singleton, hstays, List.filter_eq_self.mpr (by simpa using habout _ (by simp))]
            refine .inserted (by simpa using hnum) hlatest fun b hb hblatest => ?_
            obtain ⟨a, ha, rfl⟩ := List.mem_map.mp hb
            obtain ⟨y, hy, hylatest⟩ := hall a ha (by simpa using hblatest)
            exact ⟨y, by simp [Attempt.abort, hy, hk], hylatest⟩

/-- Where the transaction `i` has demoted the latest attempt it has a new one. -/
def Settled (i : Nat) (heap : List (Slot StepRow)) : Prop :=
  ∀ sl ∈ heap, ∀ r x, sl.committed = some r → sl.pending = some (i, x) →
    x.isLatest = r.isLatest ∨
      ∃ z, ⟨none, some (i, z)⟩ ∈ heap ∧ z.runId = r.runId ∧ z.stepId = r.stepId

theorem about_commit (hs : Sorted heap) {sl : Slot StepRow} (hsl : sl ∈ heap) (i : Nat)
    (runId : Uuid) (stepId : String) :
    about runId stepId (sl.commit i) = about runId stepId sl := by
  cases hi : sl.heldBy i with
  | false => rw [Slot.commit_of_not_heldBy hi]
  | true =>
      obtain ⟨x, hx⟩ := Slot.heldBy_iff.mp hi
      rw [Slot.commit_of_heldBy hx]
      obtain ⟨_ | r, p⟩ := sl
      · obtain rfl : p = some (i, x) := hx
        rfl
      · have ham := hs.amends _ hsl r i x rfl hx
        have hslot : (⟨some r, p⟩ : Slot StepRow).committed = some r := rfl
        exact about_congr hslot rfl ham.runId ham.stepId

/-- What the commit of the transaction `i` makes of an attempt. -/
theorem Attempt.commit_row {a : Attempt} (ham : ∀ k y, a.pending = some (k, y) → Amends a.row y)
    (i : Nat) : (a.commit i).row.attemptNumber = a.row.attemptNumber ∧
      ((a.commit i).row.isLatest = true → a.row.isLatest = true) := by
  obtain ⟨r, _ | ⟨j, x⟩⟩ := a
  · exact ⟨rfl, id⟩
  · have := ham j x rfl
    by_cases hj : j = i
    · simpa [Attempt.commit, hj] using ⟨this.attemptNumber, this.isLatest⟩
    · simp [Attempt.commit, hj]

theorem Sorted.commit (hs : Sorted heap) (hsettled : Settled i heap) :
    Sorted (heap.map (Slot.commit i)) := by
  refine ⟨fun sl hsl r k y hr hy => ?_, fun runId stepId => ?_⟩
  · obtain ⟨old, hold, rfl⟩ := List.mem_map.mp hsl
    obtain ⟨hy', hk⟩ := Slot.pending_of_commit hy
    rw [Slot.commit_of_not_heldBy (by simp [Slot.heldBy, hy', hk])] at hr
    exact hs.amends old hold r k y hr hy'
  · obtain ⟨as, tail, hperm, hchain, hends⟩ := hs.ledger runId stepId
    have hslots : slotsOf runId stepId (heap.map (Slot.commit i)) =
        (slotsOf runId stepId heap).map (Slot.commit i) := by
      simp only [slotsOf, List.filter_map]
      exact congrArg _ (List.filter_congr fun sl hsl => about_commit hs hsl i runId stepId)
    have hperm' : (slotsOf runId stepId (heap.map (Slot.commit i))).Perm
        ((as.map (Attempt.commit i)).map Attempt.slot ++ tail.map (Slot.commit i)) := by
      rw [hslots]
      simpa [Function.comp_def, Attempt.slot_commit] using hperm.map (Slot.commit i)
    have hmem : ∀ sl, sl ∈ as.map Attempt.slot ++ tail →
        sl ∈ heap ∧ about runId stepId sl = true :=
      fun sl hsl => List.mem_filter.mp (hperm.symm.subset hsl)
    have ham : ∀ a ∈ as, ∀ k y, a.pending = some (k, y) → Amends a.row y := fun a ha k y hy =>
      hs.amends _ (hmem a.slot (List.mem_append_left _ (List.mem_map_of_mem ha))).1 _ k y rfl hy
    -- without a new attempt of `i` its versions keep the flags
    have hkept : (∀ z, (⟨none, some (i, z)⟩ : Slot StepRow) ∉ tail) →
        Chain ((as.map (Attempt.commit i)).map Attempt.row) := by
      intro hno
      rw [List.map_map]
      refine hchain.map fun a ha => ⟨(Attempt.commit_row (ham a ha) i).1, ?_⟩
      obtain ⟨hin, habout⟩ := hmem a.slot (List.mem_append_left _ (List.mem_map_of_mem ha))
      obtain ⟨r, _ | ⟨j, x⟩⟩ := a
      · rfl
      · by_cases hj : j = i
        · subst hj
          rcases hsettled _ hin r x rfl rfl with hlatest | ⟨z, hz, hrun, hstep⟩
          · simpa [Attempt.commit] using hlatest
          · -- the new attempt would stand at the end
            refine absurd (mem_tail hperm (List.mem_filter.mpr ⟨hz, ?_⟩) rfl) (hno z)
            obtain ⟨hrun', hstep'⟩ : r.runId = runId ∧ r.stepId = stepId := by
              simpa [about, StepRow.ofStep, Attempt.slot] using habout
            simp [about, StepRow.ofStep, hrun, hstep, hrun', hstep']
        · simp [Attempt.commit, hj]
    cases hends with
    | quiet => exact ⟨as.map (Attempt.commit i), [], hperm', hkept (by simp), .quiet⟩
    | @inserted k z hnum hlatest hall =>
        by_cases hk : k = i
        · -- the new attempt becomes the latest
          subst hk
          refine ⟨as.map (Attempt.commit k) ++ [⟨z, none⟩], [], ?_, ?_, .quiet⟩
          · simpa [Slot.commit, Attempt.slot] using hperm'
          · rw [List.map_append, List.map_map]
            refine hchain.snoc (fun a ha => ⟨(Attempt.commit_row (ham a ha) k).1, ?_⟩) hnum hlatest
            refine Bool.eq_false_of_not_eq_true fun htrue => ?_
            obtain ⟨y, hy, hylatest⟩ := hall a ha ((Attempt.commit_row (ham a ha) k).2 htrue)
            simp [Attempt.commit, hy, hylatest] at htrue
        · have hstays : (⟨none, some (k, z)⟩ : Slot StepRow).commit i = ⟨none, some (k, z)⟩ :=
            Slot.commit_of_not_heldBy (by simp [Slot.heldBy, hk])
          rw [List.map_singleton, hstays] at hperm'
          refine ⟨_, _, hperm', hkept ?_, .inserted (by simpa using hnum) hlatest ?_⟩
          · intro w hw
            have := List.mem_singleton.mp hw
            simp only [Slot.mk.injEq, Option.some.injEq, Prod.mk.injEq, true_and] at this
            exact hk this.1.symm
          · intro b hb hblatest
            obtain ⟨a, ha, rfl⟩ := List.mem_map.mp hb
            obtain ⟨y, hy, hylatest⟩ :=
              hall a ha ((Attempt.commit_row (ham a ha) i).2 hblatest)
            exact ⟨y, by simp [Attempt.commit, hy, hk], hylatest⟩

/-! ## The next number -/

theorem foldl_max_eq {l : List Int} {a n : Int} (ha : a ≤ n) (hle : ∀ m ∈ l, m ≤ n)
    (h : a = n ∨ n ∈ l) : l.foldl max a = n := by
  induction l generalizing a with
  | nil => simpa using h
  | cons m l ih =>
      have hm : m ≤ n := hle m List.mem_cons_self
      refine ih (a := max a m) (by omega) (fun x hx => hle x (List.mem_cons_of_mem _ hx)) ?_
      rcases h with rfl | h
      · exact .inl (by omega)
      · rcases List.mem_cons.mp h with rfl | h
        · exact .inl (by omega)
        · exact .inr h

/-- A transaction without new attempts of its own sees the attempts of a step
under their numbers. -/
theorem nextAttempt_view (hs : Sorted heap)
    (hold : ∀ sl ∈ mine i heap, sl.committed.isSome = true) (runId : Uuid) (stepId : String) :
    nextAttempt (heap.filterMap (Slot.seenBy i)) runId stepId = count runId stepId heap + 1 := by
  obtain ⟨as, tail, hperm, hchain, hends⟩ := hs.ledger runId stepId
  have hnumber : ∀ a ∈ as, ∀ x, a.slot.seenBy i = some x →
      x.attemptNumber = a.row.attemptNumber ∧ a.slot ∈ heap ∧
        StepRow.ofStep runId stepId a.row = true := by
    intro a ha x hx
    obtain ⟨hin, habout⟩ := List.mem_filter.mp
      (hperm.symm.subset (List.mem_append_left _ (List.mem_map_of_mem ha)))
    refine ⟨?_, hin, habout⟩
    obtain ⟨r, _ | ⟨k, y⟩⟩ := a
    · obtain rfl : r = x := by simpa [Slot.seenBy, Attempt.slot] using hx
      rfl
    · by_cases hk : k = i
      · obtain rfl : y = x := by simpa [Slot.seenBy, Attempt.slot, hk] using hx
        exact (hs.amends _ hin r k y rfl rfl).attemptNumber
      · obtain rfl : r = x := by simpa [Slot.seenBy, Attempt.slot, hk] using hx
        rfl
  have hindex : ∀ a ∈ as, a.row.attemptNumber ≤ as.length := by
    intro a ha
    obtain ⟨n, hn⟩ := List.mem_iff_getElem?.mp ha
    have hnum := (hchain n a.row (by simp [hn])).1
    have hlt := (List.getElem?_eq_some_iff.mp hn).1
    omega
  rw [nextAttempt, count_eq hperm hends]
  congr 1
  refine foldl_max_eq (by simp) ?_ ?_
  · intro m hm
    obtain ⟨x, hx, rfl⟩ := List.mem_map.mp hm
    obtain ⟨hview, hstep⟩ := List.mem_filter.mp hx
    obtain ⟨sl, hsl, hseen⟩ := List.mem_filterMap.mp hview
    obtain ⟨r, hr⟩ : ∃ r, sl.committed = some r := by
      cases hc : sl.committed with
      | some r => exact ⟨r, rfl⟩
      | none =>
          have hown : sl ∈ mine i heap :=
            List.mem_filter.mpr ⟨hsl, Slot.heldBy_iff.mpr ⟨x, Slot.pending_of_seenBy hc hseen⟩⟩
          have := hold sl hown
          rw [hc] at this
          cases this
    have habout : about runId stepId sl = true := by
      have := hs.seenBy_any (j := i) hsl hr runId stepId
      rw [hseen] at this
      simpa [about, hr] using this.symm.trans hstep
    obtain ⟨a, ha, rfl, rfl⟩ := mem_attempts hperm hends (List.mem_filter.mpr ⟨hsl, habout⟩) hr
    rw [(hnumber a ha x hseen).1]
    exact hindex a ha
  · by_cases hne : as = []
    · exact .inl (by simp [hne])
    · refine .inr ?_
      obtain ⟨a, ha, hlatest⟩ := hchain.exists_latest hne
      obtain ⟨x, hx⟩ : ∃ x, a.slot.seenBy i = some x := by
        obtain ⟨r, _ | ⟨k, y⟩⟩ := a
        · exact ⟨r, rfl⟩
        · by_cases hk : k = i <;> simp [Slot.seenBy, Attempt.slot, hk]
      obtain ⟨hnum, hin, hstep⟩ := hnumber a ha x hx
      refine List.mem_map.mpr ⟨x, List.mem_filter.mpr ⟨?_, ?_⟩, ?_⟩
      · exact List.mem_filterMap.mpr ⟨a.slot, hin, hx⟩
      · have hslot : a.slot.committed = some a.row := rfl
        have := hs.seenBy_any (j := i) hin hslot runId stepId
        rw [hx] at this
        exact this.trans hstep
      · rw [hnum, (hchain.latest (List.mem_map_of_mem ha)).mp hlatest, List.length_map]

/-! ## The code of a transaction -/

/-- The slot holds a version of an attempt that keeps its flag. -/
def Keeping (sl : Slot StepRow) : Prop :=
  ∃ r k x, sl = ⟨some r, some (k, x)⟩ ∧ x.isLatest = r.isLatest

/-- What a transaction has done so far. -/
inductive Phase where
  /-- It has written attempts, and has neither demoted nor inserted one. -/
  | kept
  /-- It may have demoted the latest attempt of the step. -/
  | demoted (runId : Uuid) (stepId : String)
  /-- It has also inserted the next attempt of the step. -/
  | replaced (runId : Uuid) (stepId : String)

/-- What the slots of a transaction look like. -/
def Phase.Holds : Phase → List (Slot StepRow) → Prop
  | .kept, own => ∀ sl ∈ own, Keeping sl
  | .demoted runId stepId, own =>
      ∀ sl ∈ own, sl.committed.isSome = true ∧ (Keeping sl ∨ about runId stepId sl = true)
  | .replaced runId stepId, own =>
      (∀ sl ∈ own, Keeping sl ∨ about runId stepId sl = true) ∧
        ∃ sl ∈ own, sl.committed = none ∧ about runId stepId sl = true

/-- The `UPDATE`s of the code, and what they lead to. -/
inductive Writes : Phase → (StepRow → Bool) → (StepRow → StepRow) → Prop where
  | keep {p f} : (∀ r, (f r).runId = r.runId ∧ (f r).stepId = r.stepId ∧
      (f r).attemptNumber = r.attemptNumber ∧ (f r).isLatest = r.isLatest) → Writes .kept p f
  | demote {runId stepId} :
      Writes (.demoted runId stepId) (StepRow.isLatestOf runId stepId) StepRow.demote

/-- The code demotes the latest attempt of one step at most, and does not return
before it has inserted the next one. -/
inductive Safe {α : Type} : Phase → StepCode α → Prop where
  | kept {a} : Safe .kept (.ret a)
  | replaced {runId stepId a} : Safe (.replaced runId stepId) (.ret a)
  | fail {ph x} : Safe ph (.fail x)
  | look {ph k} : (∀ w, Safe ph (k w)) → Safe ph (.call .look k)
  | select {ph own p k} : (∀ a, Safe ph (k a)) → Safe ph (.call (.select own p) k)
  | update {ph p f k} : Writes ph p f → (∀ n, Safe ph (k n)) → Safe .kept (.call (.update p f) k)
  | insert {step now k} : (∀ a, Safe (.replaced step.runId step.stepId) (k a)) →
      Safe (.demoted step.runId step.stepId) (.call (.insert (NewStep.compute step now)) k)

/-- What is known of a transaction at work. -/
inductive Tracked {α : Type} (i : Nat) (heap : List (Slot StepRow)) :
    Tx Surroundings StepRow StoreError α → Prop where
  | idle {ph code} : Safe ph code → ph.Holds (mine i heap) → Tracked i heap ⟨code, .idle⟩
  | updating {ph p f k targets hits} : Writes ph p f → (∀ n, Safe ph (k n)) →
      ph.Holds (mine i heap) →
      Tracked i heap ⟨.call (.update p f) k, .updating targets hits⟩
  | inserting {mk k x} : (∀ a, Safe (.replaced x.runId x.stepId) (k a)) →
      (Phase.demoted x.runId x.stepId).Holds (mine i heap) → x.isLatest = true →
      Numbered i x heap → Tracked i heap ⟨.call (.insert mk) k, .inserting x⟩

/-- A transaction that has not inserted holds attempts only. -/
theorem Writes.committed {ph : Phase} {p : StepRow → Bool} {f : StepRow → StepRow}
    {own : List (Slot StepRow)} (hw : Writes ph p f) (h : ph.Holds own) :
    ∀ sl ∈ own, sl.committed.isSome = true := by
  intro sl hsl
  cases hw with
  | keep _ =>
      obtain ⟨r, k, x, rfl, _⟩ := h sl hsl
      rfl
  | demote => exact (h sl hsl).1

/-- What held before an `UPDATE` of a transaction holds when it has begun. -/
theorem Writes.begins {ph : Phase} {p : StepRow → Bool} {f : StepRow → StepRow}
    {own : List (Slot StepRow)} (hw : Writes ph p f) (h : Phase.kept.Holds own) :
    ph.Holds own := by
  cases hw with
  | keep _ => exact h
  | demote =>
      intro sl hsl
      obtain ⟨r, k, x, rfl, hkeep⟩ := h sl hsl
      exact ⟨rfl, .inl ⟨r, k, x, rfl, hkeep⟩⟩

theorem Amends.refl (r : StepRow) : Amends r r := ⟨rfl, rfl, rfl, id⟩

/-- The version that an `UPDATE` of the transaction writes. -/
theorem Writes.amends {ph : Phase} {p : StepRow → Bool} {f : StepRow → StepRow} {r v : StepRow}
    (hw : Writes ph p f) (h : Amends r v) : Amends r (f v) := by
  cases hw with
  | keep hf =>
      obtain ⟨h1, h2, h3, h4⟩ := hf v
      exact ⟨h1.trans h.runId, h2.trans h.stepId, h3.trans h.attemptNumber,
        fun hl => h.isLatest (h4.symm.trans hl)⟩
  | demote => exact ⟨h.runId, h.stepId, h.attemptNumber, nofun⟩

/-- The row that an `UPDATE` of the transaction `i` finds is a version of a
committed attempt. -/
theorem Sorted.found (hs : Sorted heap) {sl : Slot StepRow} {v : StepRow} (hsl : sl ∈ heap)
    (hold : ∀ sl ∈ mine i heap, sl.committed.isSome = true) (hfree : sl.lockedFor i = false)
    (hv : sl.seenBy i = some v) :
    ∃ r, sl.committed = some r ∧ Amends r v ∧
      (sl.pending = none ∧ v = r ∨ sl.pending = some (i, v)) := by
  rcases Slot.seenBy_of_not_lockedFor hfree with ⟨hp, hseen⟩ | ⟨x, hp, hseen⟩
  · exact ⟨v, hseen.symm.trans hv, .refl v, .inl ⟨hp, rfl⟩⟩
  · obtain rfl : x = v := Option.some.inj (hseen.symm.trans hv)
    have := hold sl (List.mem_filter.mpr ⟨hsl, Slot.heldBy_iff.mpr ⟨x, hp⟩⟩)
    obtain ⟨r, hr⟩ := Option.isSome_iff_exists.mp this
    exact ⟨r, hr, hs.amends sl hsl r i x hr hp, .inr hp⟩

theorem mem_mine_write {before after : List (Slot StepRow)} {sl sl' : Slot StepRow} {x : StepRow}
    (h : sl' ∈ mine i (before ++ sl.write i x :: after)) :
    sl' = sl.write i x ∨ sl' ∈ mine i (before ++ sl :: after) := by
  obtain ⟨hmem, hheld⟩ := List.mem_filter.mp h
  simp only [List.mem_append, List.mem_cons] at hmem
  rcases hmem with hmem | rfl | hmem
  · exact .inr (List.mem_filter.mpr ⟨by simp [hmem], hheld⟩)
  · exact .inl rfl
  · exact .inr (List.mem_filter.mpr ⟨by simp [hmem], hheld⟩)

/-- What the slots of the transaction look like after it has written a row. -/
theorem Writes.holds {ph : Phase} {p : StepRow → Bool} {f : StepRow → StepRow} {r v : StepRow}
    {before after : List (Slot StepRow)} {sl : Slot StepRow} (hw : Writes ph p f)
    (h : ph.Holds (mine i (before ++ sl :: after))) (hr : sl.committed = some r)
    (ham : Amends r v) (hv : sl.pending = none ∧ v = r ∨ sl.pending = some (i, v))
    (hp : p v = true) : ph.Holds (mine i (before ++ sl.write i (f v) :: after)) := by
  cases hw with
  | keep hf =>
      intro sl' hsl'
      rcases mem_mine_write hsl' with rfl | hold
      · refine ⟨r, i, f v, by rw [Slot.write, hr], (hf v).2.2.2.trans ?_⟩
        rcases hv with ⟨_, rfl⟩ | hv
        · rfl
        · have hmem : sl ∈ mine i (before ++ sl :: after) :=
            List.mem_filter.mpr ⟨by simp, Slot.heldBy_iff.mpr ⟨v, hv⟩⟩
          obtain ⟨r', k, x, rfl, hkeep⟩ := h sl hmem
          cases hr
          cases hv
          exact hkeep
      · exact h sl' hold
  | @demote runId stepId =>
      intro sl' hsl'
      rcases mem_mine_write hsl' with rfl | hold
      · obtain ⟨⟨hrun, hstep⟩, _⟩ : (v.runId = runId ∧ v.stepId = stepId) ∧ v.isLatest = true := by
          simpa [StepRow.isLatestOf] using hp
        exact ⟨by simp [hr], .inr (about_eq_true.mpr
          ⟨r, .inl hr, ham.runId.symm.trans hrun, ham.stepId.symm.trans hstep⟩)⟩
      · exact h sl' hold

/-- When the code returns, what is demoted is replaced. -/
theorem Safe.settled {α : Type} {ph : Phase} {a : α} (h : Safe ph (.ret a))
    (hh : ph.Holds (mine i heap)) : Settled i heap := by
  intro sl hsl r x hr hx
  have hmem : sl ∈ mine i heap := List.mem_filter.mpr ⟨hsl, Slot.heldBy_iff.mpr ⟨x, hx⟩⟩
  have hkeep : Keeping sl → x.isLatest = r.isLatest := by
    rintro ⟨r', k, x', rfl, hkeep⟩
    cases hr
    cases hx
    exact hkeep
  cases h with
  | kept => exact .inl (hkeep (hh sl hmem))
  | @replaced runId stepId a =>
      obtain ⟨hall, new, hnew, hnone, hnewabout⟩ := hh
      rcases hall sl hmem with h | habout
      · exact .inl (hkeep h)
      · obtain ⟨hin, hheld⟩ := List.mem_filter.mp hnew
        obtain ⟨z, hz⟩ := Slot.heldBy_iff.mp hheld
        obtain ⟨c, p⟩ := new
        obtain rfl : c = none := hnone
        obtain rfl : p = some (i, z) := hz
        refine .inr ⟨z, hin, ?_⟩
        have hz' : z.runId = runId ∧ z.stepId = stepId := by
          simpa [about, StepRow.ofStep] using hnewabout
        have hr' : r.runId = runId ∧ r.stepId = stepId := by
          simpa [about, StepRow.ofStep, hr] using habout
        exact ⟨hz'.1.trans hr'.1.symm, hz'.2.trans hr'.2.symm⟩

/-- A transaction that has demoted an attempt inserts the next. -/
theorem holds_replaced {runId : Uuid} {stepId : String} {x : StepRow}
    (h : (Phase.demoted runId stepId).Holds (mine i heap)) (hrun : x.runId = runId)
    (hstep : x.stepId = stepId) :
    (Phase.replaced runId stepId).Holds (mine i (heap ++ [⟨none, some (i, x)⟩])) := by
  have habout : about runId stepId (⟨none, some (i, x)⟩ : Slot StepRow) = true := by
    simp [about, StepRow.ofStep, hrun, hstep]
  have hmine : mine i (heap ++ [⟨none, some (i, x)⟩]) = mine i heap ++ [⟨none, some (i, x)⟩] := by
    simp [mine, Slot.heldBy]
  rw [hmine]
  refine ⟨fun sl hsl => ?_, ⟨none, some (i, x)⟩, by simp, rfl, habout⟩
  rcases List.mem_append.mp hsl with hsl | hsl
  · exact (h sl hsl).2
  · rw [List.mem_singleton.mp hsl]
    exact .inr habout

/-- The steps of the other transactions change nothing that is known of one. -/
theorem Tracked.stable {α : Type} {tx : Tx Surroundings StepRow StoreError α} (hs : Sorted heap)
    (h : Shift j heap heap') (hij : i ≠ j) (ht : Tracked i heap tx) : Tracked i heap' tx := by
  have hmine := h.mine hij
  cases ht with
  | idle hsafe hh => exact .idle hsafe (hmine ▸ hh)
  | updating hw hsafe hh => exact .updating hw hsafe (hmine ▸ hh)
  | @inserting mk k x hsafe hh hx hnum =>
      refine .inserting hsafe (hmine ▸ hh) hx ⟨hnum.pos, ?_, fun hd => ?_⟩
      · have := count_le hs h x.runId x.stepId
        have := hnum.le
        omega
      · rw [hmine] at hd
        rw [count_of_demoting hs h hd hij]
        exact hnum.eq hd

/-! ## Runs -/

section Runs
variable {α : Type} {serves : StepCode α → Prop} {s s' : State Surroundings StepRow StoreError α}

/-- The invariant of the table and the transactions at work on it. -/
structure Sound (s : State Surroundings StepRow StoreError α) : Prop where
  sorted : Sorted s.heap
  owned : s.Owned
  tracked : ∀ i tx, s.txs i = some tx → Tracked i s.heap tx

/-- What is left to show of a step of the transaction `i`. -/
theorem Sound.next (hs : Sound s) (howned : s'.Owned) (hshift : Shift i s.heap s'.heap)
    (hother : ∀ j, j ≠ i → s'.txs j = s.txs j) (hsorted : Sorted s'.heap)
    (hown : ∀ tx, s'.txs i = some tx → Tracked i s'.heap tx) : Sound s' := by
  refine ⟨hsorted, howned, fun j tx htx => ?_⟩
  by_cases hj : j = i
  · subst hj
    exact hown tx htx
  · rw [hother j hj] at htx
    exact (hs.tracked j tx htx).stable hs.sorted hshift hj

/-- A step that leaves the heap alone. -/
theorem Sound.put (hs : Sound s) {tx : Tx Surroundings StepRow StoreError α}
    (howned : (s.put i tx).Owned) (h : Tracked i s.heap tx) : Sound (s.put i tx) := by
  refine hs.next howned .none (fun j hj => Function.update_of_ne hj _ _) hs.sorted ?_
  intro tx' htx
  obtain rfl : tx = tx' := by simpa [State.put] using htx
  exact h

/-- A step that writes. -/
theorem Sound.putHeap (hs : Sound s) {tx : Tx Surroundings StepRow StoreError α}
    (howned : (s.putHeap i tx heap).Owned) (hshift : Shift i s.heap heap) (hsorted : Sorted heap)
    (h : Tracked i heap tx) : Sound (s.putHeap i tx heap) := by
  refine hs.next howned hshift (fun j hj => Function.update_of_ne hj _ _) hsorted ?_
  intro tx' htx
  obtain rfl : tx = tx' := by simpa [State.putHeap] using htx
  exact h

/-- The end of a transaction. -/
theorem Sound.close (hs : Sound s) {end_ : Slot StepRow → Slot StepRow}
    (howned : (s.close i end_).Owned) (hshift : Shift i s.heap (s.heap.map end_))
    (hsorted : Sorted (s.heap.map end_)) : Sound (s.close i end_) := by
  refine hs.next howned hshift (fun j hj => Function.update_of_ne hj _ _) hsorted ?_
  intro tx htx
  simp [State.close] at htx

/-- The row an `INSERT` computes takes the number after those it sees. -/
theorem numbered_compute (hs : Sorted heap) {step : NewStep} {now : Int} {w : Surroundings}
    {x : StepRow} (hold : ∀ sl ∈ mine i heap, sl.committed.isSome = true)
    (h : step.compute now w (heap.filterMap (Slot.seenBy i)) = some x) :
    x.runId = step.runId ∧ x.stepId = step.stepId ∧ x.isLatest = true ∧ Numbered i x heap := by
  obtain ⟨run, _, rfl⟩ := Option.map_eq_some_iff.mp h
  rw [nextAttempt_view hs hold]
  exact ⟨rfl, rfl, rfl, Int.le_add_of_nonneg_left (Int.natCast_nonneg _), Int.le_refl _, fun _ => rfl⟩

theorem Sound.step (hs : Sound s) (hserves : ∀ code, serves code → Safe .kept code)
    (h : ReadCommitted.Step serves s s') : Sound s' := by
  have howned := h.owned hs.owned
  cases h with
  | outside w => exact ⟨hs.sorted, hs.owned, hs.tracked⟩
  | @start i code hcode hnone =>
      refine hs.put howned (.idle (hserves code hcode) ?_)
      rw [hs.owned i hnone]
      simp [Phase.Holds]
  | @look i k htx =>
      cases hs.tracked i _ htx with
      | idle hsafe hh =>
          cases hsafe with
          | look hk => exact hs.put howned (.idle (hk _) hh)
  | @select i own p k htx =>
      cases hs.tracked i _ htx with
      | idle hsafe hh =>
          cases hsafe with
          | select hk => exact hs.put howned (.idle (hk _) hh)
  | @find i p f k targets htx _ =>
      cases hs.tracked i _ htx with
      | idle hsafe hh =>
          cases hsafe with
          | update hw hk => exact hs.put howned (.updating hw hk (hw.begins hh))
  | @pass i p f k n targets hits sl htx _ _ _ =>
      cases hs.tracked i _ htx with
      | updating hw hk hh => exact hs.put howned (.updating hw hk hh)
  | @lock i p f k n targets hits sl v htx hn hfree hv hp hvalid hblocks =>
      cases hs.tracked i _ htx with
      | updating hw hk hh =>
          obtain ⟨before, after, hl, hset, hmem⟩ := exists_split hn
          obtain ⟨r, hr, ham, hpend⟩ := hs.sorted.found (List.mem_of_getElem? hn)
            (hw.committed hh) hfree hv
          have hsorted := hs.sorted
          have hold := hw.committed hh
          rw [hl] at hsorted hh hold
          have hshift : Shift i s.heap (before ++ sl.write i (f v) :: after) := by
            rw [hl]
            refine .write hfree hvalid fun sl' hsl => ?_
            obtain ⟨m, hm, hsl⟩ := hmem sl' hsl
            exact hblocks m sl' hm hsl
          rw [hset] at howned ⊢
          exact hs.putHeap howned hshift (hsorted.write hfree hr (hw.amends ham) hold)
            (.updating hw hk (hw.holds hh hr ham hpend hp))
  | @updated i p f k hits htx =>
      cases hs.tracked i _ htx with
      | updating hw hk hh => exact hs.put howned (.idle (hk _) hh)
  | @value i mk k x htx hx =>
      cases hs.tracked i _ htx with
      | idle hsafe hh =>
          cases hsafe with
          | @insert step now k hk =>
              obtain ⟨hrun, hstep, hlatest, hnum⟩ :=
                numbered_compute hs.sorted (fun sl hsl => (hh sl hsl).1) hx
              rw [← hrun, ← hstep] at hk hh
              exact hs.put howned (.inserting hk hh hlatest hnum)
  | @place i mk k x htx hvalid hblocks =>
      cases hs.tracked i _ htx with
      | inserting hk hh hlatest hnum =>
          exact hs.putHeap howned (.place hvalid hblocks) (hs.sorted.place hlatest hnum hblocks)
            (.idle (hk _) (holds_replaced hh rfl rfl))
  | @commit i a htx =>
      cases hs.tracked i _ htx with
      | idle hsafe hh =>
          exact hs.close howned .commit (hs.sorted.commit (hsafe.settled hh))
  | @abort i tx _ => exact hs.close howned .abort (hs.sorted.abort i)

theorem Sound.steps (hs : Sound s) (hserves : ∀ code, serves code → Safe .kept code)
    (h : Steps serves s s') : Sound s' := by
  induction h with
  | refl => exact hs
  | tail _ hstep ih => exact ih.step hserves hstep

end Runs

/-! ## The functions -/

section Functions
variable {α β : Type} {ph : Phase}

theorem Safe.map {code : StepCode α} (g : α → β) (h : Safe ph code) :
    Safe ph (code >>= fun a => .ret (g a)) := by
  induction h with
  | kept => exact .kept
  | replaced => exact .replaced
  | fail => exact .fail
  | look _ ih => exact .look ih
  | select _ ih => exact .select ih
  | update hw _ ih => exact .update hw ih
  | insert _ ih => exact .insert ih

/-- A check that comes first. -/
theorem Safe.ofExcept {r : Except StoreError β} {f : β → StepCode α} (h : ∀ b, Safe ph (f b)) :
    Safe ph (.ofExcept r >>= f) := by
  cases r with
  | ok b => exact h b
  | error x => exact .fail

theorem Safe.beginning {f : Int → StepCode α} (h : ∀ now, Safe ph (f now)) :
    Safe ph (StepTransaction.beginning >>= f) :=
  .look fun _ => h _

theorem Safe.latestStepKindStrict {runId : Uuid} {stepId : String} {f : StepKind → StepCode α}
    (h : ∀ kind, Safe ph (f kind)) :
    Safe ph (StepTransaction.latestStepKindStrict runId stepId >>= f) := by
  refine .select fun a => ?_
  obtain ⟨w, rows⟩ := a
  cases rows with
  | nil => exact .fail
  | cons r rows => exact h _

theorem Safe.existingStep {runId : Uuid} {stepId : String}
    {f : Option ExistingStep → StepCode α} (h : ∀ step, Safe ph (f step)) :
    Safe ph (StepTransaction.existingStep runId stepId >>= f) :=
  .select fun _ => h _

theorem Safe.getRetryInfo {runId : Uuid} {stepId : String}
    {f : Option StepRetryInfo → StepCode α} (h : ∀ info, Safe ph (f info)) :
    Safe ph (StepTransaction.getRetryInfo runId stepId >>= f) :=
  .select fun _ => h _

/-- An `UPDATE` that writes a result. -/
theorem Safe.result {p : StepRow → Bool} {g : StepRow → StepRow} {f : Nat → StepCode α}
    (hg : ∀ r, (g r).runId = r.runId ∧ (g r).stepId = r.stepId ∧
      (g r).attemptNumber = r.attemptNumber ∧ (g r).isLatest = r.isLatest)
    (h : ∀ affected, Safe .kept (f affected)) : Safe .kept (Script.update p g >>= f) :=
  .update (.keep hg) h

theorem Safe.replaceLatest {now : Int} {step : NewStep} (a : α) :
    Safe .kept (StepTransaction.replaceLatest now step >>= fun _ => .ret a) :=
  .update .demote fun _ => .look fun w =>
    @Safe.insert _ { step with attemptId := w.fresh } now _ fun _ => .replaced

theorem begin_safe (max : Nat) (params : BeginStepParams) :
    Safe .kept (StepTransaction.begin max params) := by
  refine .beginning fun now => .ofExcept fun _ => .existingStep fun step => ?_
  split
  · exact .kept
  · exact .replaceLatest _

theorem complete_safe (max : Nat) (runId : Uuid) (stepId : String) (output : Bytes) :
    Safe .kept (StepTransaction.complete max runId stepId output) := by
  refine .beginning fun now => .ofExcept fun _ => .latestStepKindStrict fun kind =>
    .result (fun r => ⟨rfl, rfl, rfl, rfl⟩) fun affected => ?_
  split
  · refine .existingStep fun step => ?_
    split
    · exact .kept
    · exact .replaceLatest ()
  · exact .kept

theorem failForGood_safe (params : FailStepParams) :
    Safe .kept (StepTransaction.failForGood params) := by
  refine .beginning fun now => .latestStepKindStrict fun kind =>
    .result (fun r => ⟨rfl, rfl, rfl, rfl⟩) fun affected => ?_
  split
  · exact .replaceLatest _
  · exact .kept

theorem Safe.retryDelayMs {params : FailStepParams} {policy : RetryPolicy} {attemptNumber : Int}
    {f : Int → StepCode α} (h : ∀ ms, Safe ph (f ms)) :
    Safe ph (StepTransaction.retryDelayMs params policy attemptNumber >>= f) := by
  unfold StepTransaction.retryDelayMs
  split
  · exact h _
  · exact .look fun _ => h _

theorem fail_safe (params : FailStepParams) : Safe .kept (StepTransaction.fail params) := by
  refine .getRetryInfo fun info => ?_
  split
  · exact failForGood_safe params
  · dsimp only
    split
    · exact .retryDelayMs fun ms => .beginning fun now =>
        .result (fun r => ⟨rfl, rfl, rfl, rfl⟩) fun _ => .kept
    · exact failForGood_safe params

theorem completePendingSleeps_safe (runId : Uuid) :
    Safe .kept (StepTransaction.completePendingSleeps runId) :=
  .beginning fun _ => .update (.keep fun _ => ⟨rfl, rfl, rfl, rfl⟩) fun _ => .kept

theorem recordLifecycleEvent_safe (max : Nat) (utf8 : Bytes → Option String) (runId : Uuid)
    (stepKind : StepKind) (output : Option Bytes) :
    Safe .kept (StepTransaction.recordLifecycleEvent max utf8 runId stepKind output) := by
  unfold StepTransaction.recordLifecycleEvent
  split
  · refine .ofExcept fun _ => .beginning fun now =>
      .result (fun r => ⟨rfl, rfl, rfl, rfl⟩) fun affected => ?_
    split
    · exact .replaceLatest ()
    · exact .kept
  · exact .fail

/-- The code of every call is safe. -/
theorem code_safe (max : Nat) (utf8 : Bytes → Option String) (call : StepCall) :
    Safe .kept (call.code max utf8) := by
  cases call with
  | begin params => exact (begin_safe max params).map _
  | complete runId stepId output => exact (complete_safe max runId stepId output).map _
  | fail params => exact (fail_safe params).map _
  | completePendingSleeps runId => exact (completePendingSleeps_safe runId).map _
  | recordLifecycleEvent runId stepKind output =>
      exact (recordLifecycleEvent_safe max utf8 runId stepKind output).map _

end Functions

/-! ## Every interleaving -/

theorem sound_quiet {w : Surroundings} {rows : List StepRow} (h : Structured rows) :
    Sound (.quiet w rows : State Surroundings StepRow StoreError StepReply) := by
  refine ⟨⟨fun sl hsl r k y _ hy => ?_, fun runId stepId => ?_⟩, fun i _ => ?_,
    fun i tx htx => by cases htx⟩
  · obtain ⟨r', _, rfl⟩ := List.mem_map.mp hsl
    cases hy
  · obtain ⟨ordered, hperm, hchain⟩ := structured_iff.mp h runId stepId
    refine ⟨ordered.map fun r => ⟨r, none⟩, [], ?_, ?_, .quiet⟩
    · have hslots : slotsOf runId stepId (rows.map fun r => ⟨some r, none⟩) =
          (attempts rows runId stepId).map fun r => ⟨some r, none⟩ := by
        rw [slotsOf, List.filter_map]
        rfl
      simpa [State.quiet, hslots, Function.comp_def, Attempt.slot] using hperm.map _
    · simpa [Function.comp_def] using hchain
  · refine mine_eq_nil.mpr fun sl hsl => ?_
    obtain ⟨r, _, rfl⟩ := List.mem_map.mp hsl
    rfl

theorem Sorted.structured (hs : Sorted heap) : Structured (heap.filterMap Slot.committed) := by
  refine structured_iff.mpr fun runId stepId => ?_
  obtain ⟨as, tail, hperm, hchain, hends⟩ := hs.ledger runId stepId
  refine ⟨as.map Attempt.row, ?_, hchain⟩
  have hslots : attempts (heap.filterMap Slot.committed) runId stepId =
      (slotsOf runId stepId heap).filterMap Slot.committed := by
    clear hperm hs
    simp only [attempts, slotsOf] at *
    induction heap with
    | nil => rfl
    | cons sl heap ih =>
        obtain ⟨_ | r, p⟩ := sl
        · simp only [List.filterMap_cons, List.filter_cons, ih]
          split <;> rfl
        · have habout : about runId stepId ⟨some r, p⟩ = StepRow.ofStep runId stepId r := rfl
          simp only [List.filterMap_cons, List.filter_cons, habout, ih]
          split <;> rfl
  have hrows : (as.map Attempt.slot ++ tail).filterMap Slot.committed = as.map Attempt.row := by
    rw [List.filterMap_append, List.filterMap_eq_nil_iff.mpr hends.committed, List.append_nil,
      List.filterMap_map]
    exact List.filterMap_eq_map.symm ▸ rfl
  rw [hslots, ← hrows]
  exact hperm.filterMap _

/-- The committed attempts of every step keep their shape. -/
theorem attempts_are_structured {max : Nat} {utf8 : Bytes → Option String} {w : Surroundings}
    {rows : List StepRow} {s : State Surroundings StepRow StoreError StepReply}
    (hrows : Structured rows) (h : Steps (stepCode max utf8) (.quiet w rows) s) :
    Structured s.committed := by
  have hserves : ∀ code, stepCode max utf8 code → Safe .kept code := by
    rintro _ ⟨call, rfl⟩
    exact code_safe max utf8 call
  exact ((sound_quiet hrows).steps hserves h).sorted.structured

/-- A step that is begun for the first time. -/
def firstBegin : BeginStepParams :=
  { runId := 1, stepId := "a", stepKind := .function, input := none, retryPolicy := none }

/-- The run of the step, and the next attempt id. -/
def aroundFirstBegin (fresh : Uuid) : Surroundings :=
  { now := 0
    fresh := fresh
    rand := 0
    runs :=
      { rows :=
          [{ runId := 1, ns := "default", externalId := "x", taskQueue := "q", workflowType := "t",
             status := .running, lockedBy := none, attempts := 1, createdAt := none,
             startedAt := none, finishedAt := none, retryPolicy := none, version := none,
             error := none, availableAt := some 0, cronExpr := none, scheduleId := none,
             lastFiredAt := none, maxCatchup := 1 }]
        distinct := List.pairwise_singleton _ _
        valid := by decide } }

/-- Two transactions begin the step at the same time.  Both compute the first
attempt, and the index lets one of them in. -/
theorem attempts_are_structured_raced :
    ∃ s : State Surroundings StepRow StoreError StepReply,
      s.committed.map StepRow.attemptNumber = [1] ∧ Structured s.committed := by
  have h := Relation.ReflTransGen.refl (r := ReadCommitted.Step (stepCode 10 fun _ => none))
    (a := .quiet (aroundFirstBegin 7) [])
  have h := h.tail (Step.start (i := 0) ⟨.begin firstBegin, rfl⟩ rfl)
  have h := h.tail (Step.start (i := 1) ⟨.begin firstBegin, rfl⟩ rfl)
  have h := h.tail (Step.look (i := 0) rfl)
  have h := h.tail (Step.look (i := 1) rfl)
  have h := h.tail (Step.select (i := 0) rfl)
  have h := h.tail (Step.select (i := 1) rfl)
  -- neither finds an attempt to demote
  have h := h.tail (Step.find (i := 0) rfl (.refl _))
  have h := h.tail (Step.find (i := 1) rfl (.refl _))
  have h := h.tail (Step.updated (i := 0) rfl)
  have h := h.tail (Step.updated (i := 1) rfl)
  have h := h.tail (Step.look (i := 0) rfl)
  have h := h.tail (Step.outside (aroundFirstBegin 8))
  have h := h.tail (Step.look (i := 1) rfl)
  have h := h.tail (Step.value (i := 0) rfl rfl)
  have h := h.tail (Step.value (i := 1) rfl rfl)
  have h := h.tail (Step.place (i := 0) rfl trivial (by simp [State.put, State.quiet]))
  have h := h.tail (Step.commit (i := 0) rfl)
  have h := h.tail (Step.abort (i := 1) rfl)
  exact ⟨_, by rfl, attempts_are_structured (by simp [Structured, attempts]) h⟩

end Kagzi.AttemptTable
