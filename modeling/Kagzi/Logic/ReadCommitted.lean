import Kagzi.Logic.Process
import Kagzi.Logic.Table
import Mathlib.Logic.Function.Basic

/-!
# Transactions under READ COMMITTED

Transactions work on one table, statement by statement.  The table is a heap of
slots.  A slot holds the committed version of a row and the version that the
transaction with the lock on the row has written, so a row can be written by
one transaction at a time.  A transaction sees its own versions and the
committed versions of all other rows (`Slot.seenBy`), and each of its
statements sees them as they are when the statement begins.

An `UPDATE` notes the rows it matches when it begins (`Step.find`) and then
locks them one by one.  A row that another transaction holds makes it wait.
When it gets the lock the row may have changed, so it looks at the row again:
it writes the row if the row still matches (`Step.lock`) and passes over it
otherwise (`Step.pass`).  Rows that came to match after its beginning are not
noticed.

An `INSERT` computes its row when it begins (`Step.value`) and enters it into
the indexes later (`Step.place`).  The check of the indexes looks at more than
the transaction can see: the row must not clash with a version that another
transaction has written and not committed, nor with a version that another
transaction has replaced and not committed (`Slot.Blocks`).  While it does, the
statement waits.

A violated constraint, a deadlock and a lost connection end a transaction
before its commit.  All of these are `Step.abort`, which is always possible.

`Step.shift` says what one step does to the heap, whoever makes it.  Versions
that other transactions hold are not touched (`Shift.mine`).  The locks and the
checks keep the committed rows free of clashes (`Steps.distinct`).
-/

namespace ReadCommitted

open Relational Atomic

/-! ## Slots -/

/-- The place of one row in the heap. -/
structure Slot (ρ : Type) where
  /-- The version that was committed last. -/
  committed : Option ρ
  /-- The transaction that holds the row, and the version it has written. -/
  pending : Option (Nat × ρ)
deriving DecidableEq

namespace Slot

variable {ρ : Type}

/-- The slot holds a version of the transaction `i`. -/
def heldBy (i : Nat) (sl : Slot ρ) : Bool := sl.pending.any fun p => p.1 = i

/-- Another transaction holds the row. -/
def lockedFor (i : Nat) (sl : Slot ρ) : Bool := sl.pending.any fun p => p.1 ≠ i

/-- The version that the transaction `i` sees. -/
def seenBy (i : Nat) (sl : Slot ρ) : Option ρ :=
  match sl.pending with
  | some (j, r) => if j = i then some r else sl.committed
  | none => sl.committed

/-- The slot after the transaction `i` has written its row. -/
def write (i : Nat) (r : ρ) (sl : Slot ρ) : Slot ρ := ⟨sl.committed, some (i, r)⟩

/-- The slot after the commit of the transaction `i`. -/
def commit (i : Nat) (sl : Slot ρ) : Slot ρ :=
  match sl.pending with
  | some (j, r) => if j = i then ⟨some r, none⟩ else sl
  | none => sl

/-- The slot after the end of the transaction `i` without a commit. -/
def abort (i : Nat) (sl : Slot ρ) : Slot ρ :=
  if sl.heldBy i then ⟨sl.committed, none⟩ else sl

@[simp] theorem write_committed (i : Nat) (r : ρ) (sl : Slot ρ) :
    (sl.write i r).committed = sl.committed := rfl

@[simp] theorem write_pending (i : Nat) (r : ρ) (sl : Slot ρ) :
    (sl.write i r).pending = some (i, r) := rfl

@[simp] theorem abort_committed (i : Nat) (sl : Slot ρ) :
    (sl.abort i).committed = sl.committed := by
  unfold abort
  split <;> rfl

theorem heldBy_iff {i : Nat} {sl : Slot ρ} :
    sl.heldBy i = true ↔ ∃ r, sl.pending = some (i, r) := by
  obtain ⟨c, _ | ⟨j, r⟩⟩ := sl <;> simp [heldBy]

theorem commit_of_heldBy {i : Nat} {sl : Slot ρ} {r : ρ} (h : sl.pending = some (i, r)) :
    sl.commit i = ⟨some r, none⟩ := by
  simp [commit, h]

theorem commit_of_not_heldBy {i : Nat} {sl : Slot ρ} (h : sl.heldBy i = false) :
    sl.commit i = sl := by
  obtain ⟨c, _ | ⟨j, r⟩⟩ := sl
  · rfl
  · have hj : j ≠ i := by simpa [heldBy] using h
    simp [commit, hj]

/-- What is still pending after a commit belongs to another transaction. -/
theorem pending_of_commit {i j : Nat} {sl : Slot ρ} {r : ρ}
    (h : (sl.commit i).pending = some (j, r)) : sl.pending = some (j, r) ∧ j ≠ i := by
  obtain ⟨c, _ | ⟨k, z⟩⟩ := sl
  · cases h
  · by_cases hk : k = i
    · simp [commit, hk] at h
    · simp only [commit, hk, if_false, Option.some.injEq, Prod.mk.injEq] at h
      exact ⟨by rw [h.1, h.2], h.1 ▸ hk⟩

/-- A commit makes the versions that the transaction sees the committed ones. -/
theorem commit_committed (i : Nat) (sl : Slot ρ) : (sl.commit i).committed = sl.seenBy i := by
  obtain ⟨c, _ | ⟨k, z⟩⟩ := sl
  · rfl
  · by_cases hk : k = i <;> simp [commit, seenBy, hk]

theorem abort_of_heldBy {i : Nat} {sl : Slot ρ} (h : sl.heldBy i = true) :
    sl.abort i = ⟨sl.committed, none⟩ := if_pos h

theorem abort_of_not_heldBy {i : Nat} {sl : Slot ρ} (h : sl.heldBy i = false) :
    sl.abort i = sl := by
  simp [abort, h]

/-- What is still pending after an abort belongs to another transaction. -/
theorem pending_of_abort {i j : Nat} {sl : Slot ρ} {r : ρ}
    (h : (sl.abort i).pending = some (j, r)) : sl.pending = some (j, r) ∧ j ≠ i := by
  cases hi : sl.heldBy i with
  | true =>
      rw [abort_of_heldBy hi] at h
      cases h
  | false =>
      rw [abort_of_not_heldBy hi] at h
      refine ⟨h, ?_⟩
      rintro rfl
      simp [heldBy, h] at hi

/-- What a transaction sees of a new row it has written itself. -/
theorem pending_of_seenBy {i : Nat} {sl : Slot ρ} {r : ρ} (hc : sl.committed = none)
    (h : sl.seenBy i = some r) : sl.pending = some (i, r) := by
  obtain ⟨c, _ | ⟨j, x⟩⟩ := sl
  · cases hc.symm.trans h
  · by_cases hj : j = i
    · subst hj
      simpa [seenBy] using h
    · have hc' : c = some r := by simpa [seenBy, hj] using h
      cases hc.symm.trans hc'

/-- A transaction can write a row that no other transaction holds. -/
theorem seenBy_of_not_lockedFor {i : Nat} {sl : Slot ρ} (h : sl.lockedFor i = false) :
    sl.pending = none ∧ sl.seenBy i = sl.committed ∨
      ∃ r, sl.pending = some (i, r) ∧ sl.seenBy i = some r := by
  obtain ⟨c, _ | ⟨j, r⟩⟩ := sl
  · exact .inl ⟨rfl, rfl⟩
  · obtain rfl : j = i := by simpa [lockedFor] using h
    exact .inr ⟨r, rfl, by simp [seenBy]⟩

end Slot

/-! ## Clashes -/

namespace Slot

variable {ρ : Type} [Row ρ]

/-- The slot keeps the transaction `i` from writing the row `r` elsewhere.  The
row clashes with the version that `i` sees, or with the one that another
transaction has written. -/
def Blocks (i : Nat) (r : ρ) (sl : Slot ρ) : Prop :=
  (∃ x, sl.seenBy i = some x ∧ Row.Clash x r) ∨
    ∃ j x, sl.pending = some (j, x) ∧ j ≠ i ∧ Row.Clash x r

/-- The rows of two slots do not clash, whichever of the transactions at work
on them commit. -/
structure Apart (a b : Slot ρ) : Prop where
  committed : ∀ x y, a.committed = some x → b.committed = some y → ¬ Row.Clash x y
  left : ∀ i x, a.pending = some (i, x) → ¬ b.Blocks i x
  right : ∀ i y, b.pending = some (i, y) → ¬ a.Blocks i y

theorem Apart.symm {a b : Slot ρ} (h : a.Apart b) : b.Apart a :=
  ⟨fun x y hx hy hc => h.committed y x hy hx (Row.clash_symm hc), h.right, h.left⟩

/-- A version that nothing blocks can be written. -/
theorem Apart.write {a b : Slot ρ} {i : Nat} {r : ρ} (h : a.Apart b)
    (hfree : a.lockedFor i = false) (hb : ¬ b.Blocks i r) : (a.write i r).Apart b := by
  refine ⟨h.committed, ?_, ?_⟩
  · rintro j x hx
    cases hx
    exact hb
  · rintro j y hy (⟨x, hx, hc⟩ | ⟨k, x, hx, hk, hc⟩)
    · by_cases hj : i = j
      · subst hj
        obtain rfl : r = x := by simpa [seenBy] using hx
        exact hb (.inl ⟨y, by simp [seenBy, hy], Row.clash_symm hc⟩)
      · have hx' : a.committed = some x := by simpa [seenBy, hj] using hx
        refine h.right j y hy (.inl ⟨x, ?_, hc⟩)
        obtain ⟨c, _ | ⟨k, z⟩⟩ := a
        · exact hx'
        · obtain rfl : k = i := by simpa [lockedFor] using hfree
          simpa [seenBy, hj] using hx'
    · obtain ⟨rfl, rfl⟩ : i = k ∧ r = x := by simpa using hx
      exact hb (.inr ⟨j, y, hy, hk.symm, Row.clash_symm hc⟩)

/-- The slot of a new row. -/
theorem apart_new {b : Slot ρ} {i : Nat} {r : ρ} (hb : ¬ b.Blocks i r) :
    (⟨none, some (i, r)⟩ : Slot ρ).Apart b := by
  have h : (⟨none, none⟩ : Slot ρ).Apart b := by
    refine ⟨nofun, nofun, ?_⟩
    rintro j y _ (⟨x, hx, _⟩ | ⟨k, x, hx, _⟩) <;> cases hx
  exact h.write rfl hb

theorem not_blocks_commit {a : Slot ρ} {i j : Nat} {y : ρ} (hj : j ≠ i) (h : ¬ a.Blocks j y) :
    ¬ (a.commit i).Blocks j y := by
  cases hi : a.heldBy i with
  | true =>
      obtain ⟨z, hz⟩ := heldBy_iff.mp hi
      rw [commit_of_heldBy hz]
      rintro (⟨x, hx, hc⟩ | ⟨l, x, hx, _⟩)
      · obtain rfl : z = x := by simpa [seenBy] using hx
        exact h (.inr ⟨i, z, hz, hj.symm, hc⟩)
      · cases hx
  | false => rwa [commit_of_not_heldBy hi]

theorem not_blocks_abort {a : Slot ρ} {i j : Nat} {y : ρ} (hj : j ≠ i) (h : ¬ a.Blocks j y) :
    ¬ (a.abort i).Blocks j y := by
  cases hi : a.heldBy i with
  | true =>
      obtain ⟨z, hz⟩ := heldBy_iff.mp hi
      rw [abort_of_heldBy hi]
      rintro (⟨x, hx, hc⟩ | ⟨l, x, hx, _⟩)
      · have hx' : a.committed = some x := hx
        exact h (.inl ⟨x, by simp [seenBy, hz, hj.symm, hx'], hc⟩)
      · cases hx
  | false => rwa [abort_of_not_heldBy hi]

theorem Apart.commit {a b : Slot ρ} (i : Nat) (h : a.Apart b) :
    (a.commit i).Apart (b.commit i) := by
  refine ⟨?_, ?_, ?_⟩
  · intro x y hx hy hc
    rw [commit_committed] at hx hy
    cases ha : a.heldBy i with
    | true =>
        obtain ⟨r, hr⟩ := heldBy_iff.mp ha
        obtain rfl : r = x := by simpa [seenBy, hr] using hx
        exact h.left i r hr (.inl ⟨y, hy, Row.clash_symm hc⟩)
    | false =>
        rw [← commit_committed, commit_of_not_heldBy ha] at hx
        cases hb : b.heldBy i with
        | true =>
            obtain ⟨r, hr⟩ := heldBy_iff.mp hb
            obtain rfl : r = y := by simpa [seenBy, hr] using hy
            refine h.right i r hr (.inl ⟨x, ?_, hc⟩)
            rwa [← commit_committed, commit_of_not_heldBy ha]
        | false =>
            rw [← commit_committed, commit_of_not_heldBy hb] at hy
            exact h.committed x y hx hy hc
  · intro j x hx
    obtain ⟨hx, hj⟩ := pending_of_commit hx
    exact not_blocks_commit hj (h.left j x hx)
  · intro j y hy
    obtain ⟨hy, hj⟩ := pending_of_commit hy
    exact not_blocks_commit hj (h.right j y hy)

theorem Apart.abort {a b : Slot ρ} (i : Nat) (h : a.Apart b) : (a.abort i).Apart (b.abort i) := by
  refine ⟨?_, ?_, ?_⟩
  · simpa using h.committed
  · intro j x hx
    obtain ⟨hx, hj⟩ := pending_of_abort hx
    exact not_blocks_abort hj (h.left j x hx)
  · intro j y hy
    obtain ⟨hy, hj⟩ := pending_of_abort hy
    exact not_blocks_abort hj (h.right j y hy)

end Slot

/-! ## Statements and transactions -/

/-- A statement of a transaction.  `W` is the rest of the world: the other
tables, the clock, whatever else a statement reads. -/
inductive Query (W ρ : Type) where
  /-- Look at the rest of the world. -/
  | look
  /-- Read the rows that satisfy a condition.  A transaction can also read on
  another connection, where it does not see its own versions. -/
  | select (own : Bool) (p : ρ → Bool)
  | update (p : ρ → Bool) (f : ρ → ρ)
  /-- Insert the row computed from what the transaction sees, if there is one. -/
  | insert (mk : W → List ρ → Option ρ)

/-- What a statement answers.  A `SELECT` sees the rows and the rest of the world
at one moment, an `UPDATE` says how many rows it wrote. -/
abbrev Query.Answer {W ρ : Type} : Query W ρ → Type
  | .look => W
  | .select .. => W × List ρ
  | .update .. => Nat
  | .insert _ => Unit

/-- The code of a transaction.  It commits when it returns. -/
abbrev Script (W ρ ε α : Type) : Type := Prog (Query W ρ) Query.Answer ε α

namespace Script

variable {W ρ ε : Type}

def look : Script W ρ ε W := .query Query.look

def select (own : Bool) (p : ρ → Bool) : Script W ρ ε (W × List ρ) := .query (Query.select own p)

def update (p : ρ → Bool) (f : ρ → ρ) : Script W ρ ε Nat := .query (Query.update p f)

def insert (mk : W → List ρ → Option ρ) : Script W ρ ε Unit := .query (Query.insert mk)

end Script

/-- How far a transaction is with its statement. -/
inductive Doing (ρ : Type) where
  /-- The statement has not begun. -/
  | idle
  /-- An `UPDATE` that has still to lock the slots `targets` and has written
  `hits` rows. -/
  | updating (targets : List Nat) (hits : Nat)
  /-- An `INSERT` that has computed its row. -/
  | inserting (row : ρ)

/-- A transaction at work: the rest of its code, which begins with the
statement it is at. -/
structure Tx (W ρ ε α : Type) where
  code : Script W ρ ε α
  doing : Doing ρ

/-- The table and the transactions at work. -/
structure State (W ρ ε α : Type) where
  world : W
  heap : List (Slot ρ)
  txs : Nat → Option (Tx W ρ ε α)

namespace State

variable {W ρ ε α : Type}

/-- The committed rows. -/
def committed (s : State W ρ ε α) : List ρ := s.heap.filterMap Slot.committed

/-- The rows that the transaction `i` sees. -/
def view (s : State W ρ ε α) (i : Nat) : List ρ := s.heap.filterMap (Slot.seenBy i)

/-- The slots whose rows an `UPDATE` of the transaction `i` matches. -/
def matching (s : State W ρ ε α) (i : Nat) (p : ρ → Bool) : List Nat :=
  (List.range s.heap.length).filter fun k => (s.heap[k]?.bind (Slot.seenBy i)).any p

/-- The transaction `i` goes on as `tx`. -/
def put (s : State W ρ ε α) (i : Nat) (tx : Tx W ρ ε α) : State W ρ ε α :=
  { s with txs := Function.update s.txs i (some tx) }

/-- The transaction `i` goes on as `tx`, with another heap. -/
def putHeap (s : State W ρ ε α) (i : Nat) (tx : Tx W ρ ε α) (heap : List (Slot ρ)) :
    State W ρ ε α :=
  { s with heap := heap, txs := Function.update s.txs i (some tx) }

/-- The transaction `i` ends. -/
def close (s : State W ρ ε α) (i : Nat) (end_ : Slot ρ → Slot ρ) : State W ρ ε α :=
  { s with heap := s.heap.map end_, txs := Function.update s.txs i none }

/-- A table at which no transaction is at work. -/
def quiet (w : W) (rows : List ρ) : State W ρ ε α := ⟨w, rows.map fun r => ⟨some r, none⟩, fun _ => none⟩

end State

/-- One step of one transaction.  The code of a transaction satisfies `serves`. -/
inductive Step {W ρ ε α : Type} [Row ρ] (serves : Script W ρ ε α → Prop) :
    State W ρ ε α → State W ρ ε α → Prop where
  /-- The rest of the world changes. -/
  | outside {s} (w : W) : Step serves s { s with world := w }
  | start {s i code} : serves code → s.txs i = none → Step serves s (s.put i ⟨code, .idle⟩)
  | look {s i k} : s.txs i = some ⟨.call .look k, .idle⟩ →
      Step serves s (s.put i ⟨k s.world, .idle⟩)
  | select {s i own p k} : s.txs i = some ⟨.call (.select own p) k, .idle⟩ →
      Step serves s
        (s.put i ⟨k (s.world, (if own then s.view i else s.committed).filter p), .idle⟩)
  | find {s i p f k targets} : s.txs i = some ⟨.call (.update p f) k, .idle⟩ →
      targets.Perm (s.matching i p) →
      Step serves s (s.put i ⟨.call (.update p f) k, .updating targets 0⟩)
  | pass {s i p f k n targets hits sl} :
      s.txs i = some ⟨.call (.update p f) k, .updating (n :: targets) hits⟩ →
      s.heap[n]? = some sl → sl.lockedFor i = false → (sl.seenBy i).any p = false →
      Step serves s (s.put i ⟨.call (.update p f) k, .updating targets hits⟩)
  | lock {s i p f k n targets hits sl r} :
      s.txs i = some ⟨.call (.update p f) k, .updating (n :: targets) hits⟩ →
      s.heap[n]? = some sl → sl.lockedFor i = false → sl.seenBy i = some r → p r = true →
      Row.Valid (f r) → (∀ m sl', m ≠ n → s.heap[m]? = some sl' → ¬ sl'.Blocks i (f r)) →
      Step serves s
        (s.putHeap i ⟨.call (.update p f) k, .updating targets (hits + 1)⟩
          (s.heap.set n (sl.write i (f r))))
  | updated {s i p f k hits} :
      s.txs i = some ⟨.call (.update p f) k, .updating [] hits⟩ →
      Step serves s (s.put i ⟨k hits, .idle⟩)
  | value {s i mk k r} : s.txs i = some ⟨.call (.insert mk) k, .idle⟩ →
      mk s.world (s.view i) = some r →
      Step serves s (s.put i ⟨.call (.insert mk) k, .inserting r⟩)
  | place {s i mk k r} : s.txs i = some ⟨.call (.insert mk) k, .inserting r⟩ →
      Row.Valid r → (∀ sl ∈ s.heap, ¬ sl.Blocks i r) →
      Step serves s (s.putHeap i ⟨k (), .idle⟩ (s.heap ++ [⟨none, some (i, r)⟩]))
  | commit {s i a} : s.txs i = some ⟨.ret a, .idle⟩ → Step serves s (s.close i (Slot.commit i))
  | abort {s i tx} : s.txs i = some tx → Step serves s (s.close i (Slot.abort i))

/-- A run: steps of the transactions in any order. -/
abbrev Steps {W ρ ε α : Type} [Row ρ] (serves : Script W ρ ε α → Prop) :
    State W ρ ε α → State W ρ ε α → Prop :=
  Relation.ReflTransGen (Step serves)

/-! ## What a step does to the heap -/

/-- The slots before and after the one at a position. -/
theorem exists_split {α : Type} {l : List α} {n : Nat} {x : α} (h : l[n]? = some x) :
    ∃ before after, l = before ++ x :: after ∧ (∀ y, l.set n y = before ++ y :: after) ∧
      ∀ y ∈ before ++ after, ∃ m, m ≠ n ∧ l[m]? = some y := by
  induction l generalizing n with
  | nil => simp at h
  | cons z l ih =>
      cases n with
      | zero =>
          obtain rfl : z = x := by simpa using h
          refine ⟨[], l, rfl, fun y => rfl, fun y hy => ?_⟩
          obtain ⟨m, hm⟩ := List.mem_iff_getElem?.mp (by simpa using hy)
          exact ⟨m + 1, by simp, by simpa using hm⟩
      | succ n =>
          obtain ⟨before, after, rfl, hset, hmem⟩ := ih (by simpa using h)
          refine ⟨z :: before, after, rfl, fun y => by simp [hset], fun y hy => ?_⟩
          rcases List.mem_cons.mp hy with rfl | hy
          · exact ⟨0, by simp, rfl⟩
          · obtain ⟨m, hm, hy⟩ := hmem y hy
            exact ⟨m + 1, by simpa using hm, by simpa using hy⟩

section Shift
variable {ρ : Type} [Row ρ]

/-- What a step of the transaction `i` does to the heap. -/
inductive Shift (i : Nat) : List (Slot ρ) → List (Slot ρ) → Prop where
  | none {heap} : Shift i heap heap
  | write {before sl after r} : sl.lockedFor i = false → Row.Valid r →
      (∀ sl' ∈ before ++ after, ¬ sl'.Blocks i r) →
      Shift i (before ++ sl :: after) (before ++ sl.write i r :: after)
  | place {heap r} : Row.Valid r → (∀ sl ∈ heap, ¬ sl.Blocks i r) →
      Shift i heap (heap ++ [⟨.none, some (i, r)⟩])
  | commit {heap} : Shift i heap (heap.map (Slot.commit i))
  | abort {heap} : Shift i heap (heap.map (Slot.abort i))

/-- The slots that hold a version of the transaction `i`. -/
def mine (i : Nat) (heap : List (Slot ρ)) : List (Slot ρ) := heap.filter (Slot.heldBy i)

variable {i j : Nat} {heap heap' : List (Slot ρ)}

omit [Row ρ] in
/-- A map that changes only the slots of another transaction. -/
theorem mine_map {g : Slot ρ → Slot ρ} (hself : ∀ sl, sl.heldBy j = false → g sl = sl)
    (hother : ∀ sl, sl.heldBy j = true → (g sl).heldBy i = false) (hij : i ≠ j) :
    mine i (heap.map g) = mine i heap := by
  induction heap with
  | nil => rfl
  | cons sl heap ih =>
      simp only [mine] at ih
      cases hj : sl.heldBy j with
      | true =>
          obtain ⟨r, hr⟩ := Slot.heldBy_iff.mp hj
          have hi : sl.heldBy i = false := by simp [Slot.heldBy, hr, hij.symm]
          simp [mine, hother sl hj, hi, ih]
      | false => simp only [mine, List.map_cons, hself sl hj, List.filter_cons, ih]

/-- The other transactions keep their versions, and what these versions replace
stays. -/
theorem Shift.mine (h : Shift j heap heap') (hij : i ≠ j) : mine i heap' = mine i heap := by
  cases h with
  | none => rfl
  | @write before sl after r hfree _ _ =>
      have hold : sl.heldBy i = false := by
        rcases Slot.seenBy_of_not_lockedFor hfree with ⟨hp, _⟩ | ⟨x, hp, _⟩
        · simp [Slot.heldBy, hp]
        · simp [Slot.heldBy, hp, hij.symm]
      have hnew : (sl.write j r).heldBy i = false := by simp [Slot.heldBy, hij.symm]
      simp [ReadCommitted.mine, hold, hnew]
  | place _ _ => simp [ReadCommitted.mine, Slot.heldBy, hij.symm]
  | commit =>
      refine mine_map (fun sl => Slot.commit_of_not_heldBy) (fun sl hsl => ?_) hij
      obtain ⟨r, hr⟩ := Slot.heldBy_iff.mp hsl
      simp [Slot.commit_of_heldBy hr, Slot.heldBy]
  | abort =>
      refine mine_map (fun sl => Slot.abort_of_not_heldBy) (fun sl hsl => ?_) hij
      simp [Slot.abort_of_heldBy hsl, Slot.heldBy]

omit [Row ρ] in
theorem mine_eq_nil : mine i heap = [] ↔ ∀ sl ∈ heap, sl.heldBy i = false := by
  simp [mine, List.filter_eq_nil_iff]

omit [Row ρ] in
/-- A commit gives all rows free. -/
theorem mine_commit (i : Nat) (heap : List (Slot ρ)) : mine i (heap.map (Slot.commit i)) = [] := by
  refine mine_eq_nil.mpr fun x hx => ?_
  obtain ⟨sl, _, rfl⟩ := List.mem_map.mp hx
  by_contra h
  obtain ⟨r, hr⟩ := Slot.heldBy_iff.mp (by simpa using h)
  exact (Slot.pending_of_commit hr).2 rfl

omit [Row ρ] in
/-- An abort gives all rows free. -/
theorem mine_abort (i : Nat) (heap : List (Slot ρ)) : mine i (heap.map (Slot.abort i)) = [] := by
  refine mine_eq_nil.mpr fun x hx => ?_
  obtain ⟨sl, _, rfl⟩ := List.mem_map.mp hx
  by_contra h
  obtain ⟨r, hr⟩ := Slot.heldBy_iff.mp (by simpa using h)
  exact (Slot.pending_of_abort hr).2 rfl

variable {W ε α : Type} {serves : Script W ρ ε α → Prop} {s s' : State W ρ ε α}

/-- What is pending belongs to a transaction at work. -/
def State.Owned (s : State W ρ ε α) : Prop := ∀ i, s.txs i = none → mine i s.heap = []

/-- A step is a step of one transaction.  When the transaction is not at work
afterwards, it holds nothing. -/
theorem Step.shift (h : Step serves s s') :
    ∃ i, Shift i s.heap s'.heap ∧ (∀ j, j ≠ i → s'.txs j = s.txs j) ∧
      (s.Owned → s'.txs i = none → mine i s'.heap = []) := by
  have hput : ∀ (i : Nat) (tx : Option (Tx W ρ ε α)) (j : Nat), j ≠ i →
      Function.update s.txs i tx j = s.txs j := fun i tx j hj => Function.update_of_ne hj _ _
  have hwork : ∀ (i : Nat) (tx : Tx W ρ ε α), Function.update s.txs i (some tx) i ≠ none := by
    simp
  cases h with
  | outside w => exact ⟨0, .none, fun _ _ => rfl, fun ho => ho 0⟩
  | @start i code _ _ => exact ⟨i, .none, hput i _, fun _ hn => absurd hn (hwork i _)⟩
  | @look i k _ => exact ⟨i, .none, hput i _, fun _ hn => absurd hn (hwork i _)⟩
  | @select i own p k _ => exact ⟨i, .none, hput i _, fun _ hn => absurd hn (hwork i _)⟩
  | @find i p f k targets _ _ => exact ⟨i, .none, hput i _, fun _ hn => absurd hn (hwork i _)⟩
  | @pass i p f k n targets hits sl _ _ _ _ =>
      exact ⟨i, .none, hput i _, fun _ hn => absurd hn (hwork i _)⟩
  | @lock i p f k n targets hits sl r _ hn hfree _ _ hv hb =>
      obtain ⟨before, after, hl, hset, hmem⟩ := exists_split hn
      refine ⟨i, ?_, hput i _, fun _ hn => absurd hn (hwork i _)⟩
      rw [State.putHeap, hset, hl]
      refine .write hfree hv fun sl' hsl => ?_
      obtain ⟨m, hm, hsl⟩ := hmem sl' hsl
      exact hb m sl' hm hsl
  | @updated i p f k hits _ => exact ⟨i, .none, hput i _, fun _ hn => absurd hn (hwork i _)⟩
  | @value i mk k r _ _ => exact ⟨i, .none, hput i _, fun _ hn => absurd hn (hwork i _)⟩
  | @place i mk k r _ hv hb =>
      exact ⟨i, .place hv hb, hput i _, fun _ hn => absurd hn (hwork i _)⟩
  | @commit i a _ => exact ⟨i, .commit, hput i _, fun _ _ => mine_commit i _⟩
  | @abort i tx _ => exact ⟨i, .abort, hput i _, fun _ _ => mine_abort i _⟩

theorem Step.owned (h : Step serves s s') (ho : s.Owned) : s'.Owned := by
  obtain ⟨i, hshift, hother, hi⟩ := h.shift
  intro j hj
  by_cases hij : j = i
  · subst hij
    exact hi ho hj
  · rw [hshift.mine hij]
    exact ho j (hother j hij ▸ hj)

/-- A heap that the locks and the checks have kept in order. -/
structure Orderly (heap : List (Slot ρ)) : Prop where
  apart : heap.Pairwise Slot.Apart
  valid : ∀ sl ∈ heap, (∀ r, sl.committed = some r → Row.Valid r) ∧
    ∀ i r, sl.pending = some (i, r) → Row.Valid r

theorem Shift.orderly (h : Shift i heap heap') (ho : Orderly heap) : Orderly heap' := by
  obtain ⟨hap, hval⟩ := ho
  cases h with
  | none => exact ⟨hap, hval⟩
  | @write before sl after r hfree hv hb =>
      obtain ⟨hbefore, hrest, hcross⟩ := List.pairwise_append.mp hap
      obtain ⟨hsl, hafter⟩ := List.pairwise_cons.mp hrest
      refine ⟨List.pairwise_append.mpr ⟨hbefore, List.pairwise_cons.mpr ⟨?_, hafter⟩, ?_⟩, ?_⟩
      · intro b hmem
        exact (hsl b hmem).write hfree (hb b (by simp [hmem]))
      · intro a ha b hmem
        rcases List.mem_cons.mp hmem with rfl | hmem
        · exact ((hcross a ha sl (by simp)).symm.write hfree (hb a (by simp [ha]))).symm
        · exact hcross a ha b (by simp [hmem])
      · intro x hx
        simp only [List.mem_append, List.mem_cons] at hx
        rcases hx with hx | rfl | hx
        · exact hval x (by simp [hx])
        · refine ⟨(hval sl (by simp)).1, ?_⟩
          rintro j y hy
          cases hy
          exact hv
        · exact hval x (by simp [hx])
  | @place _ r hv hb =>
      refine ⟨List.pairwise_append.mpr ⟨hap, List.pairwise_singleton _ _, ?_⟩, ?_⟩
      · intro a ha b hmem
        rw [List.mem_singleton.mp hmem]
        exact (Slot.apart_new (hb a ha)).symm
      · intro x hx
        rcases List.mem_append.mp hx with hx | hx
        · exact hval x hx
        · rw [List.mem_singleton.mp hx]
          refine ⟨nofun, ?_⟩
          rintro j y hy
          cases hy
          exact hv
  | commit =>
      refine ⟨List.pairwise_map.mpr (hap.imp fun h => h.commit i), ?_⟩
      intro x hx
      obtain ⟨sl, hsl, rfl⟩ := List.mem_map.mp hx
      refine ⟨?_, fun j r hr => (hval sl hsl).2 j r (Slot.pending_of_commit hr).1⟩
      intro r hr
      cases hi : sl.heldBy i with
      | true =>
          obtain ⟨y, hy⟩ := Slot.heldBy_iff.mp hi
          obtain rfl : y = r := by simpa [Slot.commit_of_heldBy hy] using hr
          exact (hval sl hsl).2 i y hy
      | false =>
          rw [Slot.commit_of_not_heldBy hi] at hr
          exact (hval sl hsl).1 r hr
  | abort =>
      refine ⟨List.pairwise_map.mpr (hap.imp fun h => h.abort i), ?_⟩
      intro x hx
      obtain ⟨sl, hsl, rfl⟩ := List.mem_map.mp hx
      refine ⟨?_, fun j r hr => (hval sl hsl).2 j r (Slot.pending_of_abort hr).1⟩
      simpa using (hval sl hsl).1

theorem Steps.orderly (h : Steps serves s s') (hs : Orderly s.heap) : Orderly s'.heap := by
  induction h with
  | refl => exact hs
  | tail _ hstep ih =>
      obtain ⟨i, hshift, _⟩ := hstep.shift
      exact hshift.orderly ih

/-- The committed rows of an orderly heap are a table. -/
def Orderly.table (h : Orderly s.heap) : Table ρ :=
  ⟨s.committed,
    List.pairwise_filterMap.mpr (h.apart.imp fun hab x hx y hy => hab.committed x y hx hy),
    by
      intro r hr
      obtain ⟨sl, hsl, hr⟩ := List.mem_filterMap.mp hr
      exact (h.valid sl hsl).1 r hr⟩

theorem orderly_quiet (w : W) (t : Table ρ) :
    Orderly (.quiet w t.rows : State W ρ ε α).heap := by
  constructor
  · refine List.pairwise_map.mpr (t.distinct.imp fun {a b} hab => ⟨?_, nofun, nofun⟩)
    rintro x y hx hy
    cases hx
    cases hy
    exact hab
  · intro sl hsl
    obtain ⟨r, hr, rfl⟩ := List.mem_map.mp hsl
    refine ⟨?_, nofun⟩
    rintro x hx
    cases hx
    exact t.valid r hr

/-- The rows committed in a run from a table are a table. -/
theorem Steps.distinct {w : W} {t : Table ρ} (h : Steps serves (.quiet w t.rows) s) :
    s.committed.Pairwise fun r r' => ¬ Row.Clash r r' :=
  (Steps.orderly h (orderly_quiet w t)).table.distinct

end Shift

end ReadCommitted
