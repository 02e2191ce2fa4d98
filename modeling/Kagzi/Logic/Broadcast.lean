import Mathlib.Data.List.Basic
import Mathlib.Data.List.Pairwise

/-!
# A registry of broadcast channels

A map from keys to the senders of broadcast channels, next to the sender clones and the
receivers that are held outside of it.  A channel is closed when it has no sender left:
the map does not have it, and nobody holds a clone (`Registry.Closed`).

A receiver counts the messages it has not read, of which its channel keeps at most
`capacity`.  Reading returns at once when there are some, or when the channel is closed
(`Registry.Readable`); else it blocks.

A channel remembers the key it was made under, and the map has at most one channel for
each key.  So a receiver belongs to the sender that the map has under its key, or its
channel is not in the map (`Registry.get?_key_or`).
-/

namespace Broadcast

variable {κ : Type} [DecidableEq κ]

/-- A channel: the key it was made under, and a number that no other channel has. -/
structure Channel (κ : Type) where
  key : κ
  serial : Nat
deriving DecidableEq

/-- A sender that is held outside of the map. -/
structure Clone (κ : Type) where
  id : Nat
  chan : Channel κ
deriving DecidableEq

/-- A receiver, with the number of messages it has not read. -/
structure Receiver (κ : Type) where
  id : Nat
  chan : Channel κ
  unread : Nat
deriving DecidableEq

/-- What a receiver gets: a message, the number of those that were dropped, or that no
more will come. -/
inductive Received where
  | message
  | lagged (dropped : Nat)
  | closed
deriving DecidableEq

/-- The map, and what is held outside of it. -/
structure Registry (κ : Type) where
  /-- The channels whose sender the map holds, each under its key. -/
  map : List (Channel κ)
  clones : List (Clone κ)
  receivers : List (Receiver κ)
  /-- The next number. -/
  fresh : Nat
  distinct : map.Pairwise fun c c' => c.key ≠ c'.key

namespace Registry

/-- Nothing is there. -/
def empty : Registry κ := ⟨[], [], [], 0, List.Pairwise.nil⟩

/-! ## The map -/

/-- The sender under a key. -/
def get? (g : Registry κ) (key : κ) : Option (Channel κ) := g.map.find? fun c => c.key = key

theorem mem_of_get? {g : Registry κ} {key : κ} {c : Channel κ} (h : g.get? key = some c) :
    c ∈ g.map := List.mem_of_find?_eq_some h

theorem key_of_get? {g : Registry κ} {key : κ} {c : Channel κ} (h : g.get? key = some c) :
    c.key = key := by simpa using List.find?_some h

/-- The map has a channel under its own key. -/
theorem get?_key_iff {g : Registry κ} {c : Channel κ} : g.get? c.key = some c ↔ c ∈ g.map := by
  constructor
  · exact mem_of_get?
  · intro hmem
    cases hget : g.get? c.key with
    | none =>
        have hnone := List.find?_eq_none.mp hget c hmem
        simp at hnone
    | some c' =>
        have hkey := key_of_get? hget
        have hsymm : Std.Symm fun c c' : Channel κ => c.key ≠ c'.key := ⟨fun _ _ hne => hne.symm⟩
        by_contra hne
        exact g.distinct.forall (mem_of_get? hget) hmem (fun heq => hne (congrArg some heq)) hkey

/-- The sender under the key, or a new channel; and a clone of it. -/
def getOrInsert (g : Registry κ) (key : κ) : Clone κ × Registry κ :=
  match hget : g.get? key with
  | some c => (⟨g.fresh, c⟩, { g with clones := g.clones ++ [⟨g.fresh, c⟩], fresh := g.fresh + 1 })
  | none =>
      let c : Channel κ := ⟨key, g.fresh⟩
      (⟨g.fresh + 1, c⟩,
        { map := g.map ++ [c]
          clones := g.clones ++ [⟨g.fresh + 1, c⟩]
          receivers := g.receivers
          fresh := g.fresh + 2
          distinct := by
            refine List.pairwise_append.mpr ⟨g.distinct, List.pairwise_singleton _ _, ?_⟩
            intro c' hc' c'' hc'' heq
            rw [List.mem_singleton.mp hc''] at heq
            exact List.find?_eq_none.mp hget c' hc' (by simpa using heq) })

/-- The number of receivers of a channel is not zero. -/
def hasReceivers (g : Registry κ) (c : Channel κ) : Bool := g.receivers.any fun r => r.chan = c

/-- Remove the senders of the channels without receivers. -/
def retain (g : Registry κ) : Registry κ :=
  { g with
    map := g.map.filter g.hasReceivers
    distinct := g.distinct.filter _ }

/-! ## Senders and receivers -/

/-- A new receiver. -/
def subscribe (g : Registry κ) (c : Channel κ) : Nat × Registry κ :=
  (g.fresh, { g with receivers := g.receivers ++ [⟨g.fresh, c, 0⟩], fresh := g.fresh + 1 })

/-- A clone is dropped. -/
def dropClone (g : Registry κ) (id : Nat) : Registry κ :=
  { g with clones := g.clones.filter fun tx => tx.id ≠ id }

/-- A receiver is dropped. -/
def dropReceiver (g : Registry κ) (id : Nat) : Registry κ :=
  { g with receivers := g.receivers.filter fun r => r.id ≠ id }

/-- Send a message to the receivers of a channel. -/
def send (g : Registry κ) (c : Channel κ) : Registry κ :=
  { g with
    receivers := g.receivers.map fun r =>
      if r.chan = c then { r with unread := r.unread + 1 } else r }

/-- No sender is left. -/
def Closed (g : Registry κ) (c : Channel κ) : Prop := c ∉ g.map ∧ ∀ tx ∈ g.clones, tx.chan ≠ c

instance (g : Registry κ) (c : Channel κ) : Decidable (g.Closed c) :=
  inferInstanceAs (Decidable (_ ∧ _))

/-- The receiver is there, and reading from it returns at once. -/
def Readable (g : Registry κ) (id : Nat) : Prop :=
  ∃ r ∈ g.receivers, r.id = id ∧ (0 < r.unread ∨ g.Closed r.chan)

instance (g : Registry κ) (id : Nat) : Decidable (g.Readable id) :=
  inferInstanceAs (Decidable (∃ r ∈ g.receivers, _))

/-- What reading gives, and the number of messages that are unread then. -/
def read (capacity unread : Nat) : Received × Nat :=
  if capacity < unread then (.lagged (unread - capacity), capacity)
  else if 0 < unread then (.message, unread - 1)
  else (.closed, 0)

/-- Read from a receiver. -/
def recv (g : Registry κ) (capacity id : Nat) : Received × Registry κ :=
  match g.receivers.find? fun r => r.id = id with
  | some r =>
      ((read capacity r.unread).1,
        { g with
          receivers := g.receivers.map fun r' =>
            if r'.id = id then { r' with unread := (read capacity r.unread).2 } else r' })
  | none => (.closed, g)

/-! ## Where the channel of a receiver is -/

/-- A channel is under its key in the map, or not in the map. -/
theorem get?_key_or (g : Registry κ) (c : Channel κ) : g.get? c.key = some c ∨ c ∉ g.map := by
  by_cases hmem : c ∈ g.map
  · exact .inl (get?_key_iff.mpr hmem)
  · exact .inr hmem

/-- When nobody holds a clone, the channels that the map does not have are closed. -/
theorem get?_key_or_closed {g : Registry κ} (h : g.clones = []) (c : Channel κ) :
    g.get? c.key = some c ∨ g.Closed c := by
  refine (g.get?_key_or c).imp id fun hmem => ⟨hmem, fun tx htx => ?_⟩
  rw [h] at htx
  cases htx

/-- A message that is sent to a channel is there for each of its receivers. -/
theorem mem_send {g : Registry κ} {r : Receiver κ} (h : r ∈ g.receivers) :
    { r with unread := r.unread + 1 } ∈ (g.send r.chan).receivers :=
  List.mem_map.mpr ⟨r, h, if_pos rfl⟩

/-- It changes nothing for the receivers of other channels. -/
theorem mem_send_of_ne {g : Registry κ} {c : Channel κ} {r : Receiver κ} (h : r ∈ g.receivers)
    (hne : r.chan ≠ c) : r ∈ (g.send c).receivers :=
  List.mem_map.mpr ⟨r, h, if_neg hne⟩

/-! ## What the operations do -/

/-- The channel that `getOrInsert` gives is one of the key. -/
theorem getOrInsert_key (g : Registry κ) (key : κ) : (g.getOrInsert key).1.chan.key = key := by
  unfold getOrInsert
  split
  next hget => exact key_of_get? hget
  next => rfl

/-- An operation that makes at most the clone and the receiver of these ids, which were not
given out before, and keeps the channels of the other receivers. -/
structure Grows (g g' : Registry κ) (clone receiver : Option Nat) : Prop where
  fresh : g.fresh ≤ g'.fresh
  clones : ∀ tx ∈ g'.clones, tx ∈ g.clones ∨ clone = some tx.id
  receivers : ∀ r ∈ g'.receivers,
    (∃ r' ∈ g.receivers, r'.id = r.id ∧ r'.chan = r.chan) ∨ receiver = some r.id
  new_clone : ∀ id, clone = some id → g.fresh ≤ id ∧ id < g'.fresh
  new_receiver : ∀ id, receiver = some id → g.fresh ≤ id ∧ id < g'.fresh

omit [DecidableEq κ] in
/-- An operation that makes nothing. -/
theorem Grows.of_none {g g' : Registry κ} (hfresh : g'.fresh = g.fresh)
    (hclones : ∀ tx ∈ g'.clones, tx ∈ g.clones)
    (hreceivers : ∀ r ∈ g'.receivers, ∃ r' ∈ g.receivers, r'.id = r.id ∧ r'.chan = r.chan) :
    Grows g g' none none where
  fresh := Nat.le_of_eq hfresh.symm
  clones tx htx := .inl (hclones tx htx)
  receivers r hr := .inl (hreceivers r hr)
  new_clone id h := by cases h
  new_receiver id h := by cases h

section Growth
variable (g : Registry κ)

omit [DecidableEq κ] in
theorem grows_refl : Grows g g none none :=
  .of_none rfl (fun _ htx => htx) fun r hr => ⟨r, hr, rfl, rfl⟩

theorem grows_getOrInsert (key : κ) :
    Grows g (g.getOrInsert key).2 (some (g.getOrInsert key).1.id) none := by
  unfold getOrInsert
  split
  next =>
    refine ⟨Nat.le_succ _, fun tx htx => ?_, fun r hr => .inl ⟨r, hr, rfl, rfl⟩, ?_,
      fun _ h => nomatch h⟩
    · rcases List.mem_append.mp htx with htx | htx
      · exact .inl htx
      · rw [List.mem_singleton.mp htx]
        exact .inr rfl
    · rintro id ⟨⟩
      exact ⟨Nat.le_refl _, Nat.lt_succ_self _⟩
  next =>
    refine ⟨Nat.le_add_right _ _, fun tx htx => ?_, fun r hr => .inl ⟨r, hr, rfl, rfl⟩, ?_,
      fun _ h => nomatch h⟩
    · rcases List.mem_append.mp htx with htx | htx
      · exact .inl htx
      · rw [List.mem_singleton.mp htx]
        exact .inr rfl
    · rintro id ⟨⟩
      exact ⟨Nat.le_succ _, Nat.lt_succ_self _⟩

theorem grows_retain : Grows g g.retain none none :=
  .of_none rfl (fun _ htx => htx) fun r hr => ⟨r, hr, rfl, rfl⟩

omit [DecidableEq κ] in
theorem grows_subscribe (c : Channel κ) :
    Grows g (g.subscribe c).2 none (some (g.subscribe c).1) where
  fresh := Nat.le_succ _
  clones _ htx := .inl htx
  receivers r hr := by
    rcases List.mem_append.mp hr with hr | hr
    · exact .inl ⟨r, hr, rfl, rfl⟩
    · rw [List.mem_singleton.mp hr]
      exact .inr rfl
  new_clone _ h := nomatch h
  new_receiver id h := by
    cases h
    exact ⟨Nat.le_refl _, Nat.lt_succ_self _⟩

omit [DecidableEq κ] in
theorem grows_dropClone (id : Nat) : Grows g (g.dropClone id) none none :=
  .of_none rfl (fun _ htx => List.mem_of_mem_filter htx) fun r hr => ⟨r, hr, rfl, rfl⟩

omit [DecidableEq κ] in
theorem grows_dropReceiver (id : Nat) : Grows g (g.dropReceiver id) none none :=
  .of_none rfl (fun _ htx => htx) fun r hr => ⟨r, List.mem_of_mem_filter hr, rfl, rfl⟩

theorem grows_send (c : Channel κ) : Grows g (g.send c) none none := by
  refine .of_none rfl (fun _ htx => htx) fun r hr => ?_
  obtain ⟨r', hr', rfl⟩ := List.mem_map.mp hr
  refine ⟨r', hr', ?_⟩
  split <;> exact ⟨rfl, rfl⟩

omit [DecidableEq κ] in
theorem grows_recv (capacity id : Nat) : Grows g (g.recv capacity id).2 none none := by
  unfold recv
  split
  next =>
    refine .of_none rfl (fun _ htx => htx) fun r hr => ?_
    obtain ⟨r', hr', rfl⟩ := List.mem_map.mp hr
    refine ⟨r', hr', ?_⟩
    split <;> exact ⟨rfl, rfl⟩
  next => exact g.grows_refl

end Growth

/-! ## A receiver that the others leave alone -/

/-- The receiver stays at its channel, with the messages it has not read, and the map keeps
the channel if it has it. -/
structure Stays (g g' : Registry κ) (rx : Nat) : Prop where
  receiver : ∀ r ∈ g.receivers, r.id = rx →
    ∃ r' ∈ g'.receivers, r'.id = rx ∧ r'.chan = r.chan ∧ r.unread ≤ r'.unread
  map : ∀ r ∈ g.receivers, r.id = rx → r.chan ∈ g.map → r.chan ∈ g'.map

omit [DecidableEq κ] in
/-- An operation that keeps the receivers, and the channels in the map. -/
theorem Stays.of_subset {g g' : Registry κ} {rx : Nat}
    (hreceivers : ∀ r ∈ g.receivers, r ∈ g'.receivers) (hmap : ∀ c ∈ g.map, c ∈ g'.map) :
    Stays g g' rx where
  receiver r hr hid := ⟨r, hreceivers r hr, hid, rfl, Nat.le_refl _⟩
  map _ _ _ hc := hmap _ hc

section Stay
variable (g : Registry κ) (rx : Nat)

theorem getOrInsert_mem (key : κ) : (g.getOrInsert key).1.chan ∈ (g.getOrInsert key).2.map := by
  unfold getOrInsert
  split
  next hget => exact mem_of_get? hget
  next => exact List.mem_append_right _ (List.mem_singleton.mpr rfl)

theorem map_getOrInsert {key : κ} {c : Channel κ} (hc : c ∈ g.map) :
    c ∈ (g.getOrInsert key).2.map := by
  unfold getOrInsert
  split
  next => exact hc
  next => exact List.mem_append_left _ hc

omit [DecidableEq κ] in
theorem stays_refl : Stays g g rx := .of_subset (fun _ hr => hr) fun _ hc => hc

theorem stays_getOrInsert (key : κ) : Stays g (g.getOrInsert key).2 rx := by
  refine .of_subset (fun r hr => ?_) fun _ hc => g.map_getOrInsert hc
  unfold getOrInsert
  split <;> exact hr

/-- A channel with a receiver is not removed. -/
theorem stays_retain : Stays g g.retain rx where
  receiver r hr hid := ⟨r, hr, hid, rfl, Nat.le_refl _⟩
  map r hr _ hc := by
    refine List.mem_filter.mpr ⟨hc, List.any_eq_true.mpr ⟨r, hr, ?_⟩⟩
    simp

omit [DecidableEq κ] in
theorem stays_subscribe (c : Channel κ) : Stays g (g.subscribe c).2 rx :=
  .of_subset (fun _ hr => List.mem_append_left _ hr) fun _ hc => hc

omit [DecidableEq κ] in
theorem stays_dropClone (id : Nat) : Stays g (g.dropClone id) rx :=
  .of_subset (fun _ hr => hr) fun _ hc => hc

omit [DecidableEq κ] in
theorem stays_dropReceiver {id : Nat} (hne : id ≠ rx) : Stays g (g.dropReceiver id) rx where
  receiver r hr hid := by
    refine ⟨r, List.mem_filter.mpr ⟨hr, ?_⟩, hid, rfl, Nat.le_refl _⟩
    simpa [hid] using hne.symm
  map _ _ _ hc := hc

theorem stays_send (c : Channel κ) : Stays g (g.send c) rx where
  receiver r hr hid := by
    refine ⟨_, List.mem_map.mpr ⟨r, hr, rfl⟩, ?_⟩
    split
    · exact ⟨hid, rfl, Nat.le_succ _⟩
    · exact ⟨hid, rfl, Nat.le_refl _⟩
  map _ _ _ hc := hc

omit [DecidableEq κ] in
theorem stays_recv (capacity : Nat) {id : Nat} (hne : id ≠ rx) :
    Stays g (g.recv capacity id).2 rx := by
  unfold recv
  split
  next =>
    refine ⟨fun r hr hid => ⟨r, List.mem_map.mpr ⟨r, hr, if_neg ?_⟩, hid, rfl, Nat.le_refl _⟩,
      fun _ _ _ hc => hc⟩
    rw [hid]
    exact hne.symm
  next => exact g.stays_refl rx

end Stay

end Registry

end Broadcast
