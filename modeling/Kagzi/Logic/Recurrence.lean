import Mathlib.Data.List.Basic
import Mathlib.Data.List.Nodup
import Mathlib.Data.List.Perm.Subperm
import Mathlib.Data.Int.Order.Basic

/-!
# Recurrences

A recurrence is a set of points in time given by its successor function:
`next t` is the first occurrence strictly after `t`.  The laws of the structure
say just that.  `nth t k` is the occurrence number `k` after `t`, counted from
zero, and `occurrences t u` lists the occurrences in `(t, u]` in increasing
order (`mem_occurrences`, `occurrences_pairwise`, `nth_eq_getElem`).
-/

/-- A set of points in time, given by the first of them after a point. -/
structure Recurrence where
  /-- The first occurrence strictly after a point. -/
  next : Int → Option Int
  lt_next : ∀ {t u : Int}, next t = some u → t < u
  /-- Nothing lies between a point and the first occurrence after it. -/
  next_of_lt : ∀ {t t' u : Int}, next t = some u → t ≤ t' → t' < u → next t' = some u
  next_none : ∀ {t t' : Int}, next t = none → t ≤ t' → next t' = none

namespace Recurrence

/-- The occurrence number `k` after `t`. -/
def nth (c : Recurrence) : Int → Nat → Option Int
  | t, 0 => c.next t
  | t, k + 1 => (c.next t).bind fun u => c.nth u k

/-- The first occurrences after `t`, up to `u` and at most `n` of them. -/
def occurrencesFuel (c : Recurrence) (u : Int) : Nat → Int → List Int
  | 0, _ => []
  | n + 1, t =>
      match c.next t with
      | some v => if v ≤ u then v :: c.occurrencesFuel u n v else []
      | none => []

/-- The occurrences in `(t, u]`. -/
def occurrences (c : Recurrence) (t u : Int) : List Int := c.occurrencesFuel u (u - t).toNat t

/-- The multiples of a period. -/
def every (period : Nat) (h : 0 < period) : Recurrence where
  next t := some ((t / period + 1) * period)
  lt_next := by
    rintro t u hu
    obtain rfl := Option.some.inj hu
    exact Int.lt_ediv_add_one_mul_self t (by omega)
  next_of_lt := by
    rintro t t' u hu htt' htu
    obtain rfl := Option.some.inj hu
    have hp : (0 : Int) < period := by omega
    have h1 : t / period ≤ t' / period := Int.ediv_le_ediv hp htt'
    have h2 : t' / period < t / period + 1 := (Int.ediv_lt_iff_lt_mul hp).mpr htu
    have h3 : t' / period = t / period := by omega
    rw [h3]
  next_none := by
    rintro t t' hn
    cases hn

/-- A single point. -/
def once (o : Int) : Recurrence where
  next t := if t < o then some o else none
  lt_next := by
    intro t u hu
    split at hu
    next hlt =>
      obtain rfl := Option.some.inj hu
      exact hlt
    next => cases hu
  next_of_lt := by
    intro t t' u hu _ htu
    split at hu
    next =>
      obtain rfl := Option.some.inj hu
      exact if_pos htu
    next => cases hu
  next_none := by
    intro t t' hn htt'
    split at hn
    next => cases hn
    next hge => exact if_neg (by omega)

/-! ## Occurrences -/

/-- The point is one of the set. -/
def Occurs (c : Recurrence) (o : Int) : Prop := ∃ t, c.next t = some o

variable {c : Recurrence} {t u v o : Int}

theorem occurs_of_next (h : c.next t = some u) : c.Occurs u := ⟨t, h⟩

/-- No occurrence lies between a point and the next one. -/
theorem next_le (h : c.next t = some u) (ho : c.Occurs o) (hlt : t < o) : u ≤ o := by
  obtain ⟨s, hs⟩ := ho
  by_contra hlt'
  have hou : o < u := by omega
  rcases Int.le_total s t with hst | hts
  · have hnext := c.next_of_lt hs hst hlt
    rw [h] at hnext
    obtain rfl := Option.some.inj hnext
    omega
  · have hsu : s < u := Int.lt_trans (c.lt_next hs) hou
    have hnext := c.next_of_lt h hts hsu
    rw [hs] at hnext
    obtain rfl := Option.some.inj hnext
    omega

/-- After the last occurrence there is none. -/
theorem le_of_next_none (h : c.next t = none) (ho : c.Occurs o) : o ≤ t := by
  obtain ⟨s, hs⟩ := ho
  by_contra hlt
  have hto : t < o := by omega
  rcases Int.le_total s t with hst | hts
  · rw [c.next_of_lt hs hst hto] at h
    cases h
  · rw [c.next_none h hts] at hs
    cases hs

theorem mem_occurrencesFuel : ∀ {n : Nat} {t : Int}, (u - t).toNat ≤ n →
    (o ∈ c.occurrencesFuel u n t ↔ c.Occurs o ∧ t < o ∧ o ≤ u)
  | 0, t, hn => by
      constructor
      · intro h
        cases h
      · rintro ⟨-, h1, h2⟩
        omega
  | n + 1, t, hn => by
      unfold occurrencesFuel
      split
      next v hv =>
        have htv := c.lt_next hv
        split
        next hvu =>
          rw [List.mem_cons, mem_occurrencesFuel (by omega)]
          constructor
          · rintro (rfl | ⟨ho, h1, h2⟩)
            · exact ⟨occurs_of_next hv, htv, hvu⟩
            · exact ⟨ho, by omega, h2⟩
          · rintro ⟨ho, h1, h2⟩
            have hvo := next_le hv ho h1
            rcases Int.lt_or_eq_of_le hvo with hlt | rfl
            · exact .inr ⟨ho, hlt, h2⟩
            · exact .inl rfl
        next hvu =>
          constructor
          · intro h
            cases h
          · rintro ⟨ho, h1, h2⟩
            have := next_le hv ho h1
            omega
      next hnone =>
        constructor
        · intro h
          cases h
        · rintro ⟨ho, h1, -⟩
          have := le_of_next_none hnone ho
          omega

/-- The list holds the occurrences of the interval and nothing else. -/
theorem mem_occurrences : o ∈ c.occurrences t u ↔ c.Occurs o ∧ t < o ∧ o ≤ u :=
  mem_occurrencesFuel (Nat.le_refl _)

theorem lt_of_mem_occurrencesFuel : ∀ {n : Nat} {t : Int}, o ∈ c.occurrencesFuel u n t → t < o
  | 0, t, h => by cases h
  | n + 1, t, h => by
      unfold occurrencesFuel at h
      split at h
      next v hv =>
        have htv := c.lt_next hv
        split at h
        next =>
          rcases List.mem_cons.mp h with rfl | h
          · exact htv
          · exact Int.lt_trans htv (lt_of_mem_occurrencesFuel h)
        next => cases h
      next => cases h

theorem occurrencesFuel_pairwise : ∀ (n : Nat) (t : Int),
    (c.occurrencesFuel u n t).Pairwise (· < ·)
  | 0, _ => List.Pairwise.nil
  | n + 1, t => by
      unfold occurrencesFuel
      split
      next v hv =>
        split
        next =>
          exact List.pairwise_cons.mpr ⟨fun o ho => lt_of_mem_occurrencesFuel ho,
            occurrencesFuel_pairwise n v⟩
        next => exact List.Pairwise.nil
      next => exact List.Pairwise.nil

/-- The list is in increasing order. -/
theorem occurrences_pairwise (c : Recurrence) (t u : Int) :
    (c.occurrences t u).Pairwise (· < ·) :=
  occurrencesFuel_pairwise _ _

theorem occurrences_nodup (c : Recurrence) (t u : Int) : (c.occurrences t u).Nodup :=
  (c.occurrences_pairwise t u).imp fun h => Int.ne_of_lt h

theorem nth_eq_getElem_fuel : ∀ {n : Nat} {t : Int} {k : Nat},
    k < (c.occurrencesFuel u n t).length → c.nth t k = (c.occurrencesFuel u n t)[k]?
  | 0, t, k, h => by cases h
  | n + 1, t, k, h => by
      unfold occurrencesFuel at h ⊢
      split at h
      next v hv =>
        split at h
        next hvu =>
          rw [if_pos hvu]
          cases k with
          | zero => exact hv
          | succ k =>
              rw [List.getElem?_cons_succ, ← nth_eq_getElem_fuel (by simpa using h)]
              unfold nth
              rw [hv, Option.bind_some]
              cases k <;> rfl
        next => cases h
      next => cases h

/-- The occurrences are numbered in the order of the list. -/
theorem nth_eq_getElem {k : Nat} (h : k < (c.occurrences t u).length) :
    c.nth t k = (c.occurrences t u)[k]? :=
  nth_eq_getElem_fuel h

theorem lt_of_nth_length_fuel {x : Int} : ∀ {n : Nat} {t : Int}, (u - t).toNat ≤ n →
    c.nth t (c.occurrencesFuel u n t).length = some x → u < x
  | 0, t, hn, h => by
      have := c.lt_next (show c.next t = some x from h)
      omega
  | n + 1, t, hn, h => by
      unfold occurrencesFuel at h
      split at h
      next v hv =>
        have htv := c.lt_next hv
        split at h
        next hvu =>
          rw [List.length_cons, nth, hv, Option.bind_some] at h
          exact lt_of_nth_length_fuel (by omega) h
        next hvu =>
          rw [List.length_nil, nth, hv] at h
          obtain rfl := Option.some.inj h
          omega
      next hnone =>
        rw [List.length_nil, nth, hnone] at h
        cases h

/-- The occurrence after those of the interval lies beyond it. -/
theorem lt_of_nth_length {x : Int} (h : c.nth t (c.occurrences t u).length = some x) : u < x :=
  lt_of_nth_length_fuel (Nat.le_refl _) h

/-! ## Counting occurrences -/

/-- A smaller interval has no more occurrences. -/
theorem occurrences_length_le {t' u' : Int} (ht : t' ≤ t) (hu : u ≤ u') :
    (c.occurrences t u).length ≤ (c.occurrences t' u').length := by
  refine ((c.occurrences_nodup t u).subperm fun o ho => ?_).length_le
  obtain ⟨hocc, h1, h2⟩ := mem_occurrences.mp ho
  exact mem_occurrences.mpr ⟨hocc, by omega, by omega⟩

/-- Two occurrences of an interval are counted as two. -/
theorem two_le_length {o' : Int} (ho : c.Occurs o) (ho' : c.Occurs o') (h1 : t < o)
    (h2 : o < o') (h3 : o' ≤ u) : 2 ≤ (c.occurrences t u).length := by
  have hsub : [o, o'] ⊆ c.occurrences t u := by
    intro x hx
    rcases List.mem_cons.mp hx with rfl | hx
    · exact mem_occurrences.mpr ⟨ho, h1, by omega⟩
    · obtain rfl := List.mem_singleton.mp hx
      exact mem_occurrences.mpr ⟨ho', by omega, h3⟩
  have hnodup : [o, o'].Nodup := by simp; omega
  exact (hnodup.subperm hsub).length_le

/-- The end of an increasing list from some point on is closed upwards. -/
theorem mem_drop_of_le {l : List Int} (hl : l.Pairwise (· < ·)) {k : Nat} (ho : o ∈ l.drop k)
    (hv : v ∈ l) (hle : o ≤ v) : v ∈ l.drop k := by
  obtain ⟨i, hi, rfl⟩ := List.mem_iff_getElem.mp ho
  obtain ⟨j, hj, rfl⟩ := List.mem_iff_getElem.mp hv
  rw [List.length_drop] at hi
  have hkj : k ≤ j := by
    by_contra hjk
    have := List.pairwise_iff_getElem.mp hl j (k + i) hj (by omega) (by omega)
    simp only [List.getElem_drop] at hle
    omega
  rw [List.mem_iff_getElem]
  refine ⟨j - k, by simp; omega, ?_⟩
  simp only [List.getElem_drop]
  congr 1
  omega

/-- Nothing from an entry of an increasing list on is smaller. -/
theorem getElem_le_of_mem_drop {l : List Int} (hl : l.Pairwise (· < ·)) {k : Nat}
    (hk : k < l.length) (ho : o ∈ l.drop k) : l[k] ≤ o := by
  obtain ⟨i, hi, rfl⟩ := List.mem_iff_getElem.mp ho
  rw [List.length_drop] at hi
  simp only [List.getElem_drop]
  rcases Nat.eq_zero_or_pos i with rfl | hpos
  · exact Int.le_refl _
  · exact Int.le_of_lt (List.pairwise_iff_getElem.mp hl k (k + i) hk (by omega) (by omega))

/-- What comes after the entry number `k` of an increasing list. -/
theorem mem_drop_of_lt {l : List Int} (hl : l.Pairwise (· < ·)) {k : Nat} (hk : k < l.length)
    (ho : o ∈ l) (hlt : l[k] < o) : o ∈ l.drop (k + 1) := by
  obtain ⟨j, hj, rfl⟩ := List.mem_iff_getElem.mp ho
  have hkj : k < j := by
    by_contra hjk
    rcases Nat.lt_or_eq_of_le (Nat.le_of_not_lt hjk) with hlt' | rfl
    · have := List.pairwise_iff_getElem.mp hl j k hj hk hlt'
      omega
    · omega
  rw [List.mem_iff_getElem]
  refine ⟨j - (k + 1), by simp; omega, ?_⟩
  simp only [List.getElem_drop]
  congr 1
  omega

/-- An entry with at most as many entries from it on as there are occurrences
after `q` lies after `q`. -/
theorem lt_getElem_of_length {q : Int} {k : Nat} (hk : k < (c.occurrences t u).length)
    (h : (c.occurrences t u).length - k ≤ (c.occurrences q u).length) :
    q < (c.occurrences t u)[k] := by
  by_contra hle
  have hmem := mem_occurrences.mp (List.getElem_mem hk)
  have hsub : c.occurrences q u ⊆ (c.occurrences t u).drop (k + 1) := by
    intro o ho
    obtain ⟨hocc, h1, h2⟩ := mem_occurrences.mp ho
    refine mem_drop_of_lt (c.occurrences_pairwise t u) hk ?_ (by omega)
    exact mem_occurrences.mpr ⟨hocc, by omega, h2⟩
  have hlen := ((c.occurrences_nodup q u).subperm hsub).length_le
  rw [List.length_drop] at hlen
  omega

end Recurrence
