import Kagzi.Store.Models
import Mathlib.Data.Rat.Cast.Order
import Mathlib.Tactic.Linarith

/-!
# The delays between attempts

A retry policy has an initial interval, a coefficient and a maximum, and the
documentation gives the delay before the next attempt as the initial interval times a
power of the coefficient, capped at the maximum.  `calculate_delay_ms` steps the
iterator of `backon` instead.  The iterator is not given the coefficient, and doubles;
it ends after three delays; and its jitter is added after the cap.

With coefficient 3 the second delay is 2 s and not 3 s (`delay_is_not_tripled`).  The law
holds exactly where the coefficient does not show, the power has reached the maximum when
the iterator ends, and there is room for the jitter (`backoff_law_iff`).
-/

namespace Kagzi

namespace RetryPolicy

/-- The intervals are `i64`, the initial one is positive and at most the maximum, and the
coefficient is at least one. -/
structure Sensible (p : RetryPolicy) : Prop where
  initial_pos : 0 < p.initialIntervalMs
  initial_le : p.initialIntervalMs ≤ p.maximumIntervalMs
  maximum_lt : p.maximumIntervalMs < 2 ^ 63
  coefficient : 1 ≤ p.backoffCoefficient

/-- The delay of the documentation, in milliseconds. -/
def lawDelay (p : RetryPolicy) (k : Nat) : Rat :=
  min (p.initialIntervalMs * p.backoffCoefficient ^ (k - 1)) p.maximumIntervalMs

/-- Without jitter the delay is that of the documentation, and with jitter it is at most
the maximum. -/
def BackoffLaw (p : RetryPolicy) (k : Nat) : Prop :=
  (p.calculateDelayMs k 0 : Rat) = p.lawDelay k ∧
    ∀ rand, p.calculateDelayMs k rand ≤ p.maximumIntervalMs

/-- The coefficient is two, or both powers have reached the maximum, or there is none
yet.  Twice the delay is in reach of the maximum, or the maximum is that of an `i64`.
After the third delay the power has reached the maximum. -/
def Regular (p : RetryPolicy) (k : Nat) : Prop :=
  if k ≤ 3 then
    (k = 1 ∨ p.backoffCoefficient = 2 ∨ p.maximumIntervalMs ≤ p.initialIntervalMs * 2 ^ (k - 1) ∧
      (p.maximumIntervalMs : Rat) ≤ p.initialIntervalMs * p.backoffCoefficient ^ (k - 1)) ∧
    (2 * min (p.initialIntervalMs * 2 ^ (k - 1)) p.maximumIntervalMs - 1 ≤ p.maximumIntervalMs ∨
      p.maximumIntervalMs = 2 ^ 63 - 1)
  else (p.maximumIntervalMs : Rat) ≤ p.initialIntervalMs * p.backoffCoefficient ^ (k - 1)

section Law
variable {p : RetryPolicy} {k : Nat}

theorem asU64_of_nonneg {x : Int} (h : 0 ≤ x) (hx : x < 2 ^ 63) : (asU64 x : Int) = x := by
  unfold asU64
  omega

/-- The first three delays double, up to the maximum. -/
theorem exponential_of_lt {min max : Nat} (h : min ≤ max) {n : Nat} (hn : n < 3) :
    exponential min max n = some (Nat.min (min * 2 ^ n) max) := by
  have hnext : ∀ delay, nextDelay max delay = Nat.min (delay * 2) max ∨ max < delay := by
    intro delay
    unfold nextDelay
    split
    next => exact .inl rfl
    next hge =>
      rcases Nat.lt_or_ge max delay with hlt | hle
      · exact .inr hlt
      · refine .inl (Nat.min_eq_right ?_).symm
        omega
  have h₁ : nextDelay max min = Nat.min (min * 2) max := by
    rcases hnext min with h' | h'
    · exact h'
    · omega
  match n, hn with
  | 0, _ => simp [exponential, Nat.min_eq_left h]
  | 1, _ => simp [exponential, h₁]
  | 2, _ =>
      have h₂ : nextDelay max (Nat.min (min * 2) max) = Nat.min (Nat.min (min * 2) max * 2) max := by
        rcases hnext (Nat.min (min * 2) max) with h' | h'
        · exact h'
        · exact absurd h' (Nat.not_lt.mpr (Nat.min_le_right _ _))
      simp only [exponential, h₁, h₂, Option.some.injEq]
      simp only [Nat.min_def]
      split <;> split <;> split <;> omega

/-- What the first three delays are, with their jitter. -/
theorem calculateDelayMs_of_le (hp : p.Sensible) (hk : 1 ≤ k) (hk3 : k ≤ 3) (rand : Nat) :
    ∃ d : Nat, (d : Int) = min (p.initialIntervalMs * 2 ^ (k - 1)) p.maximumIntervalMs ∧ 0 < d ∧
      p.calculateDelayMs k rand = asI64 (d + rand % d) := by
  have hmin := asU64_of_nonneg hp.initial_pos.le (hp.initial_le.trans_lt hp.maximum_lt)
  have hmax := asU64_of_nonneg (hp.initial_pos.le.trans hp.initial_le) hp.maximum_lt
  have hle : asU64 p.initialIntervalMs ≤ asU64 p.maximumIntervalMs := by
    have := hp.initial_le
    omega
  have hpow : 0 < 2 ^ (k - 1) := Nat.two_pow_pos _
  have hpos : 0 < asU64 p.initialIntervalMs := by
    have := hp.initial_pos
    omega
  refine ⟨Nat.min (asU64 p.initialIntervalMs * 2 ^ (k - 1)) (asU64 p.maximumIntervalMs), ?_, ?_, ?_⟩
  · rw [show Nat.min (asU64 p.initialIntervalMs * 2 ^ (k - 1)) (asU64 p.maximumIntervalMs) =
      min (asU64 p.initialIntervalMs * 2 ^ (k - 1)) (asU64 p.maximumIntervalMs) from rfl]
    push_cast
    rw [hmin, hmax]
  · exact Nat.lt_min.mpr ⟨Nat.mul_pos hpos hpow, lt_of_lt_of_le hpos hle⟩
  · have hn : ((k : Int) - 1).toNat = k - 1 := by omega
    have hd : 0 < Nat.min (asU64 p.initialIntervalMs * 2 ^ (k - 1)) (asU64 p.maximumIntervalMs) :=
      Nat.lt_min.mpr ⟨Nat.mul_pos hpos hpow, lt_of_lt_of_le hpos hle⟩
    simp only [calculateDelayMs, hn, exponential_of_lt hle (show k - 1 < 3 by omega), withJitter,
      if_neg (Nat.ne_of_gt hd)]

/-- After the third delay it is the maximum. -/
theorem calculateDelayMs_of_lt (hp : p.Sensible) (hk : 3 < k) (rand : Nat) :
    p.calculateDelayMs k rand = p.maximumIntervalMs := by
  have hmax := asU64_of_nonneg (hp.initial_pos.le.trans hp.initial_le) hp.maximum_lt
  have hlt := hp.maximum_lt
  obtain ⟨n, hn⟩ : ∃ n, ((k : Int) - 1).toNat = n + 3 := ⟨k - 4, by omega⟩
  simp only [calculateDelayMs, hn, exponential]
  unfold asI64
  split <;> omega

/-- There is room for the jitter. -/
theorem jitter_iff {d : Nat} {max : Int} (hd : 0 < d) (hle : (d : Int) ≤ max) (hmax : max < 2 ^ 63) :
    (∀ rand, asI64 (d + rand % d) ≤ max) ↔ 2 * (d : Int) - 1 ≤ max ∨ max = 2 ^ 63 - 1 := by
  constructor
  · intro h
    by_contra hnot
    obtain ⟨hlt, hne⟩ := not_or.mp hnot
    -- the first delay above the maximum
    have h₁ := h (max.toNat + 1 - d)
    have hmod : (max.toNat + 1 - d) % d = max.toNat + 1 - d := Nat.mod_eq_of_lt (by omega)
    rw [hmod] at h₁
    unfold asI64 at h₁
    split at h₁ <;> omega
  · intro h rand
    have hmod := Nat.mod_lt rand hd
    unfold asI64
    split <;> omega

/-- Two values with one cap are equal or both above it. -/
theorem cap_of_ne {a b max : Rat} (h : min a max = min b max) (hne : a ≠ b) : max ≤ a ∧ max ≤ b := by
  rcases le_total max a with ha | ha <;> rcases le_total max b with hb | hb
  · exact ⟨ha, hb⟩
  · rw [min_eq_right ha, min_eq_left hb] at h
    exact ⟨ha, h.le⟩
  · rw [min_eq_left ha, min_eq_right hb] at h
    exact ⟨h.ge, hb⟩
  · rw [min_eq_left ha, min_eq_left hb] at h
    exact absurd h hne

/-- Where the two powers give one delay. -/
theorem powers_iff (hp : p.Sensible) (hk : 1 ≤ k) (hk3 : k ≤ 3) :
    ((min (p.initialIntervalMs * 2 ^ (k - 1)) p.maximumIntervalMs : Int) : Rat) = p.lawDelay k ↔
      k = 1 ∨ p.backoffCoefficient = 2 ∨ p.maximumIntervalMs ≤ p.initialIntervalMs * 2 ^ (k - 1) ∧
        (p.maximumIntervalMs : Rat) ≤ p.initialIntervalMs * p.backoffCoefficient ^ (k - 1) := by
  have hI : (0 : Rat) < p.initialIntervalMs := by exact_mod_cast hp.initial_pos
  have hc : (0 : Rat) ≤ p.backoffCoefficient := le_trans (by norm_num) hp.coefficient
  have hcast : ((min (p.initialIntervalMs * 2 ^ (k - 1)) p.maximumIntervalMs : Int) : Rat) =
      min ((p.initialIntervalMs : Rat) * 2 ^ (k - 1)) p.maximumIntervalMs := by
    push_cast
    rfl
  have hreach : p.maximumIntervalMs ≤ p.initialIntervalMs * 2 ^ (k - 1) ↔
      (p.maximumIntervalMs : Rat) ≤ (p.initialIntervalMs : Rat) * 2 ^ (k - 1) := by
    exact_mod_cast Iff.rfl
  rw [hcast, hreach]
  unfold lawDelay
  constructor
  · intro h
    by_contra hnot
    obtain ⟨hk1, hnot⟩ := not_or.mp hnot
    obtain ⟨hc2, hnot⟩ := not_or.mp hnot
    refine hnot (cap_of_ne h fun heq => hc2 ?_)
    have hpow : p.backoffCoefficient ^ (k - 1) = (2 : Rat) ^ (k - 1) :=
      (mul_left_cancel₀ hI.ne' heq).symm
    exact (pow_left_inj₀ hc (by norm_num) (by omega)).mp hpow
  · rintro (rfl | hc2 | ⟨h₁, h₂⟩)
    · simp
    · rw [hc2]
    · rw [min_eq_right h₁, min_eq_right h₂]

/-- The delays follow the law of the documentation exactly where they are regular. -/
theorem backoff_law_iff (p : RetryPolicy) (hp : p.Sensible) (k : Nat) (hk : 1 ≤ k) :
    p.BackoffLaw k ↔ p.Regular k := by
  unfold BackoffLaw Regular
  by_cases hk3 : k ≤ 3
  · rw [if_pos hk3]
    obtain ⟨d, hd, hpos, h₀⟩ := calculateDelayMs_of_le hp hk hk3 0
    have hdelay : ∀ rand, p.calculateDelayMs k rand = asI64 (d + rand % d) := by
      intro rand
      obtain ⟨d', hd', -, h'⟩ := calculateDelayMs_of_le hp hk hk3 rand
      obtain rfl : d = d' := by omega
      exact h'
    have hle : (d : Int) ≤ p.maximumIntervalMs := hd ▸ min_le_right _ _
    have hplain : p.calculateDelayMs k 0 = d := by
      have := hp.maximum_lt
      rw [hdelay, Nat.zero_mod, Nat.add_zero]
      unfold asI64
      split <;> omega
    simp only [hdelay, jitter_iff hpos hle hp.maximum_lt]
    rw [← hdelay, hplain, ← powers_iff hp hk hk3, ← hd]
  · rw [if_neg hk3]
    have hdelay := calculateDelayMs_of_lt hp (Nat.lt_of_not_le hk3)
    simp only [hdelay, le_refl, implies_true, and_true]
    unfold lawDelay
    rw [eq_comm, min_eq_right_iff]

end Law

/-- The default policy, for the first attempt. -/
theorem backoff_law_iff_default :
    (default.Sensible ∧ 1 ≤ 1) ∧ (default.BackoffLaw 1 ↔ default.Regular 1) := by
  have hp : default.Sensible := ⟨by decide, by decide, by decide, by norm_num [default]⟩
  exact ⟨⟨hp, le_refl 1⟩, backoff_law_iff default hp 1 (le_refl 1)⟩

/-- One second, tripled, at most a minute. -/
def tripled : RetryPolicy := { default with backoffCoefficient := 3 }

/-- The second delay is doubled. -/
theorem delay_is_not_tripled : ¬ ∀ p : RetryPolicy, p.Sensible → ∀ k, 1 ≤ k → p.BackoffLaw k := by
  intro h
  have hp : tripled.Sensible := ⟨by decide, by decide, by decide, by norm_num [tripled]⟩
  have hdelay : tripled.calculateDelayMs 2 0 = 2000 := by decide
  have hlaw : tripled.lawDelay 2 = 3000 := by norm_num [lawDelay, tripled, default]
  have h₂ := (h tripled hp 2 (by decide)).1
  rw [show ((2 : Nat) : Int) = 2 from rfl, hdelay, hlaw] at h₂
  norm_num at h₂

end RetryPolicy

end Kagzi
