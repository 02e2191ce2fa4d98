import Mathlib.Algebra.Order.Ring.Nat
import Mathlib.Data.Nat.Log

/-!
# Rounding to binary floating point

A binary floating-point format with `p` bits of precision has every whole number of at
most `p` bits.  From `2 ^ p` on it has those that are multiples of the unit in the last
place, `2 ^ (bits - p)`.  `nearest p n` is the number of the format that is nearest to `n`,
and of two that are as near the one whose last bit is zero.  Exponents are not bounded
here.
-/

namespace Rounding

/-- The unit in the last place of a number with as many bits as `n`. -/
def unit (p n : Nat) : Nat := 2 ^ (Nat.log2 n + 1 - p)

/-- The quotient by the unit, rounded to the nearest and to even. -/
def roundQuot (n u : Nat) : Nat :=
  if 2 * (n % u) < u ∨ (2 * (n % u) = u ∧ n / u % 2 = 0) then n / u else n / u + 1

/-- Round to `p` bits, to the nearest and to even. -/
def nearest (p n : Nat) : Nat :=
  if n < 2 ^ p then n else roundQuot n (unit p n) * unit p n

/-- Round a number with a sign. -/
def nearestInt (p : Nat) (x : Int) : Int := x.sign * nearest p x.natAbs

section Nearest
variable {p n : Nat}

theorem nearest_of_lt (h : n < 2 ^ p) : nearest p n = n := if_pos h

theorem unit_pos (p n : Nat) : 0 < unit p n := Nat.two_pow_pos _

/-- The format has every number of at most `p` bits, and its multiples by a power of two. -/
theorem nearest_mul_two_pow {m : Nat} (hm : m < 2 ^ p) (k : Nat) :
    nearest p (m * 2 ^ k) = m * 2 ^ k := by
  unfold nearest
  split
  next => rfl
  next hlarge =>
    have hne : m ≠ 0 := by
      rintro rfl
      exact hlarge (by simp)
    have hlog : Nat.log2 (m * 2 ^ k) < p + k :=
      (Nat.log2_lt (Nat.mul_ne_zero hne (Nat.two_pow_pos k).ne')).mpr (by
        rw [Nat.pow_add]
        exact Nat.mul_lt_mul_of_pos_right hm (Nat.two_pow_pos k))
    have hdvd : unit p (m * 2 ^ k) ∣ m * 2 ^ k :=
      Nat.dvd_mul_left_of_dvd (Nat.pow_dvd_pow 2 (by omega)) m
    have hmod : m * 2 ^ k % unit p (m * 2 ^ k) = 0 := Nat.mod_eq_zero_of_dvd hdvd
    have hquot : roundQuot (m * 2 ^ k) (unit p (m * 2 ^ k)) = m * 2 ^ k / unit p (m * 2 ^ k) :=
      if_pos (.inl (by rw [hmod]; exact unit_pos p _))
    rw [hquot, Nat.div_mul_cancel hdvd]

theorem nearestInt_of_lt {x : Int} (h : x.natAbs < 2 ^ p) : nearestInt p x = x := by
  rw [nearestInt, nearest_of_lt h, Int.sign_mul_natAbs]

theorem nearestInt_mul_two_pow {x : Int} (h : x.natAbs < 2 ^ p) (k : Nat) :
    nearestInt p (x * 2 ^ k) = x * 2 ^ k := by
  have hsize : (x * 2 ^ k).natAbs = x.natAbs * 2 ^ k := by simp [Int.natAbs_mul, Int.natAbs_pow]
  rw [nearestInt, hsize, nearest_mul_two_pow h, ← hsize, Int.sign_mul_natAbs]

theorem nearestInt_nonneg {x : Int} (h : 0 ≤ x) : 0 ≤ nearestInt p x :=
  Int.mul_nonneg (Int.sign_nonneg_iff.mpr h) (Int.natCast_nonneg _)

end Nearest

end Rounding
