import Mathlib.Algebra.Order.Field.Power
import Mathlib.Algebra.Order.Field.Rat
import Mathlib.Data.Nat.Log
import Mathlib.Tactic.Linarith
import Mathlib.Tactic.Positivity
import Mathlib.Tactic.Ring

namespace Parlando

/-- The values of the finite doubles: a significand of 53 bits and an exponent. -/
def IsDouble (x : Rat) : Prop :=
  ∃ m e : Int, m.natAbs < 2 ^ 53 ∧ -1074 ≤ e ∧ e ≤ 971 ∧ x = m * (2 : Rat) ^ e

theorem IsDouble.neg {x : Rat} (h : IsDouble x) : IsDouble (-x) := by
  obtain ⟨m, e, significand, low, high, rfl⟩ := h
  exact ⟨-m, e, by simpa using significand, low, high, by push_cast; ring⟩

namespace Double

/-- The multiple of `d` nearest to a number; of two, the even multiple. -/
def roundTo (d n : Nat) : Nat :=
  if 2 * (n % d) < d ∨ 2 * (n % d) = d ∧ n / d % 2 = 0 then n / d * d else (n / d + 1) * d

def excess (n : Nat) : Nat := n.log2 - 52

def ofNat (n : Nat) : Nat := roundTo (2 ^ excess n) n

/-- The double nearest to an integer, as a conversion of the integer to a float gives it. -/
def ofInt (n : Int) : Int := n.sign * ofNat n.natAbs

/-- The integer nearest to a number; of two, the even one. -/
def roundEven (x : Rat) : Int :=
  if x - x.floor < 1 / 2 ∨ x - x.floor = 1 / 2 ∧ x.floor % 2 = 0 then x.floor else x.floor + 1

def leadingBit (x : Rat) : Int :=
  let place : Int := x.num.natAbs.log2 - x.den.log2
  if (2 : Rat) ^ place ≤ x then place else place - 1

/--
The double nearest to a nonnegative number, as float arithmetic gives it; numbers beyond the largest
double keep the precision of a significand.
-/
def nearest (x : Rat) : Rat :=
  let unit : Rat := 2 ^ max (leadingBit x - 52) (-1074)
  roundEven (x / unit) * unit

theorem roundTo_cases (d n : Nat) :
    (roundTo d n = n / d * d ∧ 2 * (n % d) ≤ d) ∨
      (roundTo d n = (n / d + 1) * d ∧ d ≤ 2 * (n % d)) := by
  unfold roundTo
  split
  · exact .inl ⟨rfl, by omega⟩
  · exact .inr ⟨rfl, by omega⟩

theorem roundTo_one (n : Nat) : roundTo 1 n = n := by
  simp [roundTo, Nat.mod_one]

/-- No multiple is nearer. -/
theorem roundTo_nearest {d n k : Nat} (positive : 0 < d) (multiple : d ∣ k) :
    ((roundTo d n : Int) - n).natAbs ≤ ((k : Int) - n).natAbs := by
  obtain ⟨q, rfl⟩ := multiple
  have split := Nat.div_add_mod n d
  have small := Nat.mod_lt n positive
  have comm : d * (n / d) = n / d * d := Nat.mul_comm ..
  have side : d * q ≤ n / d * d ∨ n / d * d + d ≤ d * q := by
    rcases Nat.lt_or_ge (n / d) q with above | below
    · right
      have := Nat.mul_le_mul_left d above
      rw [Nat.mul_succ] at this
      omega
    · left
      have := Nat.mul_le_mul_left d below
      omega
  rcases roundTo_cases d n with ⟨same, half⟩ | ⟨same, half⟩ <;> rw [same]
  · omega
  · rw [Nat.succ_mul]
    omega

theorem excess_of_lt {n : Nat} (small : n < 2 ^ 53) : excess n = 0 := by
  have : n.log2 < 53 := by
    by_cases zero : n = 0
    · subst zero
      decide
    · exact (Nat.log2_lt zero).mpr small
  unfold excess
  omega

theorem ofNat_of_lt {n : Nat} (small : n < 2 ^ 53) : ofNat n = n := by
  rw [ofNat, excess_of_lt small, Nat.pow_zero, roundTo_one]

theorem two_pow_excess_le {n : Nat} (large : 2 ^ 53 ≤ n) :
    2 ^ (excess n + 52) ≤ n ∧ n < 2 ^ (excess n + 53) := by
  have zero : n ≠ 0 := by
    rintro rfl
    exact absurd large (by decide)
  have high : 53 ≤ n.log2 := (Nat.le_log2 zero).mpr large
  have low := Nat.log2_self_le zero
  have up := Nat.lt_log2_self (n := n)
  have same : excess n + 52 = n.log2 := by
    unfold excess
    omega
  rw [show excess n + 53 = n.log2 + 1 by omega, same]
  exact ⟨low, up⟩

/-- An integer that fits a significand is its own double. -/
theorem ofInt_of_lt {n : Int} (small : n.natAbs < 2 ^ 53) : ofInt n = n := by
  rw [ofInt, ofNat_of_lt small, Int.sign_mul_natAbs]

theorem isDouble_of_nat {m e : Nat} (significand : m < 2 ^ 53) (exponent : e ≤ 971) :
    IsDouble ((m * 2 ^ e : Nat) : Rat) :=
  ⟨m, e, by simpa using significand, by omega, by omega, by push_cast; simp⟩

theorem isDouble_ofNat {n : Nat} (range : n < 2 ^ 64) : IsDouble (ofNat n : Nat) := by
  by_cases small : n < 2 ^ 53
  · rw [ofNat_of_lt small]
    simpa using isDouble_of_nat small (e := 0) (by decide)
  obtain ⟨low, up⟩ := two_pow_excess_le (n := n) (by omega)
  have few : excess n ≤ 11 := by
    by_contra many
    have := Nat.pow_le_pow_right (n := 2) (by decide) (show 64 ≤ excess n + 52 by omega)
    omega
  have quotient : n / 2 ^ excess n < 2 ^ 53 := by
    rw [Nat.div_lt_iff_lt_mul (Nat.two_pow_pos _), ← Nat.pow_add, Nat.add_comm]
    exact up
  rcases roundTo_cases (2 ^ excess n) n with ⟨same, -⟩ | ⟨same, -⟩
  · rw [ofNat, same]
    exact isDouble_of_nat quotient (by omega)
  · rw [ofNat, same]
    by_cases carry : n / 2 ^ excess n + 1 = 2 ^ 53
    · rw [carry, ← Nat.pow_add, ← Nat.one_mul (2 ^ _)]
      exact isDouble_of_nat (by decide) (by omega)
    · exact isDouble_of_nat (by omega) (by omega)

/-- What a conversion of an integer gives is a double. -/
theorem isDouble_ofInt {n : Int} (range : n.natAbs < 2 ^ 64) : IsDouble (ofInt n : Int) := by
  have natural := isDouble_ofNat range
  rcases lt_trichotomy n 0 with negative | rfl | positive
  · rw [ofInt, Int.sign_eq_neg_one_of_neg negative]
    simpa using natural.neg
  · exact isDouble_of_nat (m := 0) (e := 0) (by decide) (by decide)
  · rw [ofInt, Int.sign_eq_one_of_pos positive]
    simpa using natural

/-- A double beyond the leading bit of a number is a multiple of the number's unit. -/
theorem exists_multiple {y : Rat} {k : Nat} (double : IsDouble y) (large : 2 ^ (k + 52) ≤ y) :
    ∃ j : Nat, y = (j * 2 ^ k : Nat) := by
  obtain ⟨m, e, significand, -, -, rfl⟩ := double
  have power : (0 : Rat) < 2 ^ e := by positivity
  have positive : 0 < m := by
    by_contra negative
    have : (m : Rat) ≤ 0 := by exact_mod_cast Int.not_lt.mp negative
    have := mul_nonpos_of_nonpos_of_nonneg this power.le
    have : (0 : Rat) < 2 ^ (k + 52) := by positivity
    linarith
  have exponent : (k : Int) ≤ e := by
    by_contra less
    have bound : (m : Rat) < 2 ^ 53 := by
      have : m < 2 ^ 53 := by omega
      exact_mod_cast this
    have step : (2 : Rat) ^ e ≤ 2 ^ ((k : Int) - 1) :=
      zpow_le_zpow_right₀ (by norm_num) (by omega)
    have product : (2 : Rat) ^ 53 * 2 ^ ((k : Int) - 1) = 2 ^ (k + 52) := by
      rw [← zpow_natCast, ← zpow_natCast, ← zpow_add₀ (by norm_num)]
      congr 1
      push_cast
      ring
    have : (m : Rat) * 2 ^ e < 2 ^ 53 * 2 ^ ((k : Int) - 1) :=
      lt_of_lt_of_le (mul_lt_mul_of_pos_right bound power)
        (mul_le_mul_of_nonneg_left step (by positivity))
    linarith
  refine ⟨m.toNat * 2 ^ (e - k).toNat, ?_⟩
  have natural : ((m.toNat : Nat) : Rat) = m := by exact_mod_cast Int.toNat_of_nonneg positive.le
  push_cast
  rw [natural, mul_assoc, ← zpow_natCast, ← zpow_natCast, ← zpow_add₀ (by norm_num),
    Int.toNat_of_nonneg (by omega)]
  congr 2
  ring

theorem ofNat_nearest {n : Nat} {y : Rat} (double : IsDouble y) :
    |(ofNat n : Rat) - n| ≤ |y - n| := by
  by_cases small : n < 2 ^ 53
  · rw [ofNat_of_lt small, sub_self, abs_zero]
    exact abs_nonneg _
  obtain ⟨low, -⟩ := two_pow_excess_le (n := n) (by omega)
  have multiples : ∀ k : Nat, 2 ^ excess n ∣ k → |(ofNat n : Rat) - n| ≤ |(k : Rat) - n| := by
    intro k multiple
    have near := roundTo_nearest (n := n) (Nat.two_pow_pos (excess n)) multiple
    have ints : |(ofNat n : Int) - n| ≤ |(k : Int) - n| := by
      rw [Int.abs_eq_natAbs, Int.abs_eq_natAbs]
      exact_mod_cast near
    exact_mod_cast ints
  by_cases large : (2 : Rat) ^ (excess n + 52) ≤ y
  · obtain ⟨j, rfl⟩ := exists_multiple double large
    exact multiples _ (Nat.dvd_mul_left ..)
  · -- Below the leading bit nothing is nearer than the power of two there.
    have leading := multiples (2 ^ (excess n + 52)) (Nat.pow_dvd_pow 2 (Nat.le_add_right ..))
    have below : ((2 ^ (excess n + 52) : Nat) : Rat) ≤ n := Nat.cast_le.mpr low
    rw [abs_of_nonpos (sub_nonpos.mpr below)] at leading
    rw [Nat.cast_pow, Nat.cast_ofNat] at leading below
    rw [abs_of_nonpos (show y - n ≤ 0 by linarith)]
    linarith

/-- No double is nearer to an integer than what its conversion gives. -/
theorem ofInt_nearest {n : Int} {y : Rat} (double : IsDouble y) :
    |(ofInt n : Rat) - n| ≤ |y - n| := by
  rcases lt_trichotomy n 0 with negative | rfl | positive
  · have near := ofNat_nearest (n := n.natAbs) double.neg
    have size : ((n.natAbs : Nat) : Rat) = -n := by
      rw [Nat.cast_natAbs, abs_of_neg negative, Int.cast_neg]
    rw [size] at near
    rw [ofInt, Int.sign_eq_neg_one_of_neg negative]
    push_cast
    rw [← abs_neg, ← abs_neg (y - n)]
    rw [show -(-1 * ((ofNat n.natAbs : Nat) : Rat) - n) = (ofNat n.natAbs : Nat) - -n by ring,
      show -(y - (n : Rat)) = -y - -n by ring]
    exact near
  · rw [ofInt_of_lt (by decide), sub_self, abs_zero]
    exact abs_nonneg _
  · have near := ofNat_nearest (n := n.natAbs) double
    have size : ((n.natAbs : Nat) : Rat) = n := by
      rw [Nat.cast_natAbs, abs_of_pos positive]
    rw [size] at near
    rw [ofInt, Int.sign_eq_one_of_pos positive, one_mul]
    exact_mod_cast near

end Double

end Parlando
