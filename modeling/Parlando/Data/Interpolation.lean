import Mathlib.Algebra.Order.Floor.Ring
import Mathlib.Data.List.GetD
import Mathlib.Tactic.Linarith
import Mathlib.Tactic.Ring

namespace Parlando

variable {K : Type*} [Field K] [LinearOrder K] [FloorRing K]

/-- The value at a position; the last sample stands in for a successor that is not there. -/
def interpolate (xs : List K) (p : K) : K :=
  let left := ⌊p⌋₊
  let right := min (left + 1) (xs.length - 1)
  let fraction := p - left
  xs.getD left 0 * (1 - fraction) + xs.getD right 0 * fraction

/-- So many samples tell the value at a position: at a sample itself it needs no successor. -/
def Known (length : ℕ) (p : K) : Prop :=
  ⌊p⌋₊ < length ∧ ((⌊p⌋₊ : K) = p ∨ ⌊p⌋₊ + 1 < length)

variable {xs ys : List K} {p lo hi : K} {length length' start : ℕ}

theorem Known.mono (known : Known length p) (more : length ≤ length') : Known length' p :=
  ⟨by have := known.1; omega, known.2.imp_right fun next => by omega⟩

/-- Later samples do not change a value that is known. -/
theorem interpolate_append (known : Known xs.length p) :
    interpolate (xs ++ ys) p = interpolate xs p := by
  obtain ⟨inside, whole | next⟩ := known
  · simp only [interpolate, whole, sub_self, mul_zero, add_zero, List.getD_append _ _ _ _ inside]
  · have right : min (⌊p⌋₊ + 1) (xs.length - 1) = ⌊p⌋₊ + 1 := by omega
    have right' : min (⌊p⌋₊ + 1) ((xs ++ ys).length - 1) = ⌊p⌋₊ + 1 := by
      rw [List.length_append]
      omega
    simp only [interpolate, right, right', List.getD_append _ _ _ _ inside, List.getD_append _ _ _ _ next]

/-- The fraction of a position counted from a later sample. -/
theorem sub_floor_sub (before : start ≤ ⌊p⌋₊) :
    p - start - ((⌊p⌋₊ - start : ℕ) : K) = p - (⌊p⌋₊ : K) := by
  rw [Nat.cast_sub before]
  ring

variable [IsStrictOrderedRing K]

/-- A value is known unless its position is not inside, or a successor is needed and missing. -/
theorem known_iff (positive : 0 ≤ p) : Known length p ↔
    p < length ∧ ¬(p - (⌊p⌋₊ : K) > 0 ∧ ⌊p⌋₊ + 1 ≥ length) := by
  unfold Known
  rw [Nat.floor_lt positive, not_and_or, not_lt, sub_nonpos, not_le]
  refine and_congr_right fun _ => or_congr_left ⟨fun same => same.ge, fun below => ?_⟩
  exact le_antisymm (Nat.floor_le positive) below

section Drop

variable (before : start ≤ ⌊p⌋₊)

include before

theorem interpolate_drop (inside : ⌊p⌋₊ < xs.length) :
    interpolate (xs.drop start) (p - start) = interpolate xs p := by
  have left : start + (⌊p⌋₊ - start) = ⌊p⌋₊ := by omega
  have right : start + min (⌊p⌋₊ - start + 1) (xs.length - start - 1) =
      min (⌊p⌋₊ + 1) (xs.length - 1) := by omega
  simp only [interpolate, Nat.floor_sub_natCast, sub_floor_sub before, List.length_drop,
    List.getD_eq_getElem?_getD, List.getElem?_drop, left, right]

theorem known_sub_iff : Known (length - start) (p - start) ↔ Known length p := by
  unfold Known
  have whole : ((⌊p⌋₊ - start : ℕ) : K) = p - start ↔ (⌊p⌋₊ : K) = p := by
    rw [Nat.cast_sub before]
    exact sub_left_inj
  rw [Nat.floor_sub_natCast, whole]
  refine and_congr (by omega) (or_congr_right (by omega))

end Drop

/-- A value lies between the bounds of the samples. -/
theorem interpolate_mem_Icc (positive : 0 ≤ p) (inside : ⌊p⌋₊ < xs.length)
    (bounded : ∀ x ∈ xs, x ∈ Set.Icc lo hi) : interpolate xs p ∈ Set.Icc lo hi := by
  have at_ {i : ℕ} (low : i < xs.length) : xs.getD i 0 ∈ Set.Icc lo hi := by
    rw [List.getD_eq_getElem _ _ low]
    exact bounded _ (List.getElem_mem low)
  have left := at_ inside
  have right := at_ (show min (⌊p⌋₊ + 1) (xs.length - 1) < xs.length by omega)
  have zero : 0 ≤ p - (⌊p⌋₊ : K) := sub_nonneg.mpr (Nat.floor_le positive)
  have one : 0 ≤ 1 - (p - (⌊p⌋₊ : K)) := by
    have := Nat.lt_floor_add_one p
    linarith
  unfold interpolate
  constructor
  · nlinarith [mul_le_mul_of_nonneg_right left.1 one, mul_le_mul_of_nonneg_right right.1 zero]
  · nlinarith [mul_le_mul_of_nonneg_right left.2 one, mul_le_mul_of_nonneg_right right.2 zero]

end Parlando
