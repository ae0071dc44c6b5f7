import Mathlib.Data.Rat.Floor
import Mathlib.MeasureTheory.Measure.Lebesgue.Basic
import Mathlib.Tactic.Linarith

namespace BudBreeding.Data

/-! Draws from `[0, 1)`, and how often each number of a numbered draw comes up. -/

section Numbered

variable {K : Type} [Field K] [LinearOrder K] [IsStrictOrderedRing K] [FloorRing K]
  {random : K} {count number : Int}

/-- A draw numbered from `0` to `count - 1`. -/
def numbered (random : K) (count : Int) : Int :=
  ⌊random * count⌋

theorem numbered_le_iff (positive : 0 < count) :
    numbered random count ≤ number ↔ random < (number + 1) / count := by
  rw [numbered, Int.floor_le_iff, lt_div_iff₀ (Int.cast_pos.mpr positive)]

@[simp] theorem numbered_zero : numbered random 0 = 0 := by
  rw [numbered, Int.cast_zero, mul_zero, Int.floor_zero]

theorem numbered_nonneg (drawn : 0 ≤ random) (positive : 0 ≤ count) :
    0 ≤ numbered random count :=
  Int.floor_nonneg.mpr (mul_nonneg drawn (Int.cast_nonneg positive))

theorem numbered_lt (drawn : random < 1) (positive : 0 < count) :
    numbered random count < count := by
  rw [numbered, Int.floor_lt]
  exact mul_lt_of_lt_one_left (Int.cast_pos.mpr positive) drawn

@[simp] theorem numbered_cast (random : Rat) (count : Int) :
    numbered (random : K) count = numbered random count := by
  have cast : ⌊((random * count : Rat) : K)⌋ = ⌊random * count⌋ := Rat.floor_cast _
  push_cast at cast
  exact cast

end Numbered

section Uniform

open MeasureTheory

/-- The distribution of a draw. -/
noncomputable def uniform : Measure ℝ :=
  volume.restrict (Set.Ico 0 1)

theorem uniform_congr {draws others : Set ℝ}
    (same : ∀ random, 0 ≤ random → random < 1 → (random ∈ draws ↔ random ∈ others)) :
    uniform draws = uniform others := by
  rw [uniform, Measure.restrict_apply' measurableSet_Ico,
    Measure.restrict_apply' measurableSet_Ico]
  congr 1
  ext random
  exact and_congr_left fun drawn => same random drawn.1 drawn.2

theorem uniform_interval {draws : Set ℝ} {low high : ℝ} (least : 0 ≤ low) (most : high ≤ 1)
    (drawn : ∀ random, 0 ≤ random → random < 1 →
      (random ∈ draws ↔ low ≤ random ∧ random < high)) :
    uniform draws = ENNReal.ofReal (high - low) := by
  have interval : Set.Ico low high ∩ Set.Ico 0 1 = Set.Ico low high :=
    Set.inter_eq_left.mpr (Set.Ico_subset_Ico least most)
  have same : uniform draws = uniform (Set.Ico low high) := uniform_congr drawn
  rw [same, uniform, Measure.restrict_apply' measurableSet_Ico, interval, Real.volume_Ico]

theorem uniform_none {draws : Set ℝ}
    (missed : ∀ random, 0 ≤ random → random < 1 → random ∉ draws) :
    uniform draws = 0 := by
  rw [uniform_interval le_rfl zero_le_one, sub_self, ENNReal.ofReal_zero]
  intro random low high
  exact iff_of_false (missed random low high) fun both => not_lt.mpr both.1 both.2

theorem uniform_below {draws : Set ℝ} {limit : ℝ} (most : limit ≤ 1)
    (drawn : ∀ random, 0 ≤ random → random < 1 → (random ∈ draws ↔ random < limit)) :
    uniform draws = ENNReal.ofReal limit := by
  rw [uniform_interval le_rfl most, sub_zero]
  intro random low high
  rw [drawn random low high, and_iff_right low]

end Uniform

end BudBreeding.Data
