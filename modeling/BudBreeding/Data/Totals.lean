import Mathlib.Algebra.BigOperators.Ring.Finset
import BudBreeding.Data.Table

namespace BudBreeding.Data.Serial

variable {α : Type} {key : α → Int} {table : Serial α key} {weight : α → Int}

/-! Sums over the rows of a table, and what one statement adds to them. -/

def total (weight : α → Int) (table : Serial α key) : Int :=
  (table.rows.map weight).sum

theorem total_create {make : Int → α} (keyed : ∀ id, key (make id) = id) :
    total weight (table.create make keyed) =
      total weight table + weight (make table.nextId) := by
  change ((table.rows ++ [_]).map weight).sum = _
  rw [List.map_append, List.sum_append, List.map_singleton, List.sum_singleton]
  rfl

theorem total_createMany_of_zero {δ : Type} {make : δ → Int → α}
    {keyed : ∀ data id, key (make data id) = id}
    (zero : ∀ data id, weight (make data id) = 0) (batch : List δ) :
    total weight (table.createMany make keyed batch) = total weight table := by
  induction batch generalizing table with
  | nil => rfl
  | cons data rest induction =>
      rw [createMany, induction, total_create, zero, add_zero]

theorem total_indicator {select : α → Prop} [DecidablePred select] :
    total (fun row => if select row then 1 else 0) table =
      table.rows.countP (fun row => select row) := by
  unfold total
  induction table.rows with
  | nil => rfl
  | cons row rest induction =>
      rw [List.map_cons, List.sum_cons, induction, List.countP_cons]
      by_cases selected : select row
      · simp only [selected, if_true, decide_true]
        omega
      · simp only [selected, if_false, decide_false, Bool.false_eq_true]
        omega

theorem total_filter {select : α → Prop} [DecidablePred select] :
    total (fun row => if select row then weight row else 0) table =
      ((table.rows.filter fun row => select row).map weight).sum := by
  unfold total
  induction table.rows with
  | nil => rfl
  | cons row rest induction =>
      rw [List.map_cons, List.sum_cons, induction]
      by_cases selected : select row
      · simp only [List.filter_cons, selected, decide_true, if_true, List.map_cons,
          List.sum_cons]
      · simp only [List.filter_cons, selected, decide_false, if_false, zero_add,
          Bool.false_eq_true]

variable {filter : α → Bool} {rewrite : α → α}
  {keyed : ∀ row, key (rewrite row) = key row}

theorem total_modify_of_same
    (same : ∀ row ∈ table.rows, filter row = true →
      weight (rewrite row) = weight row) :
    total weight (table.modify filter rewrite keyed) = total weight table := by
  change ((table.rows.map _).map weight).sum = _
  rw [List.map_map, total]
  congr 1
  apply List.map_congr_left
  intro row member
  rw [Function.comp_apply]
  split
  · next selected => exact same row member selected
  · rfl

theorem total_modify_key {row : α} (member : row ∈ table.rows) :
    total weight (table.modify (fun other => key other = key row) rewrite keyed) =
      total weight table + (weight (rewrite row) - weight row) := by
  have distinct := table.nodup
  change ((table.rows.map _).map weight).sum = (table.rows.map weight).sum + _
  rw [List.map_map]
  revert member distinct
  generalize table.rows = rows
  intro member distinct
  induction rows with
  | nil => exact absurd member List.not_mem_nil
  | cons first rest induction =>
      obtain ⟨fresh, others⟩ := List.nodup_cons.mp distinct
      rw [List.map_cons, List.sum_cons, List.map_cons, List.sum_cons,
        Function.comp_apply]
      cases List.mem_cons.mp member with
      | inl same =>
          have untouched : rest.map (weight ∘ fun other =>
              if decide (key other = key row) = true then rewrite other else other) =
                rest.map weight := by
            apply List.map_congr_left
            intro other later
            have apart : key other ≠ key row := by
              intro sameKey
              apply fresh
              rw [← same, ← sameKey]
              exact List.mem_map_of_mem later
            rw [Function.comp_apply, if_neg (by simpa using apart)]
          rw [untouched, ← same, if_pos (decide_eq_true rfl)]
          omega
      | inr later =>
          have apart : key first ≠ key row := by
            intro sameKey
            apply fresh
            rw [sameKey]
            exact List.mem_map_of_mem later
          rw [induction later others, if_neg (by simpa using apart)]
          omega

end BudBreeding.Data.Serial
