import BudBreeding.Data.Unique
import BudBreeding.Backend.Schema

namespace BudBreeding.Statistics

open Data Backend

/-! The `Stats` table of `prisma/schema.prisma`. -/

structure Stats where
  id : Int
  address : Address
  totalSuccess : Option Int
  totalFailure : Option Int
  totalCancels : Option Int
  totalHours : Option Int
  bpForBreeding : Option Int
  bpForLandUpgrade : Option Int
  burnedBuds : Option Int
  createdAt : Time
  updatedAt : Time
  deriving DecidableEq, Repr

abbrev StatsTable := Unique Stats Stats.id Stats.address

/-- The value of an `INTEGER` expression: out of range, it fails its statement. -/
def integer (value : Int) : Option Int :=
  if -2147483648 ≤ value ∧ value ≤ 2147483647 then some value else none

/-! A query fails when the expression of one of its rows does. -/

section Rows

variable {α β : Type} {expression : α → Option β} {rows : List α}

theorem mapM_eq_some_map {value : α → β}
    (each : ∀ row ∈ rows, expression row = some (value row)) :
    rows.mapM expression = some (rows.map value) := by
  induction rows with
  | nil => rfl
  | cons row rest induction =>
      obtain ⟨first, others⟩ := List.forall_mem_cons.mp each
      rw [List.mapM_cons, first, induction others]
      rfl

theorem isSome_of_mapM {results : List β}
    (evaluated : rows.mapM expression = some results) :
    ∀ row ∈ rows, (expression row).isSome := by
  induction rows generalizing results with
  | nil =>
      intro row member
      exact absurd member List.not_mem_nil
  | cons row rest induction =>
      rw [List.mapM_cons] at evaluated
      obtain ⟨value, first, evaluated⟩ := Option.bind_eq_some_iff.mp evaluated
      obtain ⟨values, others, -⟩ := Option.bind_eq_some_iff.mp evaluated
      rw [List.forall_mem_cons, first]
      exact ⟨rfl, induction others⟩

theorem mapM_eq_filterMap (each : ∀ row ∈ rows, (expression row).isSome) :
    rows.mapM expression = some (rows.filterMap expression) := by
  induction rows with
  | nil => rfl
  | cons row rest induction =>
      obtain ⟨first, others⟩ := List.forall_mem_cons.mp each
      obtain ⟨value, evaluated⟩ := Option.isSome_iff_exists.mp first
      rw [List.mapM_cons, evaluated, induction others,
        List.filterMap_cons_some evaluated]
      rfl

end Rows

end BudBreeding.Statistics
