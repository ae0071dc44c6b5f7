import Mathlib.Algebra.Order.BigOperators.Group.List
import BudBreeding.Data.Table

namespace BudBreeding.Data

/-! Rows that may change but never go away. -/

/-- Every row of `before` has a related one in `after`. -/
def Persists {α : Type} (related : α → α → Prop) (before after : List α) :
    Prop :=
  ∀ row ∈ before, ∃ later ∈ after, related row later

namespace Persists

variable {α κ : Type} {key : α → κ} {related : α → α → Prop}
  {before middle after : List α}

theorem of_subset (refl : ∀ row, related row row)
    (kept : before ⊆ after) : Persists related before after :=
  fun row member => ⟨row, kept member, refl row⟩

theorem refl (reflexive : ∀ row, related row row) (rows : List α) :
    Persists related rows rows :=
  of_subset reflexive (List.Subset.refl rows)

theorem trans (transitive : ∀ {first second third}, related first second →
      related second third → related first third)
    (left : Persists related before middle)
    (right : Persists related middle after) :
    Persists related before after := by
  intro row member
  obtain ⟨changed, present, first⟩ := left row member
  obtain ⟨later, found, second⟩ := right changed present
  exact ⟨later, found, transitive first second⟩

theorem modify {table : Table α key} {filter : α → Bool} {rewrite : α → α}
    (keyed : ∀ row, key (rewrite row) = key row)
    (reflexive : ∀ row, related row row)
    (changed : ∀ row ∈ table.rows, filter row = true →
      related row (rewrite row)) :
    Persists related table.rows (table.modify filter rewrite keyed).rows := by
  intro row member
  refine ⟨_, Table.mem_modify.mpr ⟨row, member, rfl⟩, ?_⟩
  split
  · next selected => exact changed row member selected
  · exact reflexive row

variable {index : α → Int} {serial : Serial α index}

theorem createMany {δ : Type} {make : δ → Int → α}
    {keyed : ∀ data id, index (make data id) = id} {batch : List δ}
    (reflexive : ∀ row, related row row) :
    Persists related serial.rows (serial.createMany make keyed batch).rows := by
  rw [Serial.rows_createMany]
  exact of_subset reflexive (List.subset_append_left _ _)

theorem modifySerial {filter : α → Bool} {rewrite : α → α}
    {keyed : ∀ row, index (rewrite row) = index row}
    (reflexive : ∀ row, related row row)
    (changed : ∀ row ∈ serial.rows, filter row = true →
      related row (rewrite row)) :
    Persists related serial.rows (serial.modify filter rewrite keyed).rows := by
  have kept : Persists related serial.rows
      (serial.toTable.modify filter rewrite keyed).rows :=
    modify keyed reflexive changed
  exact kept

theorem filter {select : α → Bool} (persists : Persists related before after)
    (kept : ∀ {row later}, related row later → select row = true →
      select later = true) :
    Persists related (before.filter select) (after.filter select) := by
  intro row member
  obtain ⟨listed, selected⟩ := List.mem_filter.mp member
  obtain ⟨later, present, change⟩ := persists row listed
  exact ⟨later, List.mem_filter.mpr ⟨present, kept change selected⟩, change⟩

/-- A sum grows when the rows of a table keep their keys, their weights grow and
those of new rows are not negative. -/
theorem sum_le {ν : Type} [AddCommMonoid ν] [PartialOrder ν]
    [IsOrderedAddMonoid ν] {weight : α → ν}
    (persists : Persists related before after)
    (distinct : (before.map key).Nodup)
    (keyed : ∀ {row later}, related row later → key later = key row)
    (grows : ∀ {row later}, related row later → weight row ≤ weight later)
    (nonneg : ∀ row ∈ after, 0 ≤ weight row) :
    (before.map weight).sum ≤ (after.map weight).sum := by
  induction before generalizing after with
  | nil => exact List.sum_nonneg (by simpa using nonneg)
  | cons row rest induction =>
      obtain ⟨fresh, others⟩ := List.nodup_cons.mp distinct
      obtain ⟨later, present, change⟩ := persists row List.mem_cons_self
      obtain ⟨left, right, rfl⟩ := List.append_of_mem present
      have remaining : Persists related rest (left ++ right) := by
        intro other member
        obtain ⟨changed, listed, kept⟩ :=
          persists other (List.mem_cons_of_mem _ member)
        refine ⟨changed, ?_, kept⟩
        rcases List.mem_append.mp listed with before | after
        · exact List.mem_append_left _ before
        · rcases List.mem_cons.mp after with same | after
          · refine absurd ?_ fresh
            rw [← keyed change, ← same, keyed kept]
            exact List.mem_map_of_mem member
          · exact List.mem_append_right _ after
      have rests := induction remaining others fun other member => by
        rcases List.mem_append.mp member with before | after
        · exact nonneg other (List.mem_append_left _ before)
        · exact nonneg other
            (List.mem_append_right _ (List.mem_cons_of_mem _ after))
      calc ((row :: rest).map weight).sum
          = weight row + (rest.map weight).sum := by simp
        _ ≤ weight later + ((left ++ right).map weight).sum :=
            add_le_add (grows change) rests
        _ = ((left ++ later :: right).map weight).sum := by
            simp [add_left_comm]

end Persists

theorem sum_filter_concat {α ν : Type} [AddMonoid ν] {select : α → Bool}
    {weight : α → ν} (rows : List α) (row : α) :
    (((rows ++ [row]).filter select).map weight).sum =
      ((rows.filter select).map weight).sum +
        if select row = true then weight row else 0 := by
  rw [List.filter_append, List.map_append, List.sum_append, List.filter_cons]
  congr 1
  split
  · exact List.sum_singleton
  · rfl

end BudBreeding.Data
