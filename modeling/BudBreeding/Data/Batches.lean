import Mathlib.Data.List.Basic

namespace BudBreeding.Data

/-! Rows that come and go in batches of one size. -/

variable {α κ : Type} [DecidableEq κ]

def batchSize (batch : α → Option κ) (rows : List α) (key : κ) : Nat :=
  rows.countP fun row => decide (batch row = some key)

/-- Every batch is empty, or it is full and has a marked row. -/
def Whole (full : Nat) (batch : α → Option κ) (marked : α → Bool) (rows : List α) :
    Prop :=
  ∀ key, batchSize batch rows key = 0 ∨
    batchSize batch rows key = full ∧
      ∃ row ∈ rows, batch row = some key ∧ marked row = true

variable {full : Nat} {batch : α → Option κ} {marked : α → Bool} {rows added : List α}

theorem batchSize_append (key : κ) :
    batchSize batch (rows ++ added) key =
      batchSize batch rows key + batchSize batch added key :=
  List.countP_append

theorem batchSize_of_all {key : κ} (all : ∀ row ∈ rows, batch row = some key) :
    batchSize batch rows key = rows.length := by
  apply List.countP_eq_length.mpr
  intro row member
  exact decide_eq_true (all row member)

theorem batchSize_of_none {key other : κ} (all : ∀ row ∈ rows, batch row = some key)
    (differ : key ≠ other) : batchSize batch rows other = 0 := by
  apply List.countP_eq_zero.mpr
  intro row member
  rw [all row member, decide_eq_true_iff]
  intro same
  exact differ (Option.some.inj same)

/-- A rewriting that keeps the batches it does not empty. -/
theorem batchSize_map {change : α → α} {kept : κ → Bool}
    (moved : ∀ row ∈ rows, batch (change row) = (batch row).filter kept) (key : κ) :
    batchSize batch (rows.map change) key =
      if kept key = true then batchSize batch rows key else 0 := by
  unfold batchSize
  rw [List.countP_map]
  split
  · next stays =>
    apply List.countP_congr
    intro row member
    simp only [Function.comp_apply, decide_eq_true_iff, moved row member,
      Option.filter_eq_some_iff]
    exact ⟨And.left, fun same => ⟨same, stays⟩⟩
  · next leaves =>
    apply List.countP_eq_zero.mpr
    intro row member
    simp only [Function.comp_apply, decide_eq_true_iff, moved row member,
      Option.filter_eq_some_iff]
    exact fun same => leaves same.2

namespace Whole

theorem nil : Whole full batch marked [] :=
  fun _ => .inl rfl

theorem append {key : κ} (whole : Whole full batch marked rows)
    (vacant : batchSize batch rows key = 0)
    (all : ∀ row ∈ added, batch row = some key) (counted : added.length = full)
    (one : ∃ row ∈ added, marked row = true) :
    Whole full batch marked (rows ++ added) := by
  intro other
  rw [batchSize_append]
  by_cases same : key = other
  · subst same
    obtain ⟨row, member, mark⟩ := one
    right
    constructor
    · rw [vacant, batchSize_of_all all, counted, Nat.zero_add]
    · exact ⟨row, List.mem_append_right _ member, all row member, mark⟩
  · rw [batchSize_of_none all same, Nat.add_zero]
    cases whole other with
    | inl empty => exact .inl empty
    | inr batched =>
        obtain ⟨counted, row, member, its, mark⟩ := batched
        exact .inr ⟨counted, row, List.mem_append_left _ member, its, mark⟩

theorem map {change : α → α} {kept : κ → Bool} (whole : Whole full batch marked rows)
    (moved : ∀ row ∈ rows, batch (change row) = (batch row).filter kept)
    (still : ∀ row ∈ rows, marked row = true → marked (change row) = true) :
    Whole full batch marked (rows.map change) := by
  intro key
  rw [batchSize_map moved]
  split
  · next stays =>
    cases whole key with
    | inl empty => exact .inl empty
    | inr batched =>
        obtain ⟨counted, row, member, its, mark⟩ := batched
        refine .inr ⟨counted, change row, List.mem_map_of_mem member, ?_,
          still row member mark⟩
        rw [moved row member, its]
        exact Option.filter_eq_some_iff.mpr ⟨rfl, stays⟩
  · exact .inl rfl

end Whole

end BudBreeding.Data
