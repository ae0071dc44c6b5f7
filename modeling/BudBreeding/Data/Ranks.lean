import Mathlib.Data.List.MinMax

namespace BudBreeding.Data

/-! Rows ranked by a score, and the list cut off at a rank. -/

variable {α σ : Type} [LinearOrder σ]

/-- How many rows have a higher score. -/
def above (score : α → σ) (rows : List α) (value : σ) : Nat :=
  rows.countP fun other => value < score other

/-- `RANK() OVER(ORDER BY score DESC)`. -/
def rankOf (score : α → σ) (rows : List α) (row : α) : Nat :=
  above score rows (score row) + 1

def top (places : Nat) (score : α → σ) (rows : List α) : List α :=
  rows.filter fun row => rankOf score rows row ≤ places

variable {score : α → σ} {rows : List α} {places limit : Nat}

theorem above_le {low high : σ} (le : low ≤ high) :
    above score rows high ≤ above score rows low := by
  apply List.countP_mono_left
  intro other _ higher
  exact decide_eq_true (le.trans_lt (of_decide_eq_true higher))

/-- A row is above the lower ones and not above itself. -/
theorem above_lt {row : α} {low : σ} (listed : row ∈ rows) (lower : low < score row) :
    above score rows (score row) < above score rows low := by
  obtain ⟨left, right, rfl⟩ := List.append_of_mem listed
  have before := @above_le _ _ _ score left _ _ lower.le
  have after := @above_le _ _ _ score right _ _ lower.le
  simp only [above, List.countP_append, List.countP_cons, lt_irrefl, decide_false,
    lower, decide_true] at before after ⊢
  simp only [Bool.false_eq_true, if_false, if_true]
  omega

/-- A row with as many rows above it as there are places bounds the list. -/
theorem length_top_le_above {row : α} (full : places ≤ above score rows (score row)) :
    (top places score rows).length ≤ above score rows (score row) := by
  rw [top, ← List.countP_eq_length_filter]
  apply List.countP_mono_left
  intro other _ ranked
  by_contra lower
  have behind := @above_le _ _ _ score rows _ _ (not_lt.mp (of_decide_eq_false
    (Bool.eq_false_of_not_eq_true lower)))
  have placed : above score rows (score other) + 1 ≤ places := of_decide_eq_true ranked
  omega

/-- The best row that is cut off has only listed rows above it. -/
theorem exists_cut (cut : (top places score rows).length < rows.length) :
    ∃ row ∈ rows, places ≤ above score rows (score row) ∧
      above score rows (score row) ≤ (top places score rows).length := by
  let out := rows.filter fun row => !decide (rankOf score rows row ≤ places)
  have nonempty : out ≠ [] := by
    intro none
    rw [List.filter_eq_nil_iff] at none
    have all : top places score rows = rows := by
      apply List.filter_eq_self.mpr
      intro row member
      have kept := none row member
      rwa [Bool.not_eq_true', Bool.not_eq_false] at kept
    rw [all] at cut
    exact lt_irrefl _ cut
  have found : out.argmax score ≠ none := by
    intro none
    exact nonempty (List.argmax_eq_none.mp none)
  obtain ⟨row, best⟩ := Option.ne_none_iff_exists'.mp found
  obtain ⟨listed, unranked⟩ := List.mem_filter.mp (List.argmax_mem best)
  refine ⟨row, listed, ?_, ?_⟩
  · have beyond : ¬ above score rows (score row) + 1 ≤ places := by
      rw [Bool.not_eq_true', decide_eq_false_iff_not] at unranked
      exact unranked
    omega
  · rw [top, ← List.countP_eq_length_filter]
    apply List.countP_mono_left
    intro other member higher
    by_contra unlisted
    have behind := List.le_of_mem_argmax (List.mem_filter.mpr ⟨member, by
      rw [Bool.not_eq_true', Bool.eq_false_of_not_eq_true unlisted]⟩) best
    exact absurd (of_decide_eq_true higher) (not_lt.mpr behind)

/-- The list is short just when there are few rows, or when some row has enough rows
above it for the places, and not too many. -/
theorem length_top_le_iff :
    (top places score rows).length ≤ limit ↔
      rows.length ≤ limit ∨ ∃ row ∈ rows, places ≤ above score rows (score row) ∧
        above score rows (score row) ≤ limit := by
  constructor
  · intro short
    by_cases all : rows.length ≤ limit
    · exact .inl all
    · obtain ⟨row, listed, full, listable⟩ :=
        exists_cut (lt_of_le_of_lt short (not_le.mp all))
      exact .inr ⟨row, listed, full, listable.trans short⟩
  · intro few
    cases few with
    | inl few => exact (List.length_filter_le _ _).trans few
    | inr some =>
        obtain ⟨row, -, full, few⟩ := some
        exact (length_top_le_above full).trans few

end BudBreeding.Data
