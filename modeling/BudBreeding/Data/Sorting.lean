import Mathlib.Data.List.Pairwise
import Mathlib.Data.List.Sort
import Mathlib.Order.Bounds.Basic
import BudBreeding.Data.Paging

namespace BudBreeding.Data

/-! Rows listed by a score, from the highest to the lowest.  Rows of equal score
stand in a fixed order of their labels.  And what the ends of a sorted list of keys
are. -/

section Listed

variable {α β ι σ : Type} [LinearOrder σ]

def ListedBefore (ties : LinearOrder ι) (score : α → σ) (label : α → ι)
    (first second : α) : Prop :=
  score second < score first ∨
    score first = score second ∧ ties.le (label first) (label second)

variable (ties : LinearOrder ι) (score : α → σ) (label : α → ι)

instance : DecidableRel (ListedBefore ties score label) := by
  intro first second
  have decideTie := ties.toDecidableLE (label first) (label second)
  exact inferInstanceAs (Decidable (_ ∨ _ ∧ ties.le (label first) (label second)))

instance : Std.Total (ListedBefore ties score label) := by
  constructor
  intro first second
  rcases lt_trichotomy (score first) (score second) with lower | equal | higher
  · exact .inr (.inl lower)
  · cases ties.le_total (label first) (label second) with
    | inl before => exact .inl (.inr ⟨equal, before⟩)
    | inr after => exact .inr (.inr ⟨equal.symm, after⟩)
  · exact .inl (.inl higher)

instance : IsTrans α (ListedBefore ties score label) := by
  constructor
  intro first second third upper lower
  cases upper with
  | inl above =>
      cases lower with
      | inl below => exact .inl (lt_trans below above)
      | inr level => exact .inl (level.1 ▸ above)
  | inr tied =>
      cases lower with
      | inl below => exact .inl (tied.1.symm ▸ below)
      | inr level =>
          exact .inr ⟨tied.1.trans level.1, ties.le_trans _ _ _ tied.2 level.2⟩

def listed (rows : List α) : List α :=
  rows.insertionSort (ListedBefore ties score label)

variable {ties score label} {rows : List α}

theorem label_eq_of_listedBefore {first second : α}
    (before : ListedBefore ties score label first second)
    (after : ListedBefore ties score label second first) :
    label first = label second := by
  cases before with
  | inl above =>
      cases after with
      | inl below => exact absurd below (lt_asymm above)
      | inr level => exact absurd level.1 (ne_of_lt above)
  | inr tied =>
      cases after with
      | inl below => exact absurd tied.1 (ne_of_lt below)
      | inr level => exact ties.le_antisymm _ _ tied.2 level.2

theorem listed_perm (rows : List α) : (listed ties score label rows).Perm rows :=
  List.perm_insertionSort _ rows

theorem listed_descending (rows : List α) :
    Descending score (listed ties score label rows) := by
  apply (List.pairwise_insertionSort (ListedBefore ties score label) rows).imp
  intro first second before
  cases before with
  | inl above => exact le_of_lt above
  | inr tied => exact ge_of_eq tied.1

/-- A selection may be made before or after the rows are listed. -/
theorem listed_filter (distinct : (rows.map label).Nodup) (select : α → Bool) :
    listed ties score label (rows.filter select) =
      (listed ties score label rows).filter select := by
  have same : (listed ties score label (rows.filter select)).Perm
      ((listed ties score label rows).filter select) :=
    (listed_perm (rows.filter select)).trans ((listed_perm rows).filter select).symm
  have alike : ∀ first second, first ∈ listed ties score label (rows.filter select) →
      second ∈ (listed ties score label rows).filter select →
      ListedBefore ties score label first second →
      ListedBefore ties score label second first → first = second := by
    intro first second left right before after
    have present := (List.mem_filter.mp (same.mem_iff.mp left)).1
    have selected := (List.mem_filter.mp right).1
    exact List.inj_on_of_nodup_map distinct ((listed_perm rows).mem_iff.mp present)
      ((listed_perm rows).mem_iff.mp selected)
      (label_eq_of_listedBefore before after)
  exact List.Perm.eq_of_pairwise alike (List.pairwise_insertionSort _ _)
    ((List.pairwise_insertionSort _ rows).filter select) same

theorem listed_map {copy : β → α} {original : List β} :
    listed ties score label (original.map copy) =
      (listed ties (fun row => score (copy row)) (fun row => label (copy row))
        original).map copy := by
  symm
  apply List.map_insertionSort
  intro first _ second _
  exact Iff.rfl

end Listed

section Keys

variable {κ : Type} [LinearOrder κ] {keys : List κ} {value key : κ}

/-- The first key that is not below a value is the least such key. -/
theorem isLeast_of_find? (sorted : keys.Pairwise (· ≤ ·))
    (found : keys.find? (fun key => value ≤ key) = some key) :
    IsLeast {other | other ∈ keys ∧ value ≤ other} key := by
  obtain ⟨reached, front, rest, split, passed⟩ := List.find?_eq_some_iff_append.mp found
  refine ⟨⟨List.mem_of_find?_eq_some found, of_decide_eq_true reached⟩, ?_⟩
  intro other above
  rw [split] at sorted above
  rcases List.mem_append.mp above.1 with before | after
  · have below := passed other before
    simp only [above.2, decide_true, Bool.not_true, Bool.false_eq_true] at below
  · have ordered := (List.pairwise_append.mp sorted).2.1
    rcases List.mem_cons.mp after with rfl | later
    · exact le_rfl
    · exact List.rel_of_pairwise_cons ordered later

theorem isGreatest_getLast (sorted : keys.Pairwise (· ≤ ·)) (filled : keys ≠ []) :
    IsGreatest {other | other ∈ keys} (keys.getLast filled) := by
  refine ⟨List.getLast_mem filled, ?_⟩
  intro other member
  exact sorted.rel_getLast member

end Keys

end BudBreeding.Data
