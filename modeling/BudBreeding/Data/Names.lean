import Mathlib.Data.List.Induction
import Mathlib.Data.List.Infix
import Mathlib.Logic.Function.Basic

namespace BudBreeding.Data

/-! Names that are stripped of blanks, and a registry of who holds which name. -/

section Strip

variable {α : Type} {blank wider : α → Bool} {letters : List α}

def strip (blank : α → Bool) (letters : List α) : List α :=
  ((letters.dropWhile blank).reverse.dropWhile blank).reverse

structure Stripped (blank : α → Bool) (letters : List α) : Prop where
  first : ∀ letter, letters.head? = some letter → blank letter = false
  last : ∀ letter, letters.getLast? = some letter → blank letter = false

theorem not_blank_of_head?_dropWhile {letter : α}
    (first : (letters.dropWhile blank).head? = some letter) : blank letter = false := by
  have holds := List.head?_dropWhile_not blank letters
  rw [first] at holds
  exact holds

theorem dropWhile_of_not_blank
    (unblank : ∀ letter, letters.head? = some letter → blank letter = false) :
    letters.dropWhile blank = letters := by
  cases letters with
  | nil => rfl
  | cons letter rest =>
      rw [List.dropWhile_cons_of_neg]
      rw [unblank letter rfl]
      exact Bool.false_ne_true

theorem stripped_strip (blank : α → Bool) (letters : List α) :
    Stripped blank (strip blank letters) := by
  constructor
  · intro letter first
    have shorter : strip blank letters <+: letters.dropWhile blank := by
      have ending := List.dropWhile_suffix blank (l := (letters.dropWhile blank).reverse)
      rwa [← List.reverse_prefix, List.reverse_reverse] at ending
    obtain ⟨rest, same⟩ := shorter
    have start : (letters.dropWhile blank).head? = some letter := by
      rw [← same, List.head?_append, first]
      rfl
    exact not_blank_of_head?_dropWhile start
  · intro letter last
    rw [strip, List.getLast?_reverse] at last
    exact not_blank_of_head?_dropWhile last

theorem Stripped.strip_eq (stripped : Stripped blank letters) :
    strip blank letters = letters := by
  have ends : letters.reverse.dropWhile blank = letters.reverse := by
    apply dropWhile_of_not_blank
    intro letter last
    rw [List.head?_reverse] at last
    exact stripped.last letter last
  rw [strip, dropWhile_of_not_blank stripped.first, ends, List.reverse_reverse]

theorem Stripped.of_wider (stripped : Stripped wider letters)
    (wide : ∀ letter, blank letter = true → wider letter = true) :
    Stripped blank letters := by
  have unblank : ∀ letter, wider letter = false → blank letter = false := by
    intro letter other
    apply Bool.eq_false_iff.mpr
    intro blanked
    rw [wide letter blanked] at other
    cases other
  constructor
  · intro letter first
    exact unblank letter (stripped.first letter first)
  · intro letter last
    exact unblank letter (stripped.last letter last)

/-- Fewer blanks leave stripped letters as they are. -/
theorem strip_strip_of_wider (wide : ∀ letter, blank letter = true → wider letter = true)
    (letters : List α) : strip blank (strip wider letters) = strip wider letters :=
  ((stripped_strip wider letters).of_wider wide).strip_eq

end Strip

abbrev Registry (κ ν : Type) := κ → Option ν

namespace Registry

variable {κ ν : Type} {registry : Registry κ ν} {holder : κ} {name : ν}

def empty : Registry κ ν := fun _ => none

def Free (registry : Registry κ ν) (name : ν) : Prop :=
  ∀ holder, registry holder ≠ some name

def Exclusive (registry : Registry κ ν) : Prop :=
  ∀ first second name, registry first = some name → registry second = some name →
    first = second

theorem exclusive_empty : Exclusive (empty : Registry κ ν) := by
  intro first second name held
  cases held

variable [DecidableEq κ] {entry : κ × ν}

/-- The holder gives up the name it had. -/
def claim (registry : Registry κ ν) (entry : κ × ν) : Registry κ ν :=
  Function.update registry entry.1 (some entry.2)

def record (entries : List (κ × ν)) : Registry κ ν := entries.foldl claim empty

theorem claim_eq_some :
    registry.claim entry holder = some name ↔
      holder = entry.1 ∧ name = entry.2 ∨
        holder ≠ entry.1 ∧ registry holder = some name := by
  rw [claim, Function.update_apply]
  by_cases same : holder = entry.1
  · rw [if_pos same]
    simp [same, eq_comm]
  · rw [if_neg same]
    simp [same]

theorem Exclusive.claim (exclusive : Exclusive registry)
    (free : Free registry entry.2) : Exclusive (registry.claim entry) := by
  intro first second name heldFirst heldSecond
  rcases claim_eq_some.mp heldFirst with ⟨same, rfl⟩ | ⟨-, old⟩
  · rcases claim_eq_some.mp heldSecond with ⟨again, -⟩ | ⟨-, other⟩
    · rw [same, again]
    · exact absurd other (free second)
  · rcases claim_eq_some.mp heldSecond with ⟨-, rfl⟩ | ⟨-, other⟩
    · exact absurd old (free first)
    · exact exclusive first second name old other

theorem record_concat (entries : List (κ × ν)) (entry : κ × ν) :
    record (entries ++ [entry]) = (record entries).claim entry := by
  rw [record, List.foldl_append]
  rfl

theorem exists_record {entries : List (κ × ν)} (member : entry ∈ entries) :
    ∃ name, record entries entry.1 = some name := by
  induction entries using List.reverseRecOn with
  | nil => cases member
  | append_singleton entries last induction =>
      rw [record_concat]
      by_cases same : entry.1 = last.1
      · exact ⟨last.2, claim_eq_some.mpr (.inl ⟨same, rfl⟩)⟩
      · have earlier : entry ∈ entries := by
          rcases List.mem_append.mp member with earlier | latest
          · exact earlier
          · exact absurd (congrArg Prod.fst (List.mem_singleton.mp latest)) same
        obtain ⟨name, held⟩ := induction earlier
        exact ⟨name, claim_eq_some.mpr (.inr ⟨same, held⟩)⟩

end Registry

end BudBreeding.Data
