import Mathlib.Data.List.Dedup
import Mathlib.Logic.Function.Basic

namespace BudBreeding.Data

/-! Sheets: tables seen as what they show under each key.  A column is filled in from
one query after the other, and the sheet becomes the full outer join of the queries. -/

section Groups

variable {α κ : Type} [DecidableEq κ] {key : α → κ} {rows : List α}

/-- The groups of a `GROUP BY`. -/
def groups (key : α → κ) (rows : List α) : List (κ × List α) :=
  (rows.map key).dedup.map fun value =>
    (value, rows.filter fun row => key row = value)

theorem nodup_groups (key : α → κ) (rows : List α) :
    ((groups key rows).map Prod.fst).Nodup := by
  rw [groups, List.map_map]
  apply (List.nodup_dedup (rows.map key)).map
  intro first second same
  exact same

theorem mem_groups {group : κ × List α} :
    group ∈ groups key rows ↔
      group.1 ∈ rows.map key ∧ group.2 = rows.filter fun row => key row = group.1 := by
  rw [groups, List.mem_map]
  constructor
  · intro member
    obtain ⟨value, present, rfl⟩ := member
    exact ⟨List.mem_dedup.mp present, rfl⟩
  · intro grouped
    obtain ⟨present, selected⟩ := grouped
    exact ⟨group.1, List.mem_dedup.mpr present, Prod.ext rfl selected.symm⟩

/-- `count(*)` of every group. -/
def countBy (key : α → κ) (rows : List α) : List (κ × Nat) :=
  (groups key rows).map fun group => (group.1, group.2.length)

theorem countBy_eq (key : α → κ) (rows : List α) :
    countBy key rows =
      (rows.map key).dedup.map fun value => (value, (rows.map key).count value) := by
  rw [countBy, groups, List.map_map]
  apply List.map_congr_left
  intro value _
  rw [Function.comp_apply, ← List.countP_eq_length_filter, List.count, List.countP_map]
  rfl

end Groups

/-- What is shown under each key: no row, or a row with some columns filled in. -/
abbrev Sheet (κ γ ν : Type) := κ → Option (γ → Option ν)

namespace Sheet

variable {κ γ ν : Type} [DecidableEq γ]

def blank : γ → Option ν := fun _ => none

/-- One value is written, into a new row where the key has none. -/
def put [DecidableEq κ] (column : γ) (sheet : Sheet κ γ ν) (entry : κ × ν) :
    Sheet κ γ ν :=
  Function.update sheet entry.1
    (some (Function.update ((sheet entry.1).getD blank) column (some entry.2)))

/-- One column is written under every key that has a value for it. -/
def assign (column : γ) (values : κ → Option ν) (sheet : Sheet κ γ ν) :
    Sheet κ γ ν := fun key =>
  (values key).elim (sheet key) fun value =>
    some (Function.update ((sheet key).getD blank) column (some value))

/-- A row under every key for which one of the columns has a value. -/
def outerJoin (columns : List γ) (values : γ → κ → Option ν) : Sheet κ γ ν :=
  fun key =>
    if ∀ column ∈ columns, values column key = none then none
    else some fun column => if column ∈ columns then values column key else none

theorem bind_assign_of_ne {column other : γ} (apart : other ≠ column)
    (values : κ → Option ν) (sheet : Sheet κ γ ν) (key : κ) :
    (assign column values sheet key).bind (fun row => row other) =
      (sheet key).bind fun row => row other := by
  rw [assign]
  cases values key with
  | none => rfl
  | some value =>
      rw [Option.elim_some, Option.bind_some, Function.update_of_ne apart]
      cases sheet key <;> rfl

section Put

variable [DecidableEq κ] {column : γ} {sheet : Sheet κ γ ν} {entries : List (κ × ν)}

theorem foldl_put_of_not_mem {key : κ} (absent : key ∉ entries.map Prod.fst) :
    entries.foldl (put column) sheet key = sheet key := by
  induction entries generalizing sheet with
  | nil => rfl
  | cons entry rest induction =>
      rw [List.map_cons, List.mem_cons, not_or] at absent
      rw [List.foldl_cons, induction absent.2, put, Function.update_of_ne absent.1]

theorem foldl_put_of_mem (distinct : (entries.map Prod.fst).Nodup)
    {entry : κ × ν} (member : entry ∈ entries) :
    entries.foldl (put column) sheet entry.1 = put column sheet entry entry.1 := by
  induction entries generalizing sheet with
  | nil => exact absurd member List.not_mem_nil
  | cons first rest induction =>
      obtain ⟨fresh, others⟩ := List.nodup_cons.mp distinct
      rw [List.foldl_cons]
      cases List.mem_cons.mp member with
      | inl same => rw [same, foldl_put_of_not_mem fresh]
      | inr later =>
          have apart : entry.1 ≠ first.1 := by
            intro same
            apply fresh
            rw [← same]
            exact List.mem_map_of_mem later
          have unwritten : put column sheet first entry.1 = sheet entry.1 :=
            Function.update_of_ne apart _ _
          rw [induction others later]
          unfold put at unwritten ⊢
          rw [Function.update_self, Function.update_self, unwritten]

theorem foldl_put_eq_assign {values : κ → Option ν}
    (distinct : (entries.map Prod.fst).Nodup)
    (same : ∀ entry : κ × ν, entry ∈ entries ↔ values entry.1 = some entry.2) :
    entries.foldl (put column) sheet = assign column values sheet := by
  funext key
  unfold assign
  cases given : values key with
  | none =>
      apply foldl_put_of_not_mem
      intro member
      obtain ⟨entry, present, rfl⟩ := List.mem_map.mp member
      rw [same, given] at present
      cases present
  | some value =>
      rw [foldl_put_of_mem distinct ((same (key, value)).mpr given), put]
      exact Function.update_self _ _ _

end Put

variable {columns : List γ} {values : γ → κ → Option ν}

@[simp] theorem outerJoin_nil (values : γ → κ → Option ν) :
    outerJoin [] values = fun _ => none := by
  funext key
  exact if_pos (by simp)

theorem outerJoin_absent {column : γ} (absent : column ∉ columns) (key : κ) :
    (outerJoin columns values key).bind (fun row => row column) = none := by
  unfold outerJoin
  split
  · rfl
  · exact if_neg absent

theorem bind_outerJoin {column : γ} (member : column ∈ columns) (key : κ) :
    (outerJoin columns values key).bind (fun row => row column) =
      values column key := by
  unfold outerJoin
  split
  · next empty => exact (empty column member).symm
  · exact if_pos member

theorem getD_outerJoin (columns : List γ) (values : γ → κ → Option ν) (key : κ) :
    (outerJoin columns values key).getD blank =
      fun column => if column ∈ columns then values column key else none := by
  unfold outerJoin
  split
  · next empty =>
      funext column
      split
      · next listed => exact (empty column listed).symm
      · rfl
  · rfl

/-- A new column joins. -/
theorem assign_outerJoin (column : γ) :
    assign column (values column) (outerJoin columns values) =
      outerJoin (column :: columns) values := by
  funext key
  unfold assign
  cases given : values column key with
  | none =>
      rw [Option.elim_none, outerJoin, outerJoin]
      simp only [List.forall_mem_cons, given, true_and]
      congr 2
      funext other
      by_cases same : other = column
      · rw [same, given, ite_self, ite_self]
      · simp only [List.mem_cons, same, false_or]
  | some value =>
      have filled : ¬ ∀ other ∈ column :: columns, values other key = none := by
        intro empty
        have missing := empty column List.mem_cons_self
        rw [given] at missing
        cases missing
      rw [Option.elim_some, getD_outerJoin, outerJoin, if_neg filled]
      congr 1
      funext other
      by_cases same : other = column
      · rw [same, Function.update_self, if_pos List.mem_cons_self, given]
      · rw [Function.update_of_ne same]
        simp only [List.mem_cons, same, false_or]

theorem outerJoin_congr {others : List γ}
    (same : ∀ column, column ∈ columns ↔ column ∈ others) :
    outerJoin columns values = outerJoin others values := by
  funext key
  simp only [outerJoin, same]

/-- Columns that do not join may hold any values. -/
theorem outerJoin_congr_values {others : γ → κ → Option ν}
    (same : ∀ column ∈ columns, values column = others column) :
    outerJoin columns values = outerJoin columns others := by
  funext key
  have row : (fun column => if column ∈ columns then values column key else none) =
      fun column => if column ∈ columns then others column key else none := by
    funext column
    split
    · next member => rw [same column member]
    · rfl
  have empty : (∀ column ∈ columns, values column key = none) ↔
      ∀ column ∈ columns, others column key = none :=
    forall₂_congr fun column member => by rw [same column member]
  simp only [outerJoin, row, empty]

end Sheet

end BudBreeding.Data
