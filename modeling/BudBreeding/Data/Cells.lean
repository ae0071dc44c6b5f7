import Mathlib.Data.List.AList

namespace BudBreeding.Data

/-! Tables of cells under two keys.  A row that is read later overwrites the cell. -/

def latest {α : Type} (selects : α → Bool) (rows : List α) : Option α :=
  rows.reverse.find? selects

section Latest

variable {α : Type} {selects : α → Bool} {rows : List α} {row : α}

@[simp] theorem latest_nil : latest selects [] = none :=
  rfl

theorem latest_concat :
    latest selects (rows ++ [row]) =
      if selects row = true then some row else latest selects rows := by
  rw [latest, List.reverse_append, List.reverse_singleton, List.singleton_append,
    List.find?_cons]
  cases selects row <;> rfl

theorem of_latest (found : latest selects rows = some row) :
    row ∈ rows ∧ selects row = true :=
  ⟨List.mem_reverse.mp (List.mem_of_find?_eq_some found), List.find?_some found⟩

theorem latest_eq_none : latest selects rows = none ↔ ∀ row ∈ rows, ¬ selects row := by
  rw [latest, List.find?_eq_none]
  simp only [List.mem_reverse]

/-- The last row of a wider selection is the last row of a narrower one it belongs to. -/
theorem latest_of_imp {narrower : α → Bool} (wider : ∀ row, narrower row → selects row)
    (found : latest selects rows = some row) (selected : narrower row = true) :
    latest narrower rows = some row := by
  unfold latest at found ⊢
  generalize rows.reverse = reversed at found ⊢
  induction reversed with
  | nil => cases found
  | cons last rest induction =>
      cases chosen : selects last with
      | true =>
          rw [List.find?_cons_of_pos chosen] at found
          obtain rfl := Option.some.inj found
          exact List.find?_cons_of_pos selected
      | false =>
          have passed : ¬ selects last = true := by
            rw [chosen]
            exact Bool.false_ne_true
          rw [List.find?_cons_of_neg passed] at found
          rw [List.find?_cons_of_neg (mt (wider last) passed)]
          exact induction found

end Latest

abbrev Cells (κ γ ν : Type) := AList fun _ : κ => AList fun _ : γ => ν

namespace Cells

variable {κ γ ν μ : Type} [DecidableEq κ] [DecidableEq γ]

def cell (cells : Cells κ γ ν) (key : κ) (column : γ) : Option ν :=
  (cells.lookup key).bind fun columns => columns.lookup column

/-- Writes one cell, in a new row when the key has none. -/
def write (cells : Cells κ γ ν) (key : κ) (column : γ) (value : ν) : Cells κ γ ν :=
  match cells.lookup key with
  | none => cells.insert key (AList.singleton column value)
  | some columns => cells.insert key (columns.insert column value)

@[simp] theorem cell_empty (key : κ) (column : γ) :
    (∅ : Cells κ γ ν).cell key column = none := by
  rw [cell, AList.lookup_empty, Option.bind_none]

theorem lookup_write_self (cells : Cells κ γ ν) (key : κ) (column : γ) (value : ν) :
    (cells.write key column value).lookup key =
      some (((cells.lookup key).getD ∅).insert column value) := by
  unfold write
  split
  next absent =>
    rw [AList.lookup_insert, absent, Option.getD_none, AList.insert_empty]
  next columns present =>
    rw [AList.lookup_insert, present, Option.getD_some]

theorem lookup_write_of_ne {cells : Cells κ γ ν} {key other : κ} (apart : other ≠ key)
    (column : γ) (value : ν) :
    (cells.write key column value).lookup other = cells.lookup other := by
  unfold write
  split <;> exact AList.lookup_insert_ne apart

theorem cell_write (cells : Cells κ γ ν) (key other : κ) (column place : γ) (value : ν) :
    (cells.write key column value).cell other place =
      if key = other ∧ column = place then some value else cells.cell other place := by
  by_cases row : key = other
  · rw [← row, cell, lookup_write_self, Option.bind_some]
    by_cases same : column = place
    · rw [if_pos ⟨rfl, same⟩, ← same, AList.lookup_insert]
    · rw [if_neg fun both => same both.2, AList.lookup_insert_ne (Ne.symm same), cell]
      cases cells.lookup key with
      | none => rw [Option.getD_none, AList.lookup_empty, Option.bind_none]
      | some columns => rw [Option.getD_some, Option.bind_some]
  · rw [if_neg fun both => row both.1, cell, lookup_write_of_ne (Ne.symm row), cell]

def mapColumns (change : ν → μ) (columns : AList fun _ : γ => ν) : AList fun _ : γ => μ where
  entries := columns.entries.map (.map id fun _ => change)
  nodupKeys := columns.nodupKeys.map₂ _

def map (change : ν → μ) (cells : Cells κ γ ν) : Cells κ γ μ where
  entries := cells.entries.map (.map id fun _ => mapColumns change)
  nodupKeys := cells.nodupKeys.map₂ _

theorem cell_map (change : ν → μ) (cells : Cells κ γ ν) (key : κ) (column : γ) :
    (cells.map change).cell key column = (cells.cell key column).map change := by
  rw [cell, cell, AList.lookup, AList.lookup, map, List.dlookup_map₂, Option.map_bind,
    Option.bind_map]
  congr 1
  funext columns
  exact List.dlookup_map₂ column

/-- A lookup by another name for a key, among the entries that a change keeps. -/
theorem lookup_filterMap {κ' : Type} [DecidableEq κ'] {entries : List (Σ _ : κ, ν)}
    {change : (Σ _ : κ, ν) → Option (κ' × μ)} {keep : ν → Option μ} {key : κ} {name : κ'}
    (distinct : entries.NodupKeys)
    (named : ∀ entry row, change entry = some row → row.1 = name → entry.1 = key)
    (kept : ∀ value, change ⟨key, value⟩ = (keep value).map (name, ·)) :
    (entries.filterMap change).lookup name = (entries.dlookup key).bind keep := by
  induction entries with
  | nil => rfl
  | cons entry rest induction =>
      obtain ⟨other, value⟩ := entry
      have tail := induction (List.nodupKeys_of_nodupKeys_cons distinct)
      by_cases same : other = key
      · subst same
        have absent : rest.dlookup other = none :=
          List.dlookup_eq_none.mpr (List.notMem_keys_of_nodupKeys_cons distinct)
        rw [List.dlookup_cons_eq, Option.bind_some]
        cases stays : keep value with
        | none =>
            rw [List.filterMap_cons_none, tail, absent, Option.bind_none]
            rw [kept, stays, Option.map_none]
        | some row =>
            rw [List.filterMap_cons_some, List.lookup_cons_self]
            rw [kept, stays, Option.map_some]
      · have passed : List.dlookup key (⟨other, value⟩ :: rest) = rest.dlookup key :=
          List.dlookup_cons_ne _ _ (Ne.symm same)
        rw [passed, ← tail]
        cases stays : change ⟨other, value⟩ with
        | none => rw [List.filterMap_cons_none stays]
        | some row =>
            have apart : ¬ name == row.1 := by
              intro alike
              exact same (named _ row stays (eq_of_beq alike).symm)
            rw [List.filterMap_cons_some stays, List.lookup_cons]
            simp only [apart]

end Cells

end BudBreeding.Data
