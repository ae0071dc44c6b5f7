import Mathlib.Data.List.Nodup
import Mathlib.Data.Int.Order.Basic

namespace BudBreeding.Data

/-! Relational tables: lists of rows that differ in their primary keys. -/

structure Table (α : Type) {κ : Type} (key : α → κ) where
  rows : List α
  nodup : (rows.map key).Nodup

theorem filter_append_of_apart {α : Type} {rows added : List α}
    {select : α → Bool} (apart : ∀ row ∈ added, select row = false) :
    (rows ++ added).filter select = rows.filter select := by
  have none : added.filter select = [] :=
    List.filter_eq_nil_iff.mpr fun row member => by simp [apart row member]
  rw [List.filter_append, none, List.append_nil]

namespace Table

variable {α κ : Type} {key : α → κ}

@[ext] theorem ext {left right : Table α key} (rows : left.rows = right.rows) :
    left = right := by
  cases left
  cases right
  cases rows
  rfl

def empty : Table α key := ⟨[], List.nodup_nil⟩

def insert (table : Table α key) (row : α)
    (fresh : ∀ other ∈ table.rows, key other ≠ key row) : Table α key where
  rows := table.rows ++ [row]
  nodup := by
    rw [List.map_append, List.nodup_append]
    refine ⟨table.nodup, List.nodup_singleton _, ?_⟩
    intro first member second single same
    obtain ⟨other, present, rfl⟩ := List.mem_map.mp member
    rw [List.map_singleton, List.mem_singleton] at single
    exact fresh other present (same.trans single)

/-- Rewrite the rows selected by `filter`; a rewrite never moves a key. -/
def modify (table : Table α key) (filter : α → Bool) (rewrite : α → α)
    (keyed : ∀ row, key (rewrite row) = key row) : Table α key where
  rows := table.rows.map fun row => if filter row then rewrite row else row
  nodup := by
    have keys : (table.rows.map fun row =>
        if filter row then rewrite row else row).map key =
          table.rows.map key := by
      rw [List.map_map]
      apply List.map_congr_left
      intro row _
      simp only [Function.comp_apply]
      split
      · exact keyed row
      · rfl
    rw [keys]
    exact table.nodup

theorem eq_of_key_eq (table : Table α key) {first second : α}
    (left : first ∈ table.rows) (right : second ∈ table.rows)
    (same : key first = key second) : first = second :=
  List.inj_on_of_nodup_map table.nodup left right same

@[simp] theorem mem_insert {table : Table α key} {row other : α}
    {fresh : ∀ other ∈ table.rows, key other ≠ key row} :
    other ∈ (table.insert row fresh).rows ↔
      other ∈ table.rows ∨ other = row := by
  simp [insert]

theorem mem_modify {table : Table α key} {filter : α → Bool}
    {rewrite : α → α} {keyed : ∀ row, key (rewrite row) = key row}
    {row : α} :
    row ∈ (table.modify filter rewrite keyed).rows ↔
      ∃ old ∈ table.rows, (if filter old then rewrite old else old) = row := by
  simp [modify]

theorem of_mem_modify {table : Table α key} {filter : α → Bool}
    {rewrite : α → α} {keyed : ∀ row, key (rewrite row) = key row} {row : α}
    (member : row ∈ (table.modify filter rewrite keyed).rows) :
    (∃ old ∈ table.rows, filter old = true ∧ rewrite old = row) ∨
      row ∈ table.rows ∧ filter row = false := by
  obtain ⟨old, present, rewritten⟩ := mem_modify.mp member
  cases selected : filter old with
  | true =>
      rw [if_pos selected] at rewritten
      exact .inl ⟨old, present, selected, rewritten⟩
  | false =>
      rw [selected, if_neg Bool.false_ne_true] at rewritten
      subst rewritten
      exact .inr ⟨present, selected⟩

theorem key_mem_selected {table : Table α key} {filter : α → Bool} {selected : List α}
    (chosen : selected.Perm (table.rows.filter filter)) {row : α}
    (member : row ∈ table.rows) :
    key row ∈ selected.map key ↔ filter row = true := by
  constructor
  · intro named
    obtain ⟨other, listed, same⟩ := List.mem_map.mp named
    obtain ⟨present, passed⟩ := List.mem_filter.mp (chosen.mem_iff.mp listed)
    rw [← table.eq_of_key_eq present member same]
    exact passed
  · intro passed
    apply List.mem_map_of_mem
    exact chosen.mem_iff.mpr (List.mem_filter.mpr ⟨member, passed⟩)

theorem modify_of_unmatched {table : Table α key} {filter : α → Bool}
    {rewrite : α → α} {keyed : ∀ row, key (rewrite row) = key row}
    (unmatched : ∀ row ∈ table.rows, filter row = false) :
    table.modify filter rewrite keyed = table := by
  apply Table.ext
  change table.rows.map _ = table.rows
  conv_rhs => rw [← List.map_id table.rows]
  apply List.map_congr_left
  intro row member
  simp [unmatched row member]

section Find

variable [DecidableEq κ]

def find (table : Table α key) (value : κ) : Option α :=
  table.rows.find? fun row => key row = value

theorem find_eq_some {table : Table α key} {value : κ} {row : α} :
    table.find value = some row ↔ row ∈ table.rows ∧ key row = value := by
  constructor
  · intro found
    exact ⟨List.mem_of_find?_eq_some found, by
      simpa using List.find?_some found⟩
  · intro given
    obtain ⟨member, rfl⟩ := given
    cases found : table.find (key row) with
    | none =>
        have missing := List.find?_eq_none.mp found row member
        simp at missing
    | some other =>
        have present := List.mem_of_find?_eq_some found
        have same : key other = key row := by
          simpa using List.find?_some found
        rw [table.eq_of_key_eq present member same]

theorem find_eq_none {table : Table α key} {value : κ} :
    table.find value = none ↔ ∀ row ∈ table.rows, key row ≠ value := by
  simp [find, List.find?_eq_none]

theorem filter_key (table : Table α key) {row : α} (member : row ∈ table.rows) :
    (table.rows.filter fun other => key other = key row) = [row] := by
  have distinct := List.Nodup.of_map key table.nodup
  apply List.perm_singleton.mp
  rw [List.perm_ext_iff_of_nodup (distinct.filter _) (List.nodup_singleton row)]
  intro other
  rw [List.mem_filter, List.mem_singleton, decide_eq_true_iff]
  constructor
  · intro selected
    exact table.eq_of_key_eq selected.1 member selected.2
  · intro same
    rw [same]
    exact ⟨member, rfl⟩

theorem mem_keys_iff {table : Table α key} {value : κ} :
    value ∈ table.rows.map key ↔ ∃ row, table.find value = some row := by
  rw [List.mem_map]
  exact exists_congr fun row => find_eq_some.symm

theorem find_modify {table : Table α key} {filter : α → Bool}
    {rewrite : α → α} (keyed : ∀ row, key (rewrite row) = key row)
    (value : κ) :
    (table.modify filter rewrite keyed).find value =
      (table.find value).map
        fun row => if filter row then rewrite row else row := by
  cases found : table.find value with
  | none =>
      rw [find_eq_none] at found
      rw [Option.map_none, find_eq_none]
      intro row member
      rcases of_mem_modify member with ⟨old, present, -, rfl⟩ | ⟨present, -⟩
      · rw [keyed]
        exact found old present
      · exact found row present
  | some row =>
      obtain ⟨member, same⟩ := find_eq_some.mp found
      rw [Option.map_some, find_eq_some]
      refine ⟨mem_modify.mpr ⟨row, member, rfl⟩, ?_⟩
      split
      · rw [keyed]
        exact same
      · exact same

theorem find_modify_eq_none {table : Table α key} {filter : α → Bool}
    {rewrite : α → α} {keyed : ∀ row, key (rewrite row) = key row}
    {value : κ} :
    (table.modify filter rewrite keyed).find value = none ↔
      table.find value = none := by
  rw [find_modify, Option.map_eq_none_iff]

theorem find_insert {table : Table α key} {row : α}
    {fresh : ∀ other ∈ table.rows, key other ≠ key row} (value : κ) :
    (table.insert row fresh).find value =
      if key row = value then some row else table.find value := by
  split
  · next same => exact find_eq_some.mpr ⟨by simp, same⟩
  · next differs => simp [find, insert, differs]

end Find

end Table

/-- A table whose primary key is an autoincremented integer. -/
structure Serial (α : Type) (key : α → Int) extends Table α key where
  nextId : Int
  bounded : ∀ row ∈ rows, key row < nextId

namespace Serial

variable {α : Type} {key : α → Int}

@[ext] theorem ext {left right : Serial α key}
    (rows : left.rows = right.rows) (nextId : left.nextId = right.nextId) :
    left = right := by
  obtain ⟨leftTable, leftNext, leftBounded⟩ := left
  obtain ⟨rightTable, rightNext, rightBounded⟩ := right
  obtain rfl : leftTable = rightTable := Table.ext rows
  obtain rfl : leftNext = rightNext := nextId
  rfl

def empty : Serial α key where
  toTable := .empty
  nextId := 1
  bounded := by
    intro row member
    exact absurd member List.not_mem_nil

def create (table : Serial α key) (make : Int → α)
    (keyed : ∀ id, key (make id) = id) : Serial α key where
  toTable := table.insert (make table.nextId) (by
    intro other member same
    have bound := table.bounded other member
    rw [same, keyed] at bound
    exact lt_irrefl _ bound)
  nextId := table.nextId + 1
  bounded := by
    intro row member
    rcases Table.mem_insert.mp member with present | rfl
    · have bound := table.bounded row present
      omega
    · rw [keyed]
      omega

def createMany {δ : Type} (table : Serial α key) (make : δ → Int → α)
    (keyed : ∀ data id, key (make data id) = id) : List δ → Serial α key
  | [] => table
  | data :: rest =>
      (table.create (make data) (keyed data)).createMany make keyed rest

def modify (table : Serial α key) (filter : α → Bool) (rewrite : α → α)
    (keyed : ∀ row, key (rewrite row) = key row) : Serial α key where
  toTable := table.toTable.modify filter rewrite keyed
  nextId := table.nextId
  bounded := by
    intro row member
    obtain ⟨old, present, rfl⟩ := Table.mem_modify.mp member
    have bound := table.bounded old present
    split
    · rw [keyed]
      exact bound
    · exact bound

variable {table : Serial α key}

theorem mem_modify {filter : α → Bool} {rewrite : α → α}
    {keyed : ∀ row, key (rewrite row) = key row} {row : α} :
    row ∈ (table.modify filter rewrite keyed).rows ↔
      ∃ old ∈ table.rows, (if filter old then rewrite old else old) = row := by
  simp [modify, Table.mem_modify]

theorem of_mem_modify {filter : α → Bool} {rewrite : α → α}
    {keyed : ∀ row, key (rewrite row) = key row} {row : α}
    (member : row ∈ (table.modify filter rewrite keyed).rows) :
    (∃ old ∈ table.rows, filter old = true ∧ rewrite old = row) ∨
      row ∈ table.rows ∧ filter row = false := by
  have rewritten : row ∈ (table.toTable.modify filter rewrite keyed).rows :=
    member
  exact Table.of_mem_modify rewritten

theorem modify_of_unmatched {filter : α → Bool} {rewrite : α → α}
    {keyed : ∀ row, key (rewrite row) = key row}
    (unmatched : ∀ row ∈ table.rows, filter row = false) :
    table.modify filter rewrite keyed = table := by
  apply Serial.ext
  · have same : table.toTable.modify filter rewrite keyed = table.toTable :=
      Table.modify_of_unmatched unmatched
    exact congrArg Table.rows same
  · rfl

theorem filter_modify {filter select : α → Bool} {rewrite : α → α}
    {keyed : ∀ row, key (rewrite row) = key row}
    (stable : ∀ row, select (rewrite row) = select row) :
    (table.modify filter rewrite keyed).rows.filter select =
      (table.rows.filter select).map
        fun row => if filter row then rewrite row else row := by
  change (table.rows.map _).filter select = _
  rw [List.filter_map]
  congr 1
  apply List.filter_congr
  intro row _
  simp only [Function.comp_apply]
  split
  · exact stable row
  · rfl

/-- Rewriting rows that are not selected, before or after, leaves the selection
alone. -/
theorem filter_modify_of_apart {filter select : α → Bool} {rewrite : α → α}
    {keyed : ∀ row, key (rewrite row) = key row}
    (apart : ∀ row ∈ table.rows, filter row = true →
      select row = false ∧ select (rewrite row) = false) :
    (table.modify filter rewrite keyed).rows.filter select =
      table.rows.filter select := by
  change (table.rows.map _).filter select = _
  revert apart
  induction table.rows with
  | nil => exact fun _ => rfl
  | cons row rest induction =>
      intro apart
      have later := induction fun other member =>
        apart other (List.mem_cons_of_mem _ member)
      have here := apart row List.mem_cons_self
      rw [List.map_cons, List.filter_cons, List.filter_cons, later]
      split
      · next chosen =>
          obtain ⟨before, after⟩ := here chosen
          simp [before, after]
      · rfl

/-- Rewriting rows selects no more of them than before, when a rewritten row was
selected before. -/
theorem countP_modify_le {filter select : α → Bool} {rewrite : α → α}
    {keyed : ∀ row, key (rewrite row) = key row}
    (narrows : ∀ row, select (rewrite row) = true → select row = true) :
    (table.modify filter rewrite keyed).rows.countP select ≤
      table.rows.countP select := by
  change (table.rows.map _).countP select ≤ _
  rw [List.countP_map]
  apply List.countP_mono_left
  intro row _ selected
  rw [Function.comp_apply] at selected
  split at selected
  · exact narrows row selected
  · exact selected

/-- Rewriting rows removes some of their views and changes none. -/
theorem filterMap_modify_sublist {β : Type} {view : α → Option β}
    {filter : α → Bool} {rewrite : α → α}
    {keyed : ∀ row, key (rewrite row) = key row}
    (narrows : ∀ row, view (rewrite row) = none ∨ view (rewrite row) = view row) :
    ((table.modify filter rewrite keyed).rows.filterMap view).Sublist
      (table.rows.filterMap view) := by
  change ((table.rows.map _).filterMap view).Sublist _
  induction table.rows with
  | nil => exact List.Sublist.refl _
  | cons row rest induction =>
      have seen : view (if filter row then rewrite row else row) = none ∨
          view (if filter row then rewrite row else row) = view row := by
        split
        · exact narrows row
        · exact .inr rfl
      rw [List.map_cons, List.filterMap_cons, List.filterMap_cons]
      rcases seen with hidden | same
      · rw [hidden]
        cases view row with
        | none => exact induction
        | some value => exact induction.cons value
      · rw [same]
        cases view row with
        | none => exact induction
        | some value => exact induction.cons_cons value

theorem filterMap_modify {β : Type} {view : α → Option β} {filter : α → Bool}
    {rewrite : α → α} {keyed : ∀ row, key (rewrite row) = key row}
    (unseen : ∀ row, view (rewrite row) = view row) :
    (table.modify filter rewrite keyed).rows.filterMap view =
      table.rows.filterMap view := by
  change (table.rows.map _).filterMap view = _
  rw [List.filterMap_map]
  apply List.filterMap_congr
  intro row _
  rw [Function.comp_apply]
  split
  · exact unseen row
  · rfl

section Find

variable {make : Int → α}

theorem find_nextId (table : Serial α key) : table.find table.nextId = none := by
  refine Table.find_eq_none.mpr fun row member same => ?_
  have bound := table.bounded row member
  omega

theorem find_create (keyed : ∀ id, key (make id) = id) (value : Int) :
    (table.create make keyed).find value =
      if table.nextId = value then some (make table.nextId)
      else table.find value := by
  rw [create, Table.find_insert, keyed]

theorem find_create_nextId (table : Serial α key)
    (keyed : ∀ id, key (make id) = id) :
    (table.create make keyed).find table.nextId = some (make table.nextId) :=
  (find_create keyed _).trans (if_pos rfl)

theorem find_modify {filter : α → Bool} {rewrite : α → α}
    (keyed : ∀ row, key (rewrite row) = key row) (value : Int) :
    (table.modify filter rewrite keyed).find value =
      (table.find value).map
        fun row => if filter row then rewrite row else row :=
  Table.find_modify keyed value

end Find

def numbered {δ : Type} (make : δ → Int → α) : Int → List δ → List α
  | _, [] => []
  | id, data :: rest => make data id :: numbered make (id + 1) rest

theorem rows_createMany {δ : Type} {make : δ → Int → α}
    {keyed : ∀ data id, key (make data id) = id} (batch : List δ) :
    (table.createMany make keyed batch).rows =
      table.rows ++ numbered make table.nextId batch := by
  induction batch generalizing table with
  | nil => simp [createMany, numbered]
  | cons data rest induction =>
      rw [createMany, induction]
      simp [numbered, create, Table.insert]

theorem exists_numbered {δ : Type} {make : δ → Int → α} {id : Int}
    {batch : List δ} {data : δ} (member : data ∈ batch) :
    ∃ position, make data position ∈ numbered make id batch := by
  induction batch generalizing id with
  | nil => exact absurd member List.not_mem_nil
  | cons first rest induction =>
      rcases List.mem_cons.mp member with rfl | later
      · exact ⟨id, List.mem_cons_self⟩
      · obtain ⟨position, present⟩ := @induction (id + 1) later
        exact ⟨position, List.mem_cons_of_mem _ present⟩

theorem of_mem_numbered {δ : Type} {make : δ → Int → α} {id : Int} {batch : List δ}
    {row : α} (member : row ∈ numbered make id batch) :
    ∃ data ∈ batch, ∃ position, row = make data position := by
  induction batch generalizing id with
  | nil => cases member
  | cons first rest induction =>
      cases List.mem_cons.mp member with
      | inl same => exact ⟨first, List.mem_cons_self, id, same⟩
      | inr later =>
          obtain ⟨data, listed, made⟩ := @induction (id + 1) later
          exact ⟨data, List.mem_cons_of_mem _ listed, made⟩

theorem map_numbered {δ β : Type} {make : δ → Int → α} {project : α → β}
    {value : δ → β} (same : ∀ data id, project (make data id) = value data)
    (id : Int) (batch : List δ) :
    (numbered make id batch).map project = batch.map value := by
  induction batch generalizing id with
  | nil => rfl
  | cons data rest induction =>
      rw [numbered, List.map_cons, List.map_cons, same, induction]

theorem forall_numbered {δ : Type} {make : δ → Int → α} (holds : α → Prop)
    (each : ∀ data id, holds (make data id)) {id : Int} {batch : List δ} :
    ∀ row ∈ numbered make id batch, holds row := by
  induction batch generalizing id with
  | nil => exact fun row member => absurd member List.not_mem_nil
  | cons data rest induction =>
      intro row member
      rcases List.mem_cons.mp member with rfl | later
      · exact each data id
      · exact induction row later

end Serial

end BudBreeding.Data
