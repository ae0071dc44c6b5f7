import BudBreeding.Data.Table

namespace BudBreeding.Data

/-! Tables with an autoincremented primary key and a second unique column. -/

structure Unique (α : Type) {κ : Type} (id : α → Int) (key : α → κ) extends
    Serial α id where
  distinct : (rows.map key).Nodup
  started : 0 < nextId
  positive : ∀ row ∈ rows, 0 < id row

/-- One row of an `INSERT ... ON CONFLICT DO UPDATE`. -/
structure Upsert {α κ : Type} (id : α → Int) (key : α → κ) where
  value : κ
  create : Int → α
  update : α → α
  create_id : ∀ number, id (create number) = number
  create_key : ∀ number, key (create number) = value
  update_id : ∀ row, id (update row) = id row
  update_key : ∀ row, key (update row) = key row

namespace Unique

variable {α κ : Type} {id : α → Int} {key : α → κ}

def byKey (table : Unique α id key) : Table α key := ⟨table.rows, table.distinct⟩

def empty : Unique α id key where
  toSerial := .empty
  distinct := List.nodup_nil
  started := Int.one_pos
  positive := by
    intro row member
    exact absurd member List.not_mem_nil

/-- `TRUNCATE TABLE ... RESTART IDENTITY`. -/
def truncate (_ : Unique α id key) : Unique α id key := empty

variable [DecidableEq κ]

def lookup (table : Unique α id key) (value : κ) : Option α :=
  table.byKey.find value

theorem lookup_eq_some {table : Unique α id key} {value : κ} {row : α} :
    table.lookup value = some row ↔ row ∈ table.rows ∧ key row = value :=
  Table.find_eq_some

theorem key_ne_of_missing {table : Unique α id key} {write : Upsert id key}
    (missing : table.lookup write.value = none) (number : Int) :
    ∀ row ∈ table.byKey.rows, key row ≠ key (write.create number) := by
  rw [write.create_key]
  exact Table.find_eq_none.mp missing

def insertNew (table : Unique α id key) (write : Upsert id key)
    (missing : table.lookup write.value = none) : Unique α id key where
  toSerial := table.toSerial.create write.create write.create_id
  distinct :=
    (table.byKey.insert (write.create table.nextId)
      (key_ne_of_missing missing table.nextId)).nodup
  started := Int.lt_add_one_of_le (Int.le_of_lt table.started)
  positive := by
    intro row member
    have either : row ∈ table.rows ++ [write.create table.nextId] := member
    cases List.mem_append.mp either with
    | inl present => exact table.positive row present
    | inr same =>
        rw [List.mem_singleton.mp same, write.create_id]
        exact table.started

/-- A value is drawn from the sequence before the conflict is found. -/
def doUpdate (table : Unique α id key) (write : Upsert id key) :
    Unique α id key where
  toTable := table.toTable.modify (fun row => key row = write.value) write.update
    write.update_id
  nextId := table.nextId + 1
  bounded := by
    intro row member
    obtain ⟨old, present, rfl⟩ := Table.mem_modify.mp member
    have bound := table.bounded old present
    split
    · rw [write.update_id]
      exact Int.lt_add_one_of_le (Int.le_of_lt bound)
    · exact Int.lt_add_one_of_le (Int.le_of_lt bound)
  distinct :=
    (table.byKey.modify (fun row => key row = write.value) write.update
      write.update_key).nodup
  started := Int.lt_add_one_of_le (Int.le_of_lt table.started)
  positive := by
    intro row member
    obtain ⟨old, present, rfl⟩ := Table.mem_modify.mp member
    have bound := table.positive old present
    split
    · rw [write.update_id]
      exact bound
    · exact bound

def upsert (table : Unique α id key) (write : Upsert id key) :
    Unique α id key :=
  match missing : table.lookup write.value with
  | none => table.insertNew write missing
  | some _ => table.doUpdate write

theorem lookup_insertNew {table : Unique α id key} {write : Upsert id key}
    (missing : table.lookup write.value = none) (value : κ) :
    (table.insertNew write missing).lookup value =
      if write.value = value then some (write.create table.nextId)
      else table.lookup value := by
  change (table.byKey.insert (write.create table.nextId)
    (key_ne_of_missing missing table.nextId)).find value = _
  rw [Table.find_insert, write.create_key]
  rfl

theorem lookup_doUpdate (table : Unique α id key) (write : Upsert id key)
    (value : κ) :
    (table.doUpdate write).lookup value =
      if write.value = value then (table.lookup value).map write.update
      else table.lookup value := by
  change (table.byKey.modify (fun row => key row = write.value) write.update
    write.update_key).find value = _
  rw [Table.find_modify]
  change (table.lookup value).map _ = _
  cases found : table.lookup value with
  | none =>
      rw [Option.map_none, Option.map_none, ite_self]
  | some row =>
      obtain ⟨-, rfl⟩ := lookup_eq_some.mp found
      by_cases same : write.value = key row
      · simp [same]
      · simp [same, Ne.symm same]

theorem lookup_upsert (table : Unique α id key) (write : Upsert id key)
    (value : κ) :
    (table.upsert write).lookup value =
      if write.value = value then
        some ((table.lookup value).elim (write.create table.nextId) write.update)
      else
        table.lookup value := by
  unfold upsert
  split
  · next missing =>
      rw [lookup_insertNew]
      split
      · next same =>
          rw [same] at missing
          rw [missing, Option.elim_none]
      · rfl
  · next row found =>
      rw [lookup_doUpdate]
      split
      · next same =>
          rw [same] at found
          rw [found, Option.map_some, Option.elim_some]
      · rfl

theorem countP_key (table : Unique α id key) (value : κ) :
    table.rows.countP (fun row => key row = value) =
      if table.lookup value = none then 0 else 1 := by
  cases found : table.lookup value with
  | none =>
      rw [if_pos rfl, List.countP_eq_zero]
      intro row member
      simpa using Table.find_eq_none.mp found row member
  | some row =>
      obtain ⟨member, rfl⟩ := lookup_eq_some.mp found
      rw [if_neg (Option.some_ne_none row), List.countP_eq_length_filter]
      exact congrArg List.length (table.byKey.filter_key member)

omit [DecidableEq κ] in
theorem nodup_view {β : Type} (table : Unique α id key) (view : α → β) :
    (table.rows.map fun row => (key row, view row)).Nodup := by
  apply List.Nodup.of_map Prod.fst
  rw [List.map_map]
  exact table.distinct

/-- Tables that show the same under every key have the same rows, up to their
order. -/
theorem perm_of_lookup {β : Type} {view : α → β} {left right : Unique α id key}
    (same : ∀ value, (left.lookup value).map view = (right.lookup value).map view) :
    (left.rows.map fun row => (key row, view row)).Perm
      (right.rows.map fun row => (key row, view row)) := by
  have shown (table : Unique α id key) (value : κ) (content : β) :
      (value, content) ∈ table.rows.map (fun row => (key row, view row)) ↔
        (table.lookup value).map view = some content := by
    rw [List.mem_map, Option.map_eq_some_iff]
    apply exists_congr
    intro row
    rw [lookup_eq_some, Prod.mk.injEq, and_assoc]
  rw [List.perm_ext_iff_of_nodup (left.nodup_view view) (right.nodup_view view)]
  intro entry
  obtain ⟨value, content⟩ := entry
  rw [shown left, shown right, same]

end Unique

end BudBreeding.Data
