import BudBreeding.Statistics.Snapshot

namespace BudBreeding.Statistics

open Data Backend Program

/-! What the statements of a snapshot do to the values that `Stats` shows. -/

def sheet (table : StatsTable) : Sheet Address Column Int := fun address =>
  (table.lookup address).map Stats.get

theorem sheet_apply (table : StatsTable) (address : Address) :
    sheet table address = (table.lookup address).map Stats.get := rfl

section Insert

variable {now : Time} {column : Column} {onConflict : Option Int → Int → Option Int}
  {table : StatsTable} {entries : List (Address × Int)}

theorem sheet_upsert (table : StatsTable) (entry : Address × Int) :
    sheet (table.upsert (conflictUpdate now column entry.1 entry.2)) =
      Sheet.put column (sheet table) entry := by
  funext address
  rw [sheet_apply, Unique.lookup_upsert, conflictUpdate_value, Sheet.put]
  by_cases same : entry.1 = address
  · subst same
    rw [Function.update_self, if_pos rfl, Option.map_some, sheet_apply]
    cases table.lookup entry.1 with
    | none =>
        change some ((Stats.blank _ _ _).set _ _).get = _
        rw [Stats.get_set, Stats.get_blank]
        rfl
    | some row =>
        change some (row.set entry.2 column).get = _
        rw [Stats.get_set]
        rfl
  · rw [if_neg same, Function.update_of_ne (Ne.symm same), sheet_apply]

/-- The value a statement writes for an entry, given what the sheet shows. -/
def merged (column : Column) (onConflict : Option Int → Int → Option Int)
    (shown : Sheet Address Column Int) (entry : Address × Int) : Option Int :=
  (shown entry.1).elim (some entry.2) fun row => onConflict (row column) entry.2

theorem insertRow_eq (entry : Address × Int) :
    insertRow now column onConflict table entry =
      (merged column onConflict (sheet table) entry).map fun value =>
        table.upsert (conflictUpdate now column entry.1 value) := by
  rw [insertRow, merged, sheet_apply]
  cases table.lookup entry.1 with
  | none => rfl
  | some row => rfl

theorem merged_put {entry other : Address × Int} {shown : Sheet Address Column Int}
    (apart : other.1 ≠ entry.1) :
    merged column onConflict (Sheet.put column shown entry) other =
      merged column onConflict shown other := by
  rw [merged, merged, Sheet.put, Function.update_of_ne apart]

theorem ne_of_fresh {entry other : Address × Int}
    (fresh : entry.1 ∉ entries.map Prod.fst) (member : other ∈ entries) :
    other.1 ≠ entry.1 := by
  intro same
  apply fresh
  rw [← same]
  exact List.mem_map_of_mem member

/-- A statement that is not rejected writes its values one by one. -/
theorem foldlM_insertRow {written : Int → Int}
    (distinct : (entries.map Prod.fst).Nodup)
    (accepted : ∀ entry ∈ entries,
      merged column onConflict (sheet table) entry = some (written entry.2)) :
    ∃ next, entries.foldlM (insertRow now column onConflict) table = some next ∧
      sheet next = (entries.map (Prod.map id written)).foldl (Sheet.put column)
        (sheet table) := by
  induction entries generalizing table with
  | nil => exact ⟨table, rfl, rfl⟩
  | cons entry rest induction =>
      obtain ⟨fresh, others⟩ := List.nodup_cons.mp distinct
      obtain ⟨first, later⟩ := List.forall_mem_cons.mp accepted
      have upserted := @sheet_upsert now column table (Prod.map id written entry)
      have still : ∀ other ∈ rest,
          merged column onConflict
            (sheet (table.upsert
              (conflictUpdate now column entry.1 (written entry.2))))
            other = some (written other.2) := by
        intro other member
        have apart : other.1 ≠ (Prod.map id written entry).1 := ne_of_fresh fresh member
        exact (congrArg (merged column onConflict · other) upserted).trans
          ((merged_put apart).trans (later other member))
      obtain ⟨next, ran, shown⟩ := induction others still
      rw [List.foldlM_cons, insertRow_eq, first]
      refine ⟨next, ran, shown.trans ?_⟩
      rw [List.map_cons, List.foldl_cons]
      exact congrArg (List.foldl (Sheet.put column) · _) upserted

theorem foldlM_insertRow_rejected (distinct : (entries.map Prod.fst).Nodup)
    {entry : Address × Int} (member : entry ∈ entries)
    (rejected : merged column onConflict (sheet table) entry = none) :
    entries.foldlM (insertRow now column onConflict) table = none := by
  induction entries generalizing table with
  | nil => exact absurd member List.not_mem_nil
  | cons first rest induction =>
      obtain ⟨fresh, others⟩ := List.nodup_cons.mp distinct
      rw [List.foldlM_cons, insertRow_eq]
      cases List.mem_cons.mp member with
      | inl same =>
          rw [← same, rejected]
          rfl
      | inr later =>
          cases merged column onConflict (sheet table) first with
          | none => rfl
          | some value =>
              apply induction others later
              have apart : entry.1 ≠ (first.1, value).1 := ne_of_fresh fresh later
              change merged column onConflict (sheet (table.upsert
                (conflictUpdate now column (first.1, value).1 (first.1, value).2)))
                  entry = none
              rw [sheet_upsert, merged_put apart, rejected]

end Insert

section Statements

variable {db : Db} {column : Column} {oracle : Oracle} {table : StatsTable}

def entriesOf (db : Db) (column : Column) : List (Address × Int) :=
  (selection db column).filterMap proposedRow

/-- The query of a statement can be evaluated and stored. -/
structure Acceptable (db : Db) (column : Column) : Prop where
  casts : ∀ row ∈ selection db column, (proposedRow row).isSome
  distinct : ((entriesOf db column).map Prod.fst).Nodup

instance (db : Db) (column : Column) : Decidable (Acceptable db column) :=
  decidable_of_iff
    ((∀ row ∈ selection db column, (proposedRow row).isSome) ∧
      ((entriesOf db column).map Prod.fst).Nodup)
    ⟨fun both => ⟨both.1, both.2⟩, fun acceptable =>
      ⟨acceptable.casts, acceptable.distinct⟩⟩

/-- What a statement stores for a user, or nothing without a group for the user. -/
def valueOf (db : Db) (column : Column) (user : Address) : Option Int :=
  ((entriesOf db column).find? fun entry => entry.1 = user).map Prod.snd

theorem mem_entriesOf (acceptable : Acceptable db column) (entry : Address × Int) :
    entry ∈ entriesOf db column ↔ valueOf db column entry.1 = some entry.2 := by
  have found (row : Address × Int) :
      ((entriesOf db column).find? fun other => other.1 = entry.1) = some row ↔
        row ∈ entriesOf db column ∧ row.1 = entry.1 :=
    @Table.find_eq_some _ _ _ _ ⟨entriesOf db column, acceptable.distinct⟩ _ _
  rw [valueOf, Option.map_eq_some_iff]
  constructor
  · intro member
    exact ⟨entry, (found entry).mpr ⟨member, rfl⟩, rfl⟩
  · intro stored
    obtain ⟨row, looked, same⟩ := stored
    obtain ⟨member, key⟩ := (found row).mp looked
    exact Prod.ext key same ▸ member

def conflict : Column → Option Int → Int → Option Int
  | .bpForBreeding => addTo
  | _ => overwrite

theorem snapshot_eq (column : Column) (oracle : Oracle) (db : Db) :
    snapshot column oracle db =
      insertSelection oracle column (conflict column) (selection db column) := by
  cases column <;> rfl

theorem snapshot_eq_none (unacceptable : ¬ Acceptable db column) :
    snapshot column oracle db table = none := by
  rw [snapshot_eq, insertSelection]
  cases evaluated : (oracle.arrange (selection db column)).mapM proposedRow with
  | none => rfl
  | some entries =>
      have casts := isSome_of_mapM evaluated
      apply if_neg
      intro distinct
      apply unacceptable
      rw [mapM_eq_filterMap casts] at evaluated
      cases evaluated
      have same := (oracle.arrange_perm (selection db column)).filterMap proposedRow
      constructor
      · intro row member
        exact casts row (Oracle.mem_arrange.mpr member)
      · exact (same.map Prod.fst).nodup_iff.mp distinct

theorem snapshot_acceptable (acceptable : Acceptable db column) :
    ∃ entries : List (Address × Int), entries.Perm (entriesOf db column) ∧
      snapshot column oracle db table =
        entries.foldlM (insertRow oracle.now column (conflict column)) table := by
  have casts : ∀ row ∈ oracle.arrange (selection db column),
      (proposedRow row).isSome := by
    intro row member
    exact acceptable.casts row (Oracle.mem_arrange.mp member)
  have same := (oracle.arrange_perm (selection db column)).filterMap proposedRow
  have distinct := (same.map Prod.fst).nodup_iff.mpr acceptable.distinct
  refine ⟨_, same, ?_⟩
  rw [snapshot_eq, insertSelection, mapM_eq_filterMap casts]
  exact if_pos distinct

theorem sheet_snapshot_written {written : Int → Int} (acceptable : Acceptable db column)
    (accepted : ∀ entry ∈ entriesOf db column,
      merged column (conflict column) (sheet table) entry = some (written entry.2)) :
    ∃ next, snapshot column oracle db table = some next ∧
      sheet next =
        Sheet.assign column (fun user => (valueOf db column user).map written)
          (sheet table) := by
  obtain ⟨entries, same, ran⟩ := @snapshot_acceptable db column oracle table acceptable
  have distinct := (same.map Prod.fst).nodup_iff.mpr acceptable.distinct
  rw [ran]
  obtain ⟨next, inserted, shown⟩ := foldlM_insertRow distinct
    fun entry member => accepted entry (same.mem_iff.mp member)
  refine ⟨next, inserted, shown.trans (Sheet.foldl_put_eq_assign ?_ ?_)⟩
  · rw [List.map_map]
    exact distinct
  · intro entry
    rw [List.mem_map, Option.map_eq_some_iff]
    constructor
    · intro mapped
      obtain ⟨old, member, rfl⟩ := mapped
      exact ⟨old.2, (mem_entriesOf acceptable old).mp (same.mem_iff.mp member), rfl⟩
    · intro stored
      obtain ⟨value, valued, changed⟩ := stored
      exact ⟨(entry.1, value),
        same.mem_iff.mpr ((mem_entriesOf acceptable (entry.1, value)).mpr valued),
        Prod.ext rfl changed⟩

theorem sheet_snapshot (acceptable : Acceptable db column)
    (accepted : ∀ entry ∈ entriesOf db column,
      merged column (conflict column) (sheet table) entry = some entry.2) :
    ∃ next, snapshot column oracle db table = some next ∧
      sheet next = Sheet.assign column (valueOf db column) (sheet table) := by
  have written := @sheet_snapshot_written db column oracle table id acceptable accepted
  simpa only [Option.map_id, id] using written

theorem snapshot_rejected (acceptable : Acceptable db column)
    {entry : Address × Int} (member : entry ∈ entriesOf db column)
    (rejected : merged column (conflict column) (sheet table) entry = none) :
    snapshot column oracle db table = none := by
  obtain ⟨entries, same, ran⟩ := @snapshot_acceptable db column oracle table acceptable
  have distinct := (same.map Prod.fst).nodup_iff.mpr acceptable.distinct
  rw [ran]
  exact foldlM_insertRow_rejected distinct (same.mem_iff.mpr member) rejected

theorem integer_entriesOf {entry : Address × Int}
    (member : entry ∈ entriesOf db column) : integer entry.2 = some entry.2 := by
  obtain ⟨row, -, proposed⟩ := List.mem_filterMap.mp member
  obtain ⟨user, -, rest⟩ := Option.bind_eq_some_iff.mp proposed
  obtain ⟨value, stored, same⟩ := Option.bind_eq_some_iff.mp rest
  cases same
  obtain ⟨total, -, cast⟩ := Option.bind_eq_some_iff.mp stored
  unfold toInteger integer at cast
  split at cast
  · next range =>
      cases cast
      exact if_pos range
  · cases cast

theorem merged_of_fresh
    (fresh : ∀ user, (sheet table user).bind (fun row => row column) = none)
    {entry : Address × Int} (member : entry ∈ entriesOf db column) :
    merged column (conflict column) (sheet table) entry = some entry.2 := by
  have empty := fresh entry.1
  rw [merged]
  cases shown : sheet table entry.1 with
  | none => rfl
  | some row =>
      rw [shown, Option.bind_some] at empty
      rw [Option.elim_some, empty]
      cases column with
      | bpForBreeding =>
          rw [conflict, addTo, Option.getD_none, zero_add]
          exact integer_entriesOf member
      | _ => rfl

end Statements

end BudBreeding.Statistics
