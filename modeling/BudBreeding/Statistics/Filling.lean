import BudBreeding.Statistics.Sheets

namespace BudBreeding.Statistics

open Data Backend Program

/-! Runs of a snapshot: the columns of an emptied table are filled in one by one, up to
the first statement that fails. -/

def snapshots : List Column → Prog (fun _ : Statement => Bool) Unit Unit
  | [] => .pure ()
  | column :: rest => do
      execute (.snapshot column)
      snapshots rest

/-- The order in which `snapshotBreeding` fills in the columns. -/
def Column.all : List Column :=
  [.totalSuccess, .totalFailure, .totalCancels, .totalHours, .bpForBreeding,
    .bpForLandUpgrade, .burnedBuds]

theorem Column.mem_all (column : Column) : column ∈ Column.all := by
  cases column <;> decide

theorem Column.nodup_all : Column.all.Nodup := by
  decide

/-- The columns that are filled in before a statement fails. -/
def filled (db : Db) (columns : List Column) : List Column :=
  columns.takeWhile fun column => Acceptable db column

section Runs

variable {db : Db} {columns done : List Column} {column : Column} {table : StatsTable}
  {rest : Unit → Prog (fun _ : Statement => Bool) Unit Unit}
  {post : Except Unit Unit → StatsTable → Prop}

theorem execute_bind (statement : Statement) :
    (execute statement >>= rest) =
      .ask statement fun succeeded =>
        if succeeded = false then .throw () else rest () := by
  rw [execute, Prog.bind_assoc]
  change Prog.ask _ _ = _
  congr 1
  funext succeeded
  cases succeeded <;> rfl

theorem snapshotBreeding_eq :
    snapshotBreeding = execute .truncate >>= fun _ => snapshots Column.all := by
  have last (statement : Statement) :
      (execute statement >>= fun _ => .pure ()) = execute statement := by
    rw [execute_bind]
    unfold execute
    change _ = Prog.ask _ _
    congr 1
  simp only [snapshotBreeding, snapshots, Column.all, last]

theorem exec_snapshot (oracle : Oracle) :
    (statistics db).exec oracle (.snapshot column) table =
      (snapshot column oracle db table).elim (false, table)
        fun next => (true, next) := by
  simp only [statistics]
  cases snapshot column oracle db table <;> rfl

theorem ensures_truncate (ensures : (statistics db).Ensures (rest ()) post
    table.truncate) :
    (statistics db).Ensures (execute .truncate >>= rest) post table := by
  rw [execute_bind, World.ensures_ask]
  intro oracle allowed
  exact ensures

theorem ensures_snapshot
    (each : ∀ oracle, (snapshot column oracle db table).elim
      (post (.error ()) table) ((statistics db).Ensures (rest ()) post)) :
    (statistics db).Ensures (execute (.snapshot column) >>= rest) post table := by
  rw [execute_bind, World.ensures_ask]
  intro oracle allowed
  have reached := each oracle
  rw [exec_snapshot]
  cases ran : snapshot column oracle db table with
  | none =>
      rw [ran] at reached
      exact World.ensures_throw.mpr reached
  | some next =>
      rw [ran] at reached
      exact reached

theorem snapshot_outerJoin {oracle : Oracle}
    (shown : sheet table = Sheet.outerJoin done (valueOf db))
    (acceptable : Acceptable db column) (open_ : column ∉ done) :
    ∃ next, snapshot column oracle db table = some next ∧
      sheet next = Sheet.outerJoin (column :: done) (valueOf db) := by
  have fresh : ∀ user, (sheet table user).bind (fun row => row column) = none := by
    rw [shown]
    exact Sheet.outerJoin_absent open_
  obtain ⟨next, ran, written⟩ :=
    @sheet_snapshot db column oracle table acceptable fun _ => merged_of_fresh fresh
  rw [shown, Sheet.assign_outerJoin] at written
  exact ⟨next, ran, written⟩

theorem filled_cons_of_acceptable (acceptable : Acceptable db column) :
    filled db (column :: columns) = column :: filled db columns :=
  List.takeWhile_cons_of_pos (decide_eq_true acceptable)

theorem filled_cons_of_not (unacceptable : ¬ Acceptable db column) :
    filled db (column :: columns) = [] :=
  List.takeWhile_cons_of_neg (by simpa using unacceptable)

/-- The run lemma: what is filled in is joined to what was there. -/
theorem ensures_snapshots (distinct : columns.Nodup) (apart : done.Disjoint columns)
    (shown : sheet table = Sheet.outerJoin done (valueOf db)) :
    (statistics db).Ensures (snapshots columns)
      (fun result final =>
        (result = .ok () ↔ ∀ column ∈ columns, Acceptable db column) ∧
        sheet final = Sheet.outerJoin (done ++ filled db columns) (valueOf db))
      table := by
  induction columns generalizing done table with
  | nil =>
      rw [snapshots, World.ensures_prog_pure, filled, List.takeWhile_nil,
        List.append_nil]
      exact ⟨iff_of_true rfl (List.forall_mem_nil _), shown⟩
  | cons column rest induction =>
      obtain ⟨single, others⟩ := List.nodup_cons.mp distinct
      obtain ⟨fresh, remaining⟩ := List.disjoint_cons_right.mp apart
      apply ensures_snapshot
      intro oracle
      by_cases acceptable : Acceptable db column
      · obtain ⟨next, ran, written⟩ :=
          @snapshot_outerJoin db done column table oracle shown acceptable fresh
        rw [ran, Option.elim_some, filled_cons_of_acceptable acceptable]
        have disjoint := List.disjoint_cons_left.mpr ⟨single, remaining⟩
        refine World.Ensures.mono (induction others disjoint written) ?_
        intro result final reached
        rw [Sheet.outerJoin_congr fun _ => List.perm_middle.mem_iff, List.forall_mem_cons,
          and_iff_right acceptable]
        exact reached
      · rw [snapshot_eq_none acceptable, Option.elim_none,
          filled_cons_of_not acceptable, List.append_nil]
        refine ⟨?_, shown⟩
        constructor
        · intro same
          cases same
        · intro all
          exact absurd (all column List.mem_cons_self) acceptable

/-- A snapshot that runs alone, with its statements in any order. -/
theorem ensures_truncated_snapshots (distinct : columns.Nodup) :
    (statistics db).Ensures (execute .truncate >>= fun _ => snapshots columns)
      (fun result final =>
        (result = .ok () ↔ ∀ column ∈ columns, Acceptable db column) ∧
        sheet final = Sheet.outerJoin (filled db columns) (valueOf db))
      table := by
  apply ensures_truncate
  apply ensures_snapshots distinct (List.disjoint_nil_left columns)
  rw [Sheet.outerJoin_nil]
  rfl

theorem filled_eq_self (all : ∀ column ∈ columns, Acceptable db column) :
    filled db columns = columns := by
  apply List.takeWhile_eq_self_iff.mpr
  intro column member
  exact decide_eq_true (all column member)

end Runs

end BudBreeding.Statistics
