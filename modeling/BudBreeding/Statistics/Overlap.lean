import BudBreeding.Statistics.Aggregates

namespace BudBreeding.Statistics

open Data Backend Program

/-! Two runs of `snapshotBreeding` at the same time, on two instances of the server. -/

abbrev Snapshots := Pool Bool (fun _ : Statement => Bool) Unit Unit StatsTable

abbrev SnapshotStep :=
  Transition Snapshots (Event Bool (fun _ : Statement => Bool))

def ended : Prog (fun _ : Statement => Bool) Unit Unit → Bool
  | .ask _ _ => false
  | _ => true

/-- Both snapshots have returned or thrown. -/
def Finished (pool : Snapshots) : Prop :=
  ∀ thread, ended (pool.threads thread) = true

instance (pool : Snapshots) : Decidable (Finished pool) :=
  inferInstanceAs (Decidable (∀ thread, ended (pool.threads thread) = true))

/-- The statement adds its values to a column that already shows some of them, every
sum is in range, and one of them differs from what is shown. -/
structure Doubles (db : Db) (table : StatsTable) (statement : Statement) : Prop where
  sums : statement = .snapshot .bpForBreeding
  shown : ∃ user, (sheet table user).bind (fun row => row .bpForBreeding) ≠ none
  changes : ∃ entry ∈ entriesOf db .bpForBreeding, entry.2 ≠ 0
  fits : ∀ entry ∈ entriesOf db .bpForBreeding, (integer (entry.2 + entry.2)).isSome

def Column.position (column : Column) : Nat := Column.all.idxOf column

theorem Column.position_inj {left right : Column}
    (same : left.position = right.position) : left = right :=
  (List.idxOf_inj left.mem_all).mp same

theorem Column.position_lt (column : Column) : column.position < 7 :=
  List.idxOf_lt_length_of_mem column.mem_all

theorem Column.drop_position (column : Column) :
    Column.all.drop column.position =
      column :: Column.all.drop (column.position + 1) := by
  cases column <;> rfl

theorem Column.exists_position {count : Nat} (bound : count < 7) :
    ∃ column : Column, column.position = count := by
  have bound : count < Column.all.length := bound
  exact ⟨Column.all[count], List.Nodup.idxOf_getElem Column.nodup_all count bound⟩

inductive Stage where
  | waiting
  | filling (count : Nat)
  | failed

namespace Stage

def program : Stage → Prog (fun _ : Statement => Bool) Unit Unit
  | .waiting => snapshotBreeding
  | .filling count => snapshots (Column.all.drop count)
  | .failed => .throw ()

def past : Stage → Nat
  | .waiting => 0
  | .filling count => count
  | .failed => 7

end Stage

/-- A statement of one of the snapshots. -/
inductive Advance (db : Db) (stages : Bool → Stage) (table : StatsTable) :
    Statement → (Bool → Stage) → StatsTable → Prop
  | truncate {thread : Bool} (waiting : stages thread = .waiting) :
      Advance db stages table .truncate
        (Function.update stages thread (.filling 0)) table.truncate
  | fill {thread : Bool} {column : Column} {oracle : Oracle} {next : StatsTable}
      (reached : stages thread = .filling column.position)
      (ran : snapshot column oracle db table = some next) :
      Advance db stages table (.snapshot column)
        (Function.update stages thread (.filling (column.position + 1))) next
  | fail {thread : Bool} {column : Column} {oracle : Oracle}
      (reached : stages thread = .filling column.position)
      (ran : snapshot column oracle db table = none) :
      Advance db stages table (.snapshot column)
        (Function.update stages thread .failed) table

theorem update_program (stages : Bool → Stage) (thread : Bool) (stage : Stage) :
    Function.update (fun other => (stages other).program) thread stage.program =
      fun other => (Function.update stages thread stage other).program := by
  funext other
  by_cases same : other = thread
  · rw [same, Function.update_self, Function.update_self]
  · rw [Function.update_of_ne same, Function.update_of_ne same]

theorem advance_of_next {db : Db} {stages : Bool → Stage} {pool target : Snapshots}
    {event : Event Bool (fun _ : Statement => Bool)}
    (next : Pool.Next (statistics db) pool event target)
    (programs : pool.threads = fun thread => (stages thread).program) :
    ∃ after, Advance db stages pool.store event.query after target.store ∧
      target.threads = fun thread => (after thread).program := by
  cases next with
  | @ask thread statement rest oracle waits allowed =>
      simp only [Pool.transition]
      rw [programs] at waits ⊢
      simp only at waits
      cases stage : stages thread with
      | failed =>
          rw [stage] at waits
          cases waits
      | waiting =>
          rw [stage, Stage.program, snapshotBreeding_eq, execute_bind] at waits
          cases waits
          refine ⟨_, .truncate stage, ?_⟩
          exact update_program stages thread (.filling 0)
      | filling count =>
          rw [stage, Stage.program] at waits
          by_cases bound : count < 7
          · obtain ⟨column, rfl⟩ := Column.exists_position bound
            rw [column.drop_position, snapshots, execute_bind] at waits
            cases waits
            rw [exec_snapshot]
            cases ran : snapshot column oracle db pool.store with
            | none => exact ⟨_, .fail stage ran, update_program stages thread .failed⟩
            | some table =>
                exact ⟨_, .fill stage ran,
                  update_program stages thread (.filling (column.position + 1))⟩
          · have empty : Column.all.drop count = [] :=
              List.drop_eq_nil_of_le (Nat.le_of_not_lt bound)
            rw [empty] at waits
            cases waits

section Sums

variable {db : Db} {table : StatsTable} {done : List Column} {column : Column}
  {oracle : Oracle} {entry : Address × Int}

/-- The columns that a snapshot fills in when it runs alone. -/
def Sound (db : Db) (column : Column) : Prop :=
  ∀ earlier : Column, earlier.position ≤ column.position → Acceptable db earlier

theorem merged_of_overwrite (overwrites : column ≠ .bpForBreeding)
    (shown : Sheet Address Column Int) :
    merged column (conflict column) shown entry = some entry.2 := by
  rw [merged]
  cases shown entry.1 with
  | none => rfl
  | some row =>
      cases column with
      | bpForBreeding => exact absurd rfl overwrites
      | _ => rfl

theorem shown_of_done (acceptable : Acceptable db .bpForBreeding)
    (shown : sheet table = Sheet.outerJoin done (valueOf db))
    (summed : .bpForBreeding ∈ done) (member : entry ∈ entriesOf db .bpForBreeding) :
    ∃ row, sheet table entry.1 = some row ∧ row .bpForBreeding = some entry.2 := by
  have value := (mem_entriesOf acceptable entry).mp member
  rw [shown, Sheet.outerJoin, if_neg]
  · exact ⟨_, rfl, (if_pos summed).trans value⟩
  · intro empty
    rw [empty .bpForBreeding summed] at value
    cases value

theorem merged_of_done (acceptable : Acceptable db .bpForBreeding)
    (shown : sheet table = Sheet.outerJoin done (valueOf db))
    (summed : .bpForBreeding ∈ done) (member : entry ∈ entriesOf db .bpForBreeding) :
    merged .bpForBreeding addTo (sheet table) entry = integer (entry.2 + entry.2) := by
  obtain ⟨row, found, value⟩ := shown_of_done acceptable shown summed member
  rw [merged, found, Option.elim_some, value]
  rfl

/-- A statement that does not double anything writes the column, or it fails because
one of the doubled sums is out of range. -/
theorem snapshot_joins (acceptable : Acceptable db column)
    (shown : sheet table = Sheet.outerJoin done (valueOf db))
    (harmless : ¬ Doubles db table (.snapshot column)) :
    (∃ next, snapshot column oracle db table = some next ∧
      sheet next = Sheet.outerJoin (column :: done) (valueOf db)) ∨
    (snapshot column oracle db table = none ∧
      column = .bpForBreeding ∧ .bpForBreeding ∈ done) := by
  have joins (accepted : ∀ entry ∈ entriesOf db column,
      merged column (conflict column) (sheet table) entry = some entry.2) :
      ∃ next, snapshot column oracle db table = some next ∧
        sheet next = Sheet.outerJoin (column :: done) (valueOf db) := by
    obtain ⟨next, ran, written⟩ := @sheet_snapshot db column oracle table acceptable
      accepted
    rw [shown, Sheet.assign_outerJoin] at written
    exact ⟨next, ran, written⟩
  by_cases sums : column = .bpForBreeding
  · subst sums
    by_cases summed : .bpForBreeding ∈ done
    · by_cases fits : ∀ entry ∈ entriesOf db .bpForBreeding,
          (integer (entry.2 + entry.2)).isSome
      · apply Or.inl
        apply joins
        intro entry member
        have zero : entry.2 = 0 := by
          by_contra nonzero
          apply harmless
          refine ⟨rfl, ⟨entry.1, ?_⟩, ⟨entry, member, nonzero⟩, fits⟩
          obtain ⟨row, found, value⟩ := shown_of_done acceptable shown summed member
          rw [found, Option.bind_some, value]
          exact Option.some_ne_none _
        have doubled := merged_of_done acceptable shown summed member
        rw [zero] at doubled ⊢
        exact doubled
      · apply Or.inr
        simp only [not_forall, Option.not_isSome_iff_eq_none] at fits
        obtain ⟨entry, member, overflows⟩ := fits
        have rejected := merged_of_done acceptable shown summed member
        rw [overflows] at rejected
        exact ⟨snapshot_rejected acceptable member rejected, rfl, summed⟩
    · exact .inl (snapshot_outerJoin shown acceptable summed)
  · exact .inl (joins fun entry _ => merged_of_overwrite sums (sheet table))

end Sums

/-- The table shows the columns in `done`, and every other column that a snapshot alone
fills in is still ahead of one of the two, which does not stop before it. -/
structure Joined (db : Db) (stages : Bool → Stage) (done : List Column)
    (table : StatsTable) : Prop where
  shown : sheet table = Sheet.outerJoin done (valueOf db)
  sound : ∀ column ∈ done, Sound db column
  behind : ∀ thread count, stages thread = .filling count →
    ∀ column : Column, column.position < count → Acceptable db column
  summed : .bpForBreeding ∈ done →
    ∃ thread, Column.bpForBreeding.position < (stages thread).past
  ahead : ∀ column, Sound db column → column ∈ done ∨
    ∃ thread, (stages thread).past ≤ column.position ∧
      (.bpForBreeding ∈ done → Column.bpForBreeding.position < column.position →
        Column.bpForBreeding.position < (stages thread).past)

section Steps

variable {db : Db} {stages : Bool → Stage} {table next : StatsTable}
  {done : List Column} {column : Column} {thread : Bool}

theorem Joined.sound_of_acceptable (before : Joined db stages done table)
    (reached : stages thread = .filling column.position)
    (acceptable : Acceptable db column) : Sound db column := by
  intro earlier order
  cases Nat.lt_or_eq_of_le order with
  | inl below => exact before.behind thread _ reached earlier below
  | inr same =>
      rw [Column.position_inj same]
      exact acceptable

theorem Joined.truncate
    (behind : ∀ thread count, stages thread = .filling count →
      ∀ column : Column, column.position < count → Acceptable db column) :
    Joined db (Function.update stages thread (.filling 0)) [] table.truncate where
  shown := (Sheet.outerJoin_nil (valueOf db)).symm
  sound := List.forall_mem_nil _
  behind := by
    intro other count filling column order
    by_cases same : other = thread
    · rw [same, Function.update_self] at filling
      cases filling
      exact absurd order (Nat.not_lt_zero _)
    · rw [Function.update_of_ne same] at filling
      exact behind other count filling column order
  summed := by
    intro member
    cases member
  ahead := by
    intro column sound
    refine .inr ⟨thread, ?_, ?_⟩
    · rw [Function.update_self]
      exact Nat.zero_le _
    · intro member
      cases member

theorem Joined.fill (before : Joined db stages done table)
    (reached : stages thread = .filling column.position)
    (acceptable : Acceptable db column)
    (shown : sheet next = Sheet.outerJoin (column :: done) (valueOf db)) :
    Joined db (Function.update stages thread (.filling (column.position + 1)))
      (column :: done) next where
  shown := shown
  sound := List.forall_mem_cons.mpr
    ⟨before.sound_of_acceptable reached acceptable, before.sound⟩
  behind := by
    intro other count filling earlier order
    by_cases same : other = thread
    · rw [same, Function.update_self] at filling
      cases filling
      exact before.sound_of_acceptable reached acceptable earlier
        (Nat.le_of_lt_succ order)
    · rw [Function.update_of_ne same] at filling
      exact before.behind other count filling earlier order
  summed := by
    intro member
    cases List.mem_cons.mp member with
    | inl same =>
        refine ⟨thread, ?_⟩
        rw [Function.update_self, same]
        exact Nat.lt_succ_self _
    | inr earlier =>
        obtain ⟨other, past⟩ := before.summed earlier
        refine ⟨other, ?_⟩
        by_cases same : other = thread
        · rw [same, reached] at past
          rw [same, Function.update_self]
          exact Nat.lt_succ_of_lt past
        · rw [Function.update_of_ne same]
          exact past
  ahead := by
    intro later sound
    by_cases here : later = column
    · exact .inl (List.mem_cons.mpr (.inl here))
    cases before.ahead later sound with
    | inl filled => exact .inl (List.mem_cons_of_mem column filled)
    | inr pending =>
        obtain ⟨other, remaining, passes⟩ := pending
        have apart : later.position ≠ column.position := fun same =>
          here (Column.position_inj same)
        apply Or.inr
        -- The thread that fills in the column is ahead of all that comes after it.
        by_cases mine : other = thread ∨
            column = .bpForBreeding ∧ column.position < later.position
        · refine ⟨thread, ?_, ?_⟩
          all_goals rw [Function.update_self, Stage.past]
          · rcases mine with same | after
            · rw [same, reached, Stage.past] at remaining
              omega
            · exact after.2
          · intro member order
            rcases mine with same | after
            · cases List.mem_cons.mp member with
              | inl sums =>
                  rw [sums]
                  exact Nat.lt_succ_self _
              | inr earlier =>
                  have past := passes earlier order
                  rw [same, reached] at past
                  exact Nat.lt_succ_of_lt past
            · rw [after.1]
              exact Nat.lt_succ_self _
        · rw [not_or, not_and] at mine
          refine ⟨other, ?_, ?_⟩
          all_goals rw [Function.update_of_ne mine.1]
          · exact remaining
          · intro member order
            cases List.mem_cons.mp member with
            | inl sums =>
                rw [sums] at order
                exact absurd order (mine.2 sums.symm)
            | inr earlier => exact passes earlier order

theorem Joined.fail (before : Joined db stages done table)
    (reached : stages thread = .filling column.position)
    (stops : Acceptable db column →
      column = .bpForBreeding ∧ .bpForBreeding ∈ done) :
    Joined db (Function.update stages thread .failed) done table where
  shown := before.shown
  sound := before.sound
  behind := by
    intro other count filling earlier order
    by_cases same : other = thread
    · rw [same, Function.update_self] at filling
      cases filling
    · rw [Function.update_of_ne same] at filling
      exact before.behind other count filling earlier order
  summed := by
    intro member
    obtain ⟨other, past⟩ := before.summed member
    refine ⟨other, ?_⟩
    by_cases same : other = thread
    · rw [same, Function.update_self]
      exact Column.position_lt _
    · rw [Function.update_of_ne same]
      exact past
  ahead := by
    intro later sound
    cases before.ahead later sound with
    | inl filled => exact .inl filled
    | inr pending =>
        obtain ⟨other, remaining, passes⟩ := pending
        by_cases same : other = thread
        · rw [same, reached] at remaining passes
          obtain ⟨sums, summed⟩ := stops (sound column remaining)
          cases Nat.lt_or_eq_of_le remaining with
          | inl after =>
              rw [sums] at after passes
              exact absurd (passes summed after) (Nat.lt_irrefl _)
          | inr here =>
              rw [← Column.position_inj here, sums]
              exact .inl summed
        · refine .inr ⟨other, ?_, ?_⟩
          all_goals rw [Function.update_of_ne same]
          · exact remaining
          · exact passes

end Steps

/-- A sum has been doubled, and no statement that changes it is left. -/
structure Spoiled (db : Db) (stages : Bool → Stage) (table : StatsTable) : Prop where
  sound : Sound db .bpForBreeding
  past : ∀ thread, Column.bpForBreeding.position < (stages thread).past
  doubled : ∃ entry ∈ entriesOf db .bpForBreeding, entry.2 ≠ 0 ∧
    (sheet table entry.1).bind (fun row => row .bpForBreeding) =
      some (entry.2 + entry.2)

section Spoils

variable {db : Db} {stages after : Bool → Stage} {table next : StatsTable}
  {done : List Column} {column : Column} {thread : Bool} {statement : Statement}
  {oracle : Oracle}

theorem past_update {stage : Stage}
    (past : ∀ other, other ≠ thread →
      Column.bpForBreeding.position < (stages other).past)
    (here : Column.bpForBreeding.position < stage.past) (other : Bool) :
    Column.bpForBreeding.position < (Function.update stages thread stage other).past := by
  by_cases same : other = thread
  · rw [same, Function.update_self]
    exact here
  · rw [Function.update_of_ne same]
    exact past other same

theorem Joined.summed_of_doubles (before : Joined db stages done table)
    (doubles : Doubles db table statement) : .bpForBreeding ∈ done := by
  obtain ⟨user, shown⟩ := doubles.shown
  by_contra absent
  rw [before.shown] at shown
  exact shown (Sheet.outerJoin_absent absent user)

/-- The statement that doubles the sums is the last one of its kind. -/
theorem Joined.spoils (before : Joined db stages done table)
    (reached : stages thread = .filling Column.bpForBreeding.position)
    (doubles : Doubles db table (.snapshot .bpForBreeding)) :
    ∃ next, snapshot .bpForBreeding oracle db table = some next ∧
      Spoiled db (Function.update stages thread
        (.filling (Column.bpForBreeding.position + 1))) next := by
  have summed := before.summed_of_doubles doubles
  have sound := before.sound _ summed
  have acceptable : Acceptable db .bpForBreeding := sound _ (Nat.le_refl _)
  have accepted : ∀ entry ∈ entriesOf db .bpForBreeding,
      merged .bpForBreeding addTo (sheet table) entry = some (entry.2 + entry.2) := by
    intro entry member
    rw [merged_of_done acceptable before.shown summed member]
    exact integer_eq_some (doubles.fits entry member)
  obtain ⟨next, ran, written⟩ :=
    @sheet_snapshot_written db .bpForBreeding oracle table (fun value => value + value)
      acceptable accepted
  obtain ⟨entry, member, nonzero⟩ := doubles.changes
  refine ⟨next, ran, sound, past_update ?_ (Nat.lt_succ_self _),
    ⟨entry, member, nonzero, ?_⟩⟩
  · intro other apart
    obtain ⟨first, past⟩ := before.summed summed
    have elsewhere : first ≠ thread := by
      intro same
      rw [same, reached] at past
      exact absurd past (Nat.lt_irrefl _)
    have same : other = first := by
      cases other <;> cases first <;> cases thread <;> simp_all
    rw [same]
    exact past
  · rw [written, Sheet.assign, (mem_entriesOf acceptable entry).mp member,
      Option.map_some, Option.elim_some, Option.bind_some, Function.update_self]

theorem Spoiled.advance (before : Spoiled db stages table)
    (advance : Advance db stages table statement after next) :
    Spoiled db after next := by
  cases advance with
  | @truncate thread waiting =>
      have past := before.past thread
      rw [waiting] at past
      exact absurd past (Nat.not_lt_zero _)
  | @fail thread column oracle reached ran =>
      exact ⟨before.sound,
        past_update (fun other _ => before.past other) (Column.position_lt _),
        before.doubled⟩
  | @fill thread column oracle next reached ran =>
      have order := before.past thread
      rw [reached, Stage.past] at order
      have apart : Column.bpForBreeding ≠ column := by
        intro same
        rw [same] at order
        exact absurd order (Nat.lt_irrefl _)
      have acceptable : Acceptable db column := by
        by_contra unacceptable
        rw [snapshot_eq_none unacceptable] at ran
        cases ran
      obtain ⟨other, same, written⟩ :=
        @sheet_snapshot db column oracle table acceptable fun _ _ =>
          merged_of_overwrite apart.symm _
      rw [ran] at same
      cases same
      obtain ⟨entry, member, nonzero, doubled⟩ := before.doubled
      refine ⟨before.sound, past_update (fun other _ => before.past other)
        (Nat.lt_succ_of_lt order), entry, member, nonzero, ?_⟩
      rw [written, Sheet.bind_assign_of_ne apart, doubled]

/-- What holds of two snapshots until a sum is doubled. -/
def Undoubled (db : Db) (stages : Bool → Stage) (table : StatsTable) : Prop :=
  (∀ thread, stages thread = .waiting) ∨ ∃ done, Joined db stages done table

theorem Undoubled.joined (before : Undoubled db stages table)
    (reached : stages thread = .filling column.position) :
    ∃ done, Joined db stages done table := by
  cases before with
  | inl waiting =>
      rw [waiting] at reached
      cases reached
  | inr joined => exact joined

theorem Undoubled.advance (before : Undoubled db stages table)
    (advance : Advance db stages table statement after next)
    (harmless : ¬ Doubles db table statement) : Undoubled db after next := by
  apply Or.inr
  cases advance with
  | truncate waiting =>
      refine ⟨[], Joined.truncate ?_⟩
      intro other count filling
      cases before with
      | inl waits =>
          rw [waits] at filling
          cases filling
      | inr joined =>
          obtain ⟨done, joined⟩ := joined
          exact joined.behind other count filling
  | @fill thread column oracle next reached ran =>
      obtain ⟨done, joined⟩ := before.joined reached
      have acceptable : Acceptable db column := by
        by_contra unacceptable
        rw [snapshot_eq_none unacceptable] at ran
        cases ran
      refine ⟨column :: done, joined.fill reached acceptable ?_⟩
      cases snapshot_joins acceptable joined.shown harmless with
      | inl joins =>
          obtain ⟨other, same, shown⟩ := joins
          rw [ran] at same
          cases same
          exact shown
      | inr failed =>
          rw [ran] at failed
          cases failed.1
  | @fail thread column oracle reached ran =>
      obtain ⟨done, joined⟩ := before.joined reached
      refine ⟨done, joined.fail reached ?_⟩
      intro acceptable
      cases snapshot_joins acceptable joined.shown harmless with
      | inl joins =>
          obtain ⟨other, same, -⟩ := joins
          rw [ran] at same
          cases same
      | inr failed => exact failed.2

theorem Undoubled.spoils (before : Undoubled db stages table)
    (advance : Advance db stages table statement after next)
    (doubles : Doubles db table statement) : Spoiled db after next := by
  cases advance with
  | truncate waiting => cases doubles.sums
  | @fill thread column oracle next reached ran =>
      obtain ⟨done, joined⟩ := before.joined reached
      cases doubles.sums
      obtain ⟨other, same, spoiled⟩ := @Joined.spoils db stages table done thread
        oracle joined reached doubles
      rw [ran] at same
      cases same
      exact spoiled
  | @fail thread column oracle reached ran =>
      obtain ⟨done, joined⟩ := before.joined reached
      cases doubles.sums
      obtain ⟨other, same, -⟩ := @Joined.spoils db stages table done thread oracle
        joined reached doubles
      rw [ran] at same
      cases same

end Spoils

section Runs

variable {db : Db} {stages : Bool → Stage} {stats before single : StatsTable}
  {result : Except Unit Unit} {steps : List SnapshotStep} {final : Snapshots}

/-- One of the steps doubles a sum. -/
def Doubled (db : Db) (steps : List SnapshotStep) : Prop :=
  ∃ step ∈ steps, Doubles db step.source.store step.label.query

/-- The run lemma: the sums are doubled for good by the first step that doubles them. -/
theorem spoiled_or_undoubled
    (history : History (Pool.Next (statistics db)) ⟨stats, fun _ => snapshotBreeding⟩
      steps final) :
    ∃ stages : Bool → Stage, (final.threads = fun thread => (stages thread).program) ∧
      (Undoubled db stages final.store ∧ ¬ Doubled db steps ∨
        Spoiled db stages final.store ∧ Doubled db steps) := by
  induction history with
  | nil =>
      refine ⟨fun _ => .waiting, rfl, .inl ⟨.inl fun _ => rfl, ?_⟩⟩
      intro doubled
      obtain ⟨step, member, -⟩ := doubled
      cases member
  | @snoc steps current target label earlier step induction =>
      obtain ⟨stages, programs, standing⟩ := induction
      obtain ⟨after, advance, advanced⟩ := advance_of_next step programs
      refine ⟨after, advanced, ?_⟩
      have doubled_snoc : Doubled db (steps ++ [⟨current, label, target⟩]) ↔
          Doubled db steps ∨ Doubles db current.store label.query := by
        simp only [Doubled, List.mem_append, List.mem_singleton, or_and_right,
          exists_or, exists_eq_left]
      rw [doubled_snoc, not_or]
      cases standing with
      | inl undoubled =>
          by_cases doubles : Doubles db current.store label.query
          · exact .inr ⟨undoubled.1.spoils advance doubles, .inr doubles⟩
          · exact .inl ⟨undoubled.1.advance advance doubles, undoubled.2, doubles⟩
      | inr spoiled =>
          exact .inr ⟨spoiled.1.advance advance, .inl spoiled.2⟩

theorem past_of_finished (finished : Finished final)
    (programs : final.threads = fun thread => (stages thread).program)
    (thread : Bool) : 7 ≤ (stages thread).past := by
  have ended := finished thread
  rw [programs] at ended
  cases stage : stages thread with
  | failed => exact Nat.le_refl _
  | waiting =>
      simp only [stage, Stage.program] at ended
      rw [snapshotBreeding_eq, execute_bind] at ended
      cases ended
  | filling count =>
      by_contra unfinished
      obtain ⟨column, rfl⟩ := Column.exists_position (Nat.lt_of_not_le unfinished)
      simp only [stage, Stage.program] at ended
      rw [column.drop_position, snapshots, execute_bind] at ended
      cases ended

theorem mem_filled_drop {column : Column} (left : Nat) :
    ∀ count, count + left = 7 →
      (column ∈ filled db (Column.all.drop count) ↔
        count ≤ column.position ∧ ∀ earlier : Column, count ≤ earlier.position →
          earlier.position ≤ column.position → Acceptable db earlier) := by
  induction left with
  | zero =>
      intro count total
      cases total
      apply iff_of_false List.not_mem_nil
      intro both
      exact absurd both.1 (Nat.not_le_of_lt column.position_lt)
  | succ left induction =>
      intro count total
      obtain ⟨first, rfl⟩ := @Column.exists_position count (by omega)
      have later := induction (first.position + 1) (by omega)
      rw [first.drop_position]
      by_cases acceptable : Acceptable db first
      · rw [filled_cons_of_acceptable acceptable, List.mem_cons, later]
        constructor
        · intro listed
          rcases listed with same | ⟨order, each⟩
          · rw [same]
            refine ⟨Nat.le_refl _, ?_⟩
            intro earlier above below
            rw [← Column.position_inj (Nat.le_antisymm above below)]
            exact acceptable
          · refine ⟨Nat.le_of_succ_le order, ?_⟩
            intro earlier above below
            cases Nat.lt_or_eq_of_le above with
            | inl after => exact each earlier after below
            | inr same =>
                rw [← Column.position_inj same]
                exact acceptable
        · intro both
          cases Nat.lt_or_eq_of_le both.1 with
          | inl after =>
              exact .inr ⟨after, fun earlier above =>
                both.2 earlier (Nat.le_of_succ_le above)⟩
          | inr same => exact .inl (Column.position_inj same).symm
      · rw [filled_cons_of_not acceptable]
        apply iff_of_false List.not_mem_nil
        intro both
        exact acceptable (both.2 first (Nat.le_refl _) both.1)

theorem mem_filled {column : Column} :
    column ∈ filled db Column.all ↔ Sound db column := by
  have listed := @mem_filled_drop db column 7 0 rfl
  unfold Sound
  simpa only [List.drop_zero, Nat.zero_le, true_and, true_implies] using listed

theorem sheet_single (alone : (statistics db).Runs snapshotBreeding before result single) :
    sheet single = Sheet.outerJoin (filled db Column.all) (valueOf db) := by
  rw [snapshotBreeding_eq] at alone
  exact (ensures_truncated_snapshots Column.nodup_all _ _ alone).2

theorem Undoubled.sheet_eq (undoubled : Undoubled db stages final.store)
    (past : ∀ thread, 7 ≤ (stages thread).past) :
    sheet final.store = Sheet.outerJoin (filled db Column.all) (valueOf db) := by
  cases undoubled with
  | inl waiting =>
      have unfinished := past true
      rw [waiting] at unfinished
      exact absurd unfinished (by decide)
  | inr joined =>
      obtain ⟨done, joined⟩ := joined
      rw [joined.shown]
      apply Sheet.outerJoin_congr
      intro column
      rw [mem_filled]
      constructor
      · exact joined.sound column
      · intro sound
        cases joined.ahead column sound with
        | inl filled => exact filled
        | inr pending =>
            obtain ⟨thread, remaining, -⟩ := pending
            have order := Nat.le_trans (past thread) remaining
            exact absurd order (Nat.not_le_of_lt column.position_lt)

theorem Spoiled.sheet_ne (spoiled : Spoiled db stages final.store) :
    sheet final.store ≠ Sheet.outerJoin (filled db Column.all) (valueOf db) := by
  obtain ⟨entry, member, nonzero, doubled⟩ := spoiled.doubled
  have acceptable := spoiled.sound .bpForBreeding (Nat.le_refl _)
  have listed := mem_filled.mpr spoiled.sound
  intro same
  obtain ⟨row, found, value⟩ := shown_of_done acceptable same listed member
  rw [found, Option.bind_some, value] at doubled
  have double := Option.some.inj doubled
  omega

/-- Two overlapping snapshots leave what a single one leaves just when neither adds
its sums to those of the other. -/
theorem overlap_harmless_iff
    (history : History (Pool.Next (statistics db)) ⟨stats, fun _ => snapshotBreeding⟩
      steps final)
    (finished : Finished final)
    (alone : (statistics db).Runs snapshotBreeding before result single) :
    sheet final.store = sheet single ↔
      ∀ step ∈ steps, ¬ Doubles db step.source.store step.label.query := by
  obtain ⟨stages, programs, standing⟩ := spoiled_or_undoubled history
  have past := past_of_finished finished programs
  rw [sheet_single alone]
  cases standing with
  | inl undoubled =>
      apply iff_of_true (undoubled.1.sheet_eq past)
      intro step member doubles
      exact undoubled.2 ⟨step, member, doubles⟩
  | inr spoiled =>
      apply iff_of_false spoiled.1.sheet_ne
      intro harmless
      obtain ⟨step, member, doubles⟩ := spoiled.2
      exact harmless step member doubles

end Runs

section Servers

/-- Two snapshots of one farm, with their statements in the order of `schedule`. -/
def snapshotTwice (db : Db) (schedule : List Bool) : List SnapshotStep × Snapshots :=
  Pool.play (statistics db)
    (schedule.map fun thread => (thread, .agreeable "alice" 0))
    ⟨.empty, fun _ => snapshotBreeding⟩

theorem history_snapshotTwice (db : Db) (schedule : List Bool) :
    History (Pool.Next (statistics db)) ⟨.empty, fun _ => snapshotBreeding⟩
      (snapshotTwice db schedule).1 (snapshotTwice db schedule).2 :=
  Pool.history_play (fun _ _ _ => trivial) .nil

/-- One snapshot is near its end when the other one empties the table. -/
def overtaken : List Bool :=
  List.replicate 6 true ++ [false] ++ List.replicate 2 true ++ List.replicate 7 false

theorem overlap_harmless_iff_overtaken :
    sheet (snapshotTwice (farm 3 none "bob") overtaken).2.store =
      sheet (snapshotOf (farm 3 none "bob")).2 := by
  apply (overlap_harmless_iff (history_snapshotTwice _ overtaken) (by decide +kernel)
    (runs_snapshotOf _)).mpr
  have unfilled : ∀ step ∈ (snapshotTwice (farm 3 none "bob") overtaken).1,
      step.label.query = .snapshot .bpForBreeding →
        ∀ row ∈ step.source.store.rows, row.bpForBreeding = none := by
    decide +kernel
  intro step member doubles
  obtain ⟨user, shown⟩ := doubles.shown
  cases found : step.source.store.lookup user with
  | none =>
      rw [sheet_apply, found] at shown
      exact shown rfl
  | some row =>
      rw [sheet_apply, found] at shown
      exact shown (unfilled step member doubles.sums row
        (Unique.lookup_eq_some.mp found).1)

/-- Both tables are emptied before either of the two snapshots fills in a column. -/
def afterTruncates : List Bool :=
  [true, false] ++ List.replicate 7 true ++ List.replicate 7 false

theorem sums_doubled :
    ¬ ∀ (db : Db) (stats before single : StatsTable) (result : Except Unit Unit)
        (steps : List SnapshotStep) (final : Snapshots),
      History (Pool.Next (statistics db)) ⟨stats, fun _ => snapshotBreeding⟩
          steps final →
        Finished final →
        (statistics db).Runs snapshotBreeding before result single →
        sheet final.store = sheet single := by
  intro harmless
  have same := congrFun (harmless (farm 3 none "bob") .empty .empty _ _ _ _
    (history_snapshotTwice _ afterTruncates) (by decide +kernel) (runs_snapshotOf _))
    "alice"
  have twice : (sheet (snapshotTwice (farm 3 none "bob") afterTruncates).2.store
      "alice").bind (fun row => row .bpForBreeding) = some 90 := by
    decide +kernel
  have once : (sheet (snapshotOf (farm 3 none "bob")).2 "alice").bind
      (fun row => row .bpForBreeding) = some 45 := by
    decide +kernel
  rw [same, once] at twice
  exact absurd twice (by decide)

end Servers

end BudBreeding.Statistics
