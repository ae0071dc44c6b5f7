import BudBreeding.Concurrency.Guarantees
import BudBreeding.Statistics.Overlap

namespace BudBreeding.Statistics

open Data Backend Program
open Concurrency (Evolves PairLater SlotLater Rested keeping_of_interleaving
  evolved_of_interleaving rivalLevels rested_breedingAfter)

/-! A snapshot while the server goes on handling requests: each of its statements
sees the database of another moment. -/

structure Live (ι : Type) where
  server : Server ι
  stats : StatsTable
  job : Prog (fun _ : Statement => Bool) Unit Unit

inductive LiveEvent (ι : Type) where
  | request (event : Event ι Query.Answer)
  | statement (statement : Statement) (succeeded : Bool)

def succeeds : Prog (fun _ : Statement => Bool) Unit Unit → Bool
  | .pure _ => true
  | _ => false

abbrev LiveStep (ι : Type) := Transition (Live ι) (LiveEvent ι)

section Runs

variable {ι : Type} [DecidableEq ι]

/-- A request or the snapshot takes its next step. -/
inductive Live.Next (admitted : Oracle → Prop) :
    Live ι → LiveEvent ι → Live ι → Prop
  | request {live : Live ι} {event : Event ι Query.Answer} {server : Server ι}
      (step : Pool.Next (surroundings admitted) live.server event server) :
      Next admitted live (.request event) { live with server := server }
  | statement {live : Live ι} {statement : Statement}
      {next : Bool → Prog (fun _ : Statement => Bool) Unit Unit}
      (oracle : Oracle) (waiting : live.job = .ask statement next) :
      Next admitted live
        (.statement statement
          ((statistics live.server.store).exec oracle statement live.stats).1)
        { live with
          stats :=
            ((statistics live.server.store).exec oracle statement live.stats).2
          job := next
            ((statistics live.server.store).exec oracle statement live.stats).1 }

/-- A snapshot is due while requests come in. -/
def snapshotDue (app : App) (requests : ι → Request) (db : Db)
    (stats : StatsTable) : Live ι :=
  ⟨serving app requests db, stats, snapshotBreeding⟩

abbrev LiveRun (app : App) (admitted : Oracle → Prop) (requests : ι → Request)
    (db : Db) (stats : StatsTable) (steps : List (LiveStep ι)) (final : Live ι) :
    Prop :=
  History (Live.Next admitted) (snapshotDue app requests db stats) steps final

def sources (steps : List (LiveStep ι)) : List (Live ι) :=
  steps.map Transition.source

end Runs

section Play

/-- Requests and, for `none`, the snapshot take their steps as scheduled. -/
def playLive {ι : Type} [DecidableEq ι] :
    List (Option ι × Oracle) → Live ι → List (LiveStep ι) × Live ι
  | [], live => ([], live)
  | (some thread, oracle) :: rest, live =>
      match live.server.threads thread with
      | .ask query next =>
          let step := live.server.transition (surroundings fun _ => True) oracle
            thread query next
          let target := { live with server := step.target }
          let (steps, final) := playLive rest target
          (⟨live, .request step.label, target⟩ :: steps, final)
      | _ => playLive rest live
  | (none, oracle) :: rest, live =>
      match live.job with
      | .ask statement next =>
          let (succeeded, stats) :=
            (statistics live.server.store).exec oracle statement live.stats
          let target := { live with stats := stats, job := next succeeded }
          let (steps, final) := playLive rest target
          (⟨live, .statement statement succeeded, target⟩ :: steps, final)
      | _ => playLive rest live

theorem history_playLive {ι : Type} [DecidableEq ι] {start live : Live ι}
    {schedule : List (Option ι × Oracle)} {steps : List (LiveStep ι)}
    (earlier : History (Live.Next fun _ => True) start steps live) :
    History (Live.Next fun _ => True) start
      (steps ++ (playLive schedule live).1) (playLive schedule live).2 := by
  induction schedule generalizing steps live with
  | nil => simpa [playLive] using earlier
  | cons entry rest induction =>
      obtain ⟨chosen, oracle⟩ := entry
      cases chosen with
      | some thread =>
          simp only [playLive]
          split
          · next query next waiting =>
              have step := earlier.snoc
                (.request (.ask oracle waiting trivial))
              simpa using induction step
          · exact induction earlier
      | none =>
          simp only [playLive]
          split
          · next statement next waiting =>
              have step := earlier.snoc (.statement oracle waiting)
              simpa using induction step
          · exact induction earlier

/-- `alice` levels her pair up while a snapshot is taken, after its hours and before
its points. -/
def liveRivals : List (LiveStep Bool) × Live Bool :=
  playLive
    (List.replicate 5 (none, .agreeable "alice" (period 1)) ++
      List.replicate 40 (some true, .agreeable "alice" (period 1)) ++
      List.replicate 3 (none, .agreeable "alice" (period 1)))
    (snapshotDue (liveApp .goerli) rivalLevels (breedingAfter 3) .empty)

theorem run_liveRivals :
    LiveRun (liveApp .goerli) (fun _ => True) rivalLevels (breedingAfter 3) .empty
      liveRivals.1 liveRivals.2 := by
  rw [liveRivals, ← List.nil_append (playLive _ _).1]
  exact history_playLive .nil

end Play

section Runs

variable {ι : Type} [DecidableEq ι]

/-- The columns in `done` show what their statements saw, each at its own moment,
one after the other. -/
structure Shows (moments : Column → Live ι) (done : List Column)
    (steps : List (LiveStep ι)) (stats : StatsTable) : Prop where
  inOrder : (done.map moments).Sublist (sources steps)
  acceptable : ∀ column ∈ done, Acceptable (moments column).server.store column
  shown : sheet stats = Sheet.outerJoin done
    fun column => valueOf (moments column).server.store column

namespace Shows

variable {moments : Column → Live ι} {done : List Column}
  {steps : List (LiveStep ι)} {step : LiveStep ι} {live : Live ι}
  {column : Column} {stats : StatsTable}

omit [DecidableEq ι] in
theorem later (shows : Shows moments done steps stats) :
    Shows moments done (steps ++ [step]) stats where
  inOrder := by
    rw [sources, List.map_append]
    exact shows.inOrder.trans (List.sublist_append_left _ _)
  acceptable := shows.acceptable
  shown := shows.shown

omit [DecidableEq ι] in
/-- A statement adds the column as it stands. -/
theorem statement (shows : Shows moments done steps live.stats)
    (fresh : column ∉ done) (oracle : Oracle)
    (acceptable : Acceptable live.server.store column) :
    ∃ next, snapshot column oracle live.server.store live.stats = some next ∧
      ∀ event target, Shows (Function.update moments column live)
        (done ++ [column]) (steps ++ [⟨live, event, target⟩]) next := by
  have untouched : ∀ other ∈ done,
      Function.update moments column live other = moments other :=
    fun other member =>
      Function.update_of_ne (ne_of_mem_of_not_mem member fresh) _ _
  have empty : ∀ user,
      (sheet live.stats user).bind (fun row => row column) = none := by
    rw [shows.shown]
    exact Sheet.outerJoin_absent fresh
  obtain ⟨next, ran, written⟩ :=
    @sheet_snapshot live.server.store column oracle live.stats acceptable
      fun _ => merged_of_fresh empty
  refine ⟨next, ran, fun event target => ⟨?_, ?_, ?_⟩⟩
  · rw [List.map_append, sources, List.map_append]
    refine List.Sublist.append ?_ ?_
    · rw [List.map_congr_left untouched]
      exact shows.inOrder
    · rw [List.map_singleton, List.map_singleton, Function.update_self]
  · intro other member
    rcases List.mem_append.mp member with old | new
    · rw [untouched other old]
      exact shows.acceptable other old
    · rw [List.mem_singleton.mp new, Function.update_self]
      exact acceptable
  · have seen : sheet live.stats = Sheet.outerJoin done fun other =>
        valueOf (Function.update moments column live other).server.store other := by
      rw [shows.shown]
      refine Sheet.outerJoin_congr_values fun other member => ?_
      rw [untouched other member]
    have joined : sheet next = Sheet.outerJoin (column :: done) fun other =>
        valueOf (Function.update moments column live other).server.store other := by
      rw [← Sheet.assign_outerJoin, Function.update_self, written, seen]
    rw [joined]
    exact Sheet.outerJoin_congr fun _ => (List.perm_append_singleton _ _).mem_iff.symm

end Shows

/-- How far the snapshot has come. -/
inductive Standing (steps : List (LiveStep ι)) (live : Live ι) : Prop
  | due (job : live.job = snapshotBreeding)
  | filling {moments : Column → Live ι} {done rest : List Column}
      (split : Column.all = done ++ rest) (job : live.job = snapshots rest)
      (shows : Shows moments done steps live.stats)
  | failed {moments : Column → Live ι} {done rest : List Column}
      {column : Column} {moment : Live ι}
      (split : Column.all = done ++ column :: rest) (job : live.job = .throw ())
      (shows : Shows moments done steps live.stats)
      (inOrder : (done.map moments ++ [moment]).Sublist (sources steps))
      (rejected : ¬ Acceptable moment.server.store column)

namespace Standing

variable {admitted : Oracle → Prop} {steps : List (LiveStep ι)}
  {live target : Live ι} {event : LiveEvent ι}

theorem step (standing : Standing steps live)
    (next : Live.Next admitted live event target) :
    Standing (steps ++ [⟨live, event, target⟩]) target := by
  cases next with
  | request step =>
      cases standing with
      | due job => exact .due job
      | filling split job shows => exact .filling split job shows.later
      | failed split job shows inOrder rejected =>
          refine .failed split job shows.later ?_ rejected
          rw [sources, List.map_append]
          exact inOrder.trans (List.sublist_append_left _ _)
  | @statement statement next oracle waiting =>
      cases standing with
      | due job =>
          rw [job, snapshotBreeding_eq, execute_bind] at waiting
          cases waiting
          have emptied : ∀ steps,
              Shows (fun _ => live) [] steps live.stats.truncate :=
            fun _ => ⟨List.nil_sublist _, List.forall_mem_nil _,
              (Sheet.outerJoin_nil _).symm⟩
          exact .filling rfl rfl (emptied _)
      | failed split job =>
          rw [job] at waiting
          cases waiting
      | @filling moments done rest split job shows =>
          cases rest with
          | nil =>
              rw [job] at waiting
              cases waiting
          | cons column rest =>
              rw [job, snapshots, execute_bind] at waiting
              cases waiting
              have fresh : column ∉ done := by
                have distinct := Column.nodup_all
                rw [split, List.nodup_middle, List.nodup_cons] at distinct
                exact fun member => distinct.1 (List.mem_append_left _ member)
              by_cases acceptable : Acceptable live.server.store column
              · obtain ⟨table, ran, next⟩ :=
                  shows.statement fresh oracle acceptable
                have executed : (statistics live.server.store).exec oracle
                    (.snapshot column) live.stats = (true, table) := by
                  rw [exec_snapshot, ran, Option.elim_some]
                rw [executed]
                refine .filling ?_ rfl (next _ _)
                rw [split, List.append_assoc]
                rfl
              · have executed : (statistics live.server.store).exec oracle
                    (.snapshot column) live.stats = (false, live.stats) := by
                  rw [exec_snapshot, snapshot_eq_none acceptable,
                    Option.elim_none]
                rw [executed]
                refine .failed split rfl shows.later ?_ acceptable
                rw [sources, List.map_append]
                exact shows.inOrder.append (List.Sublist.refl _)

end Standing

theorem standing_of_run {app : App} {admitted : Oracle → Prop}
    {requests : ι → Request} {db : Db} {stats : StatsTable}
    {steps : List (LiveStep ι)} {final : Live ι}
    (run : LiveRun app admitted requests db stats steps final) :
    Standing steps final := by
  induction run with
  | nil => exact .due rfl
  | snoc earlier next standing => exact standing.step next

theorem shows_of_succeeded {app : App} {admitted : Oracle → Prop}
    {requests : ι → Request} {db : Db} {stats : StatsTable}
    {steps : List (LiveStep ι)} {final : Live ι}
    (run : LiveRun app admitted requests db stats steps final)
    (succeeded : succeeds final.job = true) :
    ∃ moments, Shows moments Column.all steps final.stats := by
  cases standing_of_run run with
  | due job =>
      rw [job, snapshotBreeding_eq, execute_bind] at succeeded
      cases succeeded
  | @filling moments done rest split job shows =>
      cases rest with
      | nil =>
          rw [List.append_nil] at split
          exact ⟨moments, split ▸ shows⟩
      | cons column rest =>
          rw [job, snapshots, execute_bind] at succeeded
          cases succeeded
  | failed split job =>
      rw [job] at succeeded
      cases succeeded

/-- The columns that are filled in show the answers of their statements, each at a
moment of its own, in order: all of them, or those before the first statement that
could not be stored. -/
def Assembled (steps : List (LiveStep ι)) (final : Live ι) : Prop :=
  ∃ moments done, Shows moments done steps final.stats ∧
    (succeeds final.job = true ∧ done = Column.all ∨
      succeeds final.job = false ∧ ∃ column rest moment,
        Column.all = done ++ column :: rest ∧
        (done.map moments ++ [moment]).Sublist (sources steps) ∧
        ¬ Acceptable moment.server.store column)

/-- However the requests and the snapshot are interleaved, a snapshot that has ended
is assembled from moments of the run. -/
theorem assembled_of_run {app : App} {admitted : Oracle → Prop}
    {requests : ι → Request} {db : Db} {stats : StatsTable}
    {steps : List (LiveStep ι)} {final : Live ι}
    (run : LiveRun app admitted requests db stats steps final)
    (finished : ended final.job = true) : Assembled steps final := by
  cases standing_of_run run with
  | due job =>
      rw [job, snapshotBreeding_eq, execute_bind] at finished
      cases finished
  | @filling moments done rest split job shows =>
      cases rest with
      | nil =>
          rw [List.append_nil] at split
          refine ⟨moments, done, shows, .inl ⟨?_, split.symm⟩⟩
          rw [job]
          rfl
      | cons column rest =>
          rw [job, snapshots, execute_bind] at finished
          cases finished
  | @failed moments done rest column moment split job shows inOrder rejected =>
      refine ⟨moments, done, shows, .inr
        ⟨?_, column, rest, moment, split, inOrder, rejected⟩⟩
      rw [job]
      rfl

/-- The hours are those of one level and the points those of two, which were never
stored together. -/
theorem assembled_of_run_rivals :
    shown liveRivals.2.stats .totalHours "alice" = 48 ∧
      shown liveRivals.2.stats .bpForBreeding "alice" = 30 ∧
      Assembled liveRivals.1 liveRivals.2 := by
  have seen : shown liveRivals.2.stats .totalHours "alice" = 48 ∧
      shown liveRivals.2.stats .bpForBreeding "alice" = 30 ∧
      ended liveRivals.2.job = true := by
    rw [liveRivals, breedingAfter_succ 2]
    decide +kernel
  exact ⟨seen.1, seen.2.1, assembled_of_run run_liveRivals seen.2.2⟩

end Runs

section Growth

variable {db after : Db} {user : Address}

/-- The columns whose aggregates only ever grow. -/
def growing : List Column :=
  [.totalHours, .bpForBreeding, .bpForLandUpgrade, .burnedBuds]

theorem getD_perAddress_sum {α : Type} {rows : List α} {address : α → Address}
    {weight : α → Rat} :
    (perAddress address (fun group => (group.map weight).sum) rows user).getD 0 =
      ((rows.filter fun row => address row = user).map weight).sum := by
  unfold perAddress
  split
  · rfl
  · next absent =>
      have empty : (rows.filter fun row => address row = user) = [] := by
        rw [List.filter_eq_nil_iff]
        intro row member same
        exact absent (List.mem_map.mpr ⟨row, member, of_decide_eq_true same⟩)
      rw [empty]
      rfl

/-- What is summed up for a user grows with the rows. -/
theorem perAddress_le {α : Type} {related : α → α → Prop} {before later : List α}
    {key : α → Int} {address : α → Address} {weight : α → Rat}
    (persists : Persists related before later)
    (distinct : (before.map key).Nodup)
    (keyed : ∀ {row next}, related row next → key next = key row)
    (same : ∀ {row next}, related row next → address next = address row)
    (grows : ∀ {row next}, related row next → weight row ≤ weight next)
    (nonneg : ∀ row ∈ later, 0 ≤ weight row) :
    (perAddress address (fun group => (group.map weight).sum) before user).getD 0 ≤
      (perAddress address (fun group => (group.map weight).sum) later
        user).getD 0 := by
  rw [getD_perAddress_sum, getD_perAddress_sum]
  refine (persists.filter fun change mine => ?_).sum_le
    (List.Nodup.sublist (List.filter_sublist.map key) distinct) keyed grows ?_
  · rw [same change]
    exact mine
  · exact fun row member => nonneg row (List.mem_of_mem_filter member)

theorem length_mul {α : Type} (rows : List α) (factor : Rat) :
    rows.length * factor = (rows.map fun _ => factor).sum := by
  simp

theorem hoursPerLevel_nonneg (pair : BreedPair) : 0 ≤ hoursPerLevel pair := by
  unfold hoursPerLevel
  split <;> decide

theorem itemRate_nonneg (pair : BreedPair) : 0 ≤ itemRate pair := by
  unfold itemRate
  split
  · norm_num
  · split <;> norm_num

theorem hours_le {pair later : BreedPair} (change : PairLater pair later) :
    (pair.currentLevel * hoursPerLevel pair * itemRate pair : Rat) ≤
      later.currentLevel * hoursPerLevel later * itemRate later := by
  have hours : hoursPerLevel later = hoursPerLevel pair := by
    rw [change.kept]
    rfl
  have rate : itemRate later = itemRate pair := by
    rw [change.kept]
    rfl
  rw [hours, rate]
  have counter : (pair.currentLevel : Rat) ≤ later.currentLevel :=
    Int.cast_le.mpr change.climbing
  have perLevel : (0 : Rat) ≤ hoursPerLevel pair :=
    Int.cast_nonneg (hoursPerLevel_nonneg pair)
  exact mul_le_mul_of_nonneg_right
    (mul_le_mul_of_nonneg_right counter perLevel) (itemRate_nonneg pair)

/-- While the tables evolve, what these columns aggregate grows. -/
theorem aggregate_le (evolved : Evolves db after)
    (counted : ∀ pair ∈ after.breedPair.rows, 0 ≤ pair.currentLevel)
    {column : Column} (grows : column ∈ growing) :
    (aggregate db column user).getD 0 ≤ (aggregate after column user).getD 0 := by
  have counted : ∀ pair ∈ after.breedPair.rows,
      (0 : Rat) ≤ pair.currentLevel := fun pair listed =>
    Int.cast_nonneg (counted pair listed)
  cases column with
  | totalHours =>
      refine perAddress_le evolved.breedPair db.breedPair.nodup PairLater.id
        PairLater.userAddress hours_le fun pair listed => ?_
      exact mul_nonneg (mul_nonneg (counted pair listed)
        (Int.cast_nonneg (hoursPerLevel_nonneg pair))) (itemRate_nonneg pair)
  | bpForBreeding =>
      refine perAddress_le evolved.breedPair db.breedPair.nodup PairLater.id
        PairLater.userAddress (fun change => ?_) fun pair listed => ?_
      · exact mul_le_mul_of_nonneg_right (Int.cast_le.mpr change.climbing)
          (by norm_num)
      · exact mul_nonneg (counted pair listed) (by norm_num)
  | bpForLandUpgrade =>
      simp only [aggregate, length_mul]
      refine perAddress_le (evolved.breedSlot.filter ?_)
        (List.Nodup.sublist (List.filter_sublist.map BreedSlot.id)
          db.breedSlot.nodup) SlotLater.id SlotLater.userAddress
        (fun _ => le_rfl) fun _ _ => by norm_num
      intro slot later change indoor
      exact decide_eq_true (change.indoor (of_decide_eq_true indoor))
  | burnedBuds =>
      simp only [aggregate, length_mul]
      have kept : Persists Eq db.eventServiceLog.rows
          after.eventServiceLog.rows :=
        .of_subset (fun _ => rfl) evolved.eventServiceLog
      refine perAddress_le (kept.filter fun same burn => same ▸ burn)
        (List.Nodup.sublist (List.filter_sublist.map EventServiceLog.id)
          db.eventServiceLog.nodup) (fun same => by rw [same])
        (fun same => by rw [same]) (fun _ => le_rfl) fun _ _ => by norm_num
  | _ => simp [growing] at grows

theorem addresses_subset (evolved : Evolves db after) :
    addresses db ⊆ addresses after := by
  intro user occurs
  rw [addresses, List.mem_append, List.mem_append] at occurs ⊢
  rcases occurs with inPairs | inSlots | inLogs
  · obtain ⟨pair, listed, rfl⟩ := List.mem_map.mp inPairs
    obtain ⟨later, present, change⟩ := evolved.breedPair pair listed
    exact .inl (List.mem_map.mpr ⟨later, present, change.userAddress⟩)
  · obtain ⟨slot, selected, rfl⟩ := List.mem_map.mp inSlots
    obtain ⟨listed, indoor⟩ := List.mem_filter.mp selected
    obtain ⟨later, present, change⟩ := evolved.breedSlot slot listed
    refine .inr (.inl (List.mem_map.mpr ⟨later, ?_, change.userAddress⟩))
    exact List.mem_filter.mpr
      ⟨present, decide_eq_true (change.indoor (of_decide_eq_true indoor))⟩
  · obtain ⟨log, selected, rfl⟩ := List.mem_map.mp inLogs
    obtain ⟨listed, burn⟩ := List.mem_filter.mp selected
    exact .inr (.inr (List.mem_map.mpr
      ⟨log, List.mem_filter.mpr ⟨evolved.eventServiceLog listed, burn⟩, rfl⟩))

theorem roundNumeric_mono {value other : Rat} (order : value ≤ other) :
    roundNumeric value ≤ roundNumeric other := by
  have negative : ∀ value : Rat, value < 0 → (0 : Int) ≤ ⌊-value + 1 / 2⌋ :=
    fun value below => Int.floor_nonneg.mpr (by linarith)
  have positive : ∀ value : Rat, 0 ≤ value → (0 : Int) ≤ ⌊value + 1 / 2⌋ :=
    fun value above => Int.floor_nonneg.mpr (by linarith)
  unfold roundNumeric
  split
  · next below =>
      split
      · have floors : ⌊-other + 1 / 2⌋ ≤ ⌊-value + 1 / 2⌋ :=
          Int.floor_le_floor (by linarith)
        exact neg_le_neg floors
      · next above =>
          exact (neg_nonpos.mpr (negative value below)).trans
            (positive other (not_lt.mp above))
  · next above =>
      rw [if_neg (not_lt.mpr ((not_lt.mp above).trans order))]
      have floors : ⌊value + 1 / 2⌋ ≤ ⌊other + 1 / 2⌋ :=
        Int.floor_le_floor (by linarith)
      exact floors

theorem getD_stored (db : Db) (column : Column) (user : Address) :
    (stored db column user).getD 0 =
      roundNumeric ((aggregate db column user).getD 0) := by
  have zero : roundNumeric 0 = 0 := roundNumeric_intCast 0
  rw [stored]
  cases aggregate db column user with
  | none => exact zero.symm
  | some total => rfl

end Growth

section Bounds

variable {ι : Type} [DecidableEq ι] {app : App} {admitted : Oracle → Prop}
  {requests : ι → Request} {db : Db} {stats : StatsTable}
  {steps : List (LiveStep ι)} {final : Live ι}

/-- The requests do not notice the snapshot. -/
theorem interleaving_of_run
    (run : LiveRun app admitted requests db stats steps final) :
    ∃ served, Interleaving app admitted requests db served final.server ∧
      ∀ live ∈ states (snapshotDue app requests db stats) steps,
        live.server ∈ states (serving app requests db) served := by
  induction run with
  | nil =>
      refine ⟨[], .nil, fun live member => ?_⟩
      rw [List.mem_singleton.mp member]
      exact List.mem_singleton_self _
  | @snoc steps live target event earlier next induction =>
      obtain ⟨served, interleaving, before⟩ := induction
      cases next with
      | request step =>
          refine ⟨_, interleaving.snoc step, fun state member => ?_⟩
          rw [states_snoc] at member ⊢
          rcases List.mem_append.mp member with old | new
          · exact List.mem_append_left _ (before state old)
          · rw [List.mem_singleton.mp new]
            exact List.mem_append_right _ List.mem_cons_self
      | statement oracle waiting =>
          refine ⟨served, interleaving, fun state member => ?_⟩
          rw [states_snoc] at member
          rcases List.mem_append.mp member with old | new
          · exact before state old
          · rw [List.mem_singleton.mp new]
            exact interleaving.final_mem_states

theorem evolves_of_run (rested : Rested app admitted db)
    (run : LiveRun app admitted requests db stats steps final) {live : Live ι}
    (member : live ∈ states (snapshotDue app requests db stats) steps) :
    Evolves db live.server.store ∧ Evolves live.server.store final.server.store ∧
      ∀ pair ∈ live.server.store.breedPair.rows, 0 ≤ pair.currentLevel := by
  obtain ⟨served, interleaving, within⟩ := interleaving_of_run run
  obtain ⟨earlier, reached⟩ :=
    interleaving.exists_of_mem_states (within live member)
  obtain ⟨keeping, -⟩ := keeping_of_interleaving rested reached
  refine ⟨?_, ?_, fun pair listed => ?_⟩
  · exact evolved_of_interleaving rested reached _ List.mem_cons_self
  · exact evolved_of_interleaving rested interleaving _ (within live member)
  · exact (keeping.climbing.bounded _ _ ⟨pair, listed, rfl, rfl⟩).1

/-- Each column shows a user's total at a moment of the run. -/
theorem shown_of_live (rested : Rested app admitted db)
    (run : LiveRun app admitted requests db stats steps final)
    (succeeded : succeeds final.job = true)
    (short : ∀ user ∈ addresses final.server.store, user.length ≤ 42)
    (column : Column) (user : Address) :
    ∃ live ∈ states (snapshotDue app requests db stats) steps,
      shown final.stats column user =
        roundNumeric ((aggregate live.server.store column user).getD 0) := by
  obtain ⟨moments, shows⟩ := shows_of_succeeded run succeeded
  have member : moments column ∈ states (snapshotDue app requests db stats) steps := by
    have listed := shows.inOrder.subset (List.mem_map_of_mem column.mem_all)
    obtain ⟨step, taken, source⟩ := List.mem_map.mp listed
    rw [← source]
    exact (run.source_mem_states taken).1
  obtain ⟨-, onward, -⟩ := evolves_of_run rested run member
  refine ⟨moments column, member, ?_⟩
  rw [shown, shows.shown, Sheet.bind_outerJoin column.mem_all,
    valueOf_of_acceptable (fun user occurs => ?_)
      (shows.acceptable column column.mem_all), getD_stored]
  exact short user (addresses_subset onward (mem_addresses.mpr ⟨column, occurs⟩))

/-- While requests are handled, the points spent, the hours, the indoor slots and
the burnt buds that a snapshot shows lie between those before it and after it. -/
theorem shown_between (rested : Rested app admitted db)
    (run : LiveRun app admitted requests db stats steps final)
    (succeeded : succeeds final.job = true)
    (short : ∀ user ∈ addresses final.server.store, user.length ≤ 42)
    {column : Column} (grows : column ∈ growing) (user : Address) :
    roundNumeric ((aggregate db column user).getD 0) ≤
        shown final.stats column user ∧
      shown final.stats column user ≤
        roundNumeric ((aggregate final.server.store column user).getD 0) := by
  obtain ⟨live, member, value⟩ :=
    shown_of_live rested run succeeded short column user
  obtain ⟨since, onward, counted⟩ := evolves_of_run rested run member
  obtain ⟨-, -, countedLast⟩ := evolves_of_run rested run run.final_mem_states
  rw [value]
  exact ⟨roundNumeric_mono (aggregate_le since counted grows),
    roundNumeric_mono (aggregate_le onward countedLast grows)⟩

theorem shown_between_rivals :
    shown liveRivals.2.stats .bpForBreeding "alice" = 30 ∧
      roundNumeric
          ((aggregate (breedingAfter 3) .bpForBreeding "alice").getD 0) ≤ 30 ∧
      30 ≤ roundNumeric ((aggregate liveRivals.2.server.store .bpForBreeding
        "alice").getD 0) := by
  have seen : shown liveRivals.2.stats .bpForBreeding "alice" = 30 ∧
      succeeds liveRivals.2.job = true ∧
      ∀ user ∈ addresses liveRivals.2.server.store, user.length ≤ 42 := by
    rw [liveRivals, breedingAfter_succ 2]
    decide +kernel
  obtain ⟨value, succeeded, short⟩ := seen
  have between := shown_between (rested_breedingAfter 3) run_liveRivals succeeded
    short (by decide : Column.bpForBreeding ∈ growing) "alice"
  rw [value] at between
  exact ⟨value, between⟩

end Bounds

end BudBreeding.Statistics
