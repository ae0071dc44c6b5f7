import BudBreeding.Statistics.Live
import BudBreeding.Statistics.Pages

namespace BudBreeding.Statistics

open Data Program Backend
open Concurrency (Rested rivalLevels rested_breedingAfter)

/-! The statistics of one user, as `stats.controller.ts` serves them by address, next
to the pages of all users. -/

/-- A ranked row without its timestamps. -/
structure StatsData where
  id : Int
  address : Address
  totalSuccess : Option Int
  totalFailure : Option Int
  totalCancels : Option Int
  totalHours : Option Int
  bpForBreeding : Option Int
  bpForLandUpgrade : Option Int
  burnedBuds : Option Int
  score : Rat
  rank : Nat
  deriving DecidableEq, Repr

structure StatsResponse (α : Type) where
  success : Bool
  data : α
  deriving DecidableEq, Repr

def withoutTimestamps (stats : RankedStats) : StatsData where
  id := stats.id
  address := stats.address
  totalSuccess := stats.totalSuccess
  totalFailure := stats.totalFailure
  totalCancels := stats.totalCancels
  totalHours := stats.totalHours
  bpForBreeding := stats.bpForBreeding
  bpForLandUpgrade := stats.bpForLandUpgrade
  burnedBuds := stats.burnedBuds
  score := stats.score
  rank := stats.rank

def StatsData.get (data : StatsData) : Column → Option Int
  | .totalSuccess => data.totalSuccess
  | .totalFailure => data.totalFailure
  | .totalCancels => data.totalCancels
  | .totalHours => data.totalHours
  | .bpForBreeding => data.bpForBreeding
  | .bpForLandUpgrade => data.bpForLandUpgrade
  | .burnedBuds => data.burnedBuds

def queryStatsByAddress (table : StatsTable) (address : Address) :
    Option (Option RankedStats) :=
  (ranked table.rows).map fun rows =>
    -- A row whose address is empty counts as none.
    (rows.filter fun row => row.address = address)[0]?.filter fun stats =>
      stats.address ≠ ""

/-- A statement that fails and a missing record are answered alike. -/
def StatsController.getUserStatsByAddress (isAddress : Address → Bool)
    (table : StatsTable) (address : Address) :
    Except Failure (StatsResponse (Option StatsData)) :=
  if isAddress address then
    match queryStatsByAddress table address with
    | some (some stats) => .ok ⟨true, some (withoutTimestamps stats)⟩
    | _ => .ok ⟨false, none⟩
  else
    .error (.http ⟨400, "Bad Request", "address is not a valid Ethereum address"⟩)

def StatsController.getUserStats (ties : LinearOrder Int) (table : StatsTable)
    (query : QueryStatsDto) : StatsResponse (List StatsData) :=
  let limit := query.limit.filter fun limit => limit ≠ 0
  let cursor := query.cursor.filter fun cursor => cursor ≠ 0
  match queryStats ties table { limit, cursor } with
  | some stats => ⟨true, stats.map withoutTimestamps⟩
  | none => ⟨false, []⟩

section Lookups

variable {isAddress : Address → Bool} {table : StatsTable} {address : Address}

theorem get_withoutTimestamps (stats : RankedStats) (column : Column) :
    (withoutTimestamps stats).get column = stats.get column := by
  cases column <;> rfl

theorem queryStatsByAddress_eq (scorable : Scorable table) {row : Stats}
    (listed : row ∈ table.rows) (named : row.address ≠ "") :
    queryStatsByAddress table row.address =
      some (some (rankedRow table.rows row)) := by
  have chosen : ((table.rows.map (rankedRow table.rows)).filter fun other =>
      other.address = row.address) = [rankedRow table.rows row] := by
    rw [List.filter_map]
    exact congrArg (List.map (rankedRow table.rows)) (table.byKey.filter_key listed)
  rw [queryStatsByAddress, ranked_of_scorable scorable, Option.map_some, chosen]
  exact congrArg some (Option.filter_some_pos (decide_eq_true named))

/-- Whoever is found has a row, with its rank among all rows. -/
theorem row_of_getUserStatsByAddress {found : StatsData}
    (looked : StatsController.getUserStatsByAddress isAddress table address =
      .ok ⟨true, some found⟩) :
    ∃ row, table.lookup address = some row ∧
      found = withoutTimestamps (rankedRow table.rows row) := by
  unfold StatsController.getUserStatsByAddress at looked
  split at looked
  · split at looked
    · next stats queried =>
        cases looked
        obtain ⟨rows, computed, chosen⟩ := Option.map_eq_some_iff.mp queried
        have scorable := scorable_of_ranked computed
        rw [ranked_of_scorable scorable] at computed
        cases computed
        have selected := List.mem_of_getElem? (Option.filter_eq_some_iff.mp chosen).1
        obtain ⟨listed, named⟩ := List.mem_filter.mp selected
        obtain ⟨row, present, rfl⟩ := List.mem_map.mp listed
        have looked : table.lookup address = some row :=
          Unique.lookup_eq_some.mpr ⟨present, of_decide_eq_true named⟩
        exact ⟨row, looked, rfl⟩
    · cases looked
  · cases looked

/-- A row of a page is what a search for its address finds. -/
theorem getUserStatsByAddress_of_page {ties : LinearOrder Int}
    {query : QueryStatsDto} (blank : isAddress "" = false) :
    ∀ row ∈ (StatsController.getUserStats ties table query).data,
      isAddress row.address = true →
        StatsController.getUserStatsByAddress isAddress table row.address =
          .ok ⟨true, some row⟩ := by
  intro data member valid
  dsimp only [StatsController.getUserStats] at member
  split at member
  · next stats answered =>
      obtain ⟨shown, selected, rfl⟩ := List.mem_map.mp member
      obtain ⟨rows, computed, -⟩ := Option.bind_eq_some_iff.mp answered
      have scorable := scorable_of_ranked computed
      obtain ⟨row, present, rfl⟩ := List.mem_map.mp
        (mem_of_queryStats scorable answered shown selected)
      have named : row.address ≠ "" := by
        intro empty
        change isAddress row.address = true at valid
        rw [empty, blank] at valid
        cases valid
      rw [StatsController.getUserStatsByAddress, if_pos valid]
      change (match queryStatsByAddress table row.address with
        | some (some stats) => _
        | _ => _) = _
      rw [queryStatsByAddress_eq scorable present named]
  · exact absurd member List.not_mem_nil

end Lookups

section Runs

variable {ι : Type} [DecidableEq ι] {app : App} {admitted : Oracle → Prop}
  {requests : ι → Request} {db : Db} {stats : StatsTable}
  {steps : List (LiveStep ι)} {final : Live ι}

/-- Once a snapshot has succeeded, a search shows a user's totals, each at a moment of
the run, and every row of every page is what a search for its address shows. -/
theorem stats_served (rested : Rested app admitted db)
    (run : LiveRun app admitted requests db stats steps final)
    (succeeded : succeeds final.job = true)
    (short : ∀ user ∈ addresses final.server.store, user.length ≤ 42)
    (isAddress : Address → Bool) (blank : isAddress "" = false) :
    (∀ (address : Address) (found : StatsData),
      StatsController.getUserStatsByAddress isAddress final.stats address =
          .ok ⟨true, some found⟩ →
        found.address = address ∧ ∀ column,
          ∃ live ∈ states (snapshotDue app requests db stats) steps,
            (found.get column).getD 0 =
              roundNumeric ((aggregate live.server.store column address).getD 0)) ∧
      ∀ (ties : LinearOrder Int) (query : QueryStatsDto),
        ∀ row ∈ (StatsController.getUserStats ties final.stats query).data,
          isAddress row.address = true →
            StatsController.getUserStatsByAddress isAddress final.stats
              row.address = .ok ⟨true, some row⟩ := by
  constructor
  · intro address found looked
    obtain ⟨row, present, rfl⟩ := row_of_getUserStatsByAddress looked
    refine ⟨(Unique.lookup_eq_some.mp present).2, fun column => ?_⟩
    obtain ⟨live, member, value⟩ :=
      shown_of_live rested run succeeded short column address
    refine ⟨live, member, ?_⟩
    rw [get_withoutTimestamps, ← value, shown, sheet_apply, present]
    rfl
  · intro ties query
    exact getUserStatsByAddress_of_page blank

/-- After a snapshot that was taken while she levelled her pair up, `alice` is found. -/
theorem stats_served_rivals :
    ∃ found, StatsController.getUserStatsByAddress (fun address => address ≠ "")
        liveRivals.2.stats "alice" = .ok ⟨true, some found⟩ ∧
      found.rank = 1 ∧ ∃ live ∈ states (snapshotDue (liveApp .goerli) rivalLevels
        (breedingAfter 3) .empty) liveRivals.1,
        (found.get .bpForBreeding).getD 0 = roundNumeric
          ((aggregate live.server.store .bpForBreeding "alice").getD 0) := by
  have seen : succeeds liveRivals.2.job = true ∧
      (∀ user ∈ addresses liveRivals.2.server.store, user.length ≤ 42) ∧
      Scorable liveRivals.2.stats ∧
      ∃ row ∈ liveRivals.2.stats.rows, row.address = "alice" ∧
        (rankedRow liveRivals.2.stats.rows row).rank = 1 := by
    rw [liveRivals, breedingAfter_succ 2]
    decide +kernel
  obtain ⟨succeeded, short, scorable, row, listed, named, first⟩ := seen
  have looked : StatsController.getUserStatsByAddress (fun address => address ≠ "")
      liveRivals.2.stats "alice" = .ok ⟨true, some (withoutTimestamps
        (rankedRow liveRivals.2.stats.rows row))⟩ := by
    have queried := queryStatsByAddress_eq scorable listed (by simp [named])
    rw [named] at queried
    rw [StatsController.getUserStatsByAddress, if_pos (by decide), queried]
  refine ⟨_, looked, first, ?_⟩
  exact ((stats_served (rested_breedingAfter 3) run_liveRivals succeeded short
    (fun address => address ≠ "") (by decide)).1 _ _ looked).2 .bpForBreeding

end Runs

end BudBreeding.Statistics
