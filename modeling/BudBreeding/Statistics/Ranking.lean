import Mathlib.Algebra.Order.Ring.Rat
import BudBreeding.Data.Sorting
import BudBreeding.Statistics.Schema

namespace BudBreeding.Statistics

open Data Backend

/-! `queryStats` of `stats.service.ts`. -/

structure ScoredStats extends Stats where
  score : Rat
  deriving DecidableEq, Repr

structure RankedStats extends ScoredStats where
  rank : Nat
  deriving DecidableEq, Repr

structure QueryStatsDto where
  limit : Option Int
  cursor : Option Int

def getStatsScoreQuery (row : Stats) : Option Rat :=
  -- `"totalSuccess" * 15` is of type `INTEGER`, every other product is `NUMERIC`.
  (integer (row.totalSuccess.getD 0 * 15)).map fun successes : Int =>
    successes +
    row.totalHours.getD 0 * 0.01 -
    row.totalFailure.getD 0 * 0.05 +
    row.bpForBreeding.getD 0 * 0.01 +
    row.bpForLandUpgrade.getD 0 * 0.02 -
    row.totalCancels.getD 0 * 1.25 +
    row.burnedBuds.getD 0 * 1.1

/-- `with_score`. -/
def withScore (rows : List Stats) : Option (List ScoredStats) :=
  rows.mapM fun row =>
    (getStatsScoreQuery row).map fun score => { toStats := row, score := score }

/-- `RANK() OVER(ORDER BY "score" DESC)`. -/
def withRank (rows : List ScoredStats) : List RankedStats :=
  rows.map fun row =>
    { toScoredStats := row
      rank := rows.countP (fun other => row.score < other.score) + 1 }

def ranked (rows : List Stats) : Option (List RankedStats) :=
  (withScore rows).map withRank

/-- `ORDER BY "score" DESC`; rows of equal score come in an order the database has
for their ids. -/
def orderByScore (ties : LinearOrder Int) (rows : List RankedStats) :
    List RankedStats :=
  listed ties (fun row => row.score) (fun row => row.id) rows

def takeOf (limit : Option Int) : Int :=
  match limit with
  | none => 100
  | some limit => if limit = 0 then 100 else if limit > 100 then 100 else limit

/-- `LIMIT take OFFSET offset`; a negative limit fails the statement. -/
def limitOffset (take : Int) (offset : Nat) (rows : List RankedStats) :
    Option (List RankedStats) :=
  if take < 0 then none else some ((rows.drop offset).take take.toNat)

def queryStats (ties : LinearOrder Int) (table : StatsTable)
    (query : QueryStatsDto) : Option (List RankedStats) := do
  let take := takeOf query.limit
  let rows ← ranked table.rows
  match query.cursor.filter (fun cursor => cursor ≠ 0) with
  | none => limitOffset take 0 (orderByScore ties rows)
  | some cursor =>
      let compared := rows.filter fun row => row.id = cursor
      let selected := compared.flatMap fun compared =>
        rows.filter fun row => row.score ≤ compared.score
      limitOffset take 1 (orderByScore ties selected)

end BudBreeding.Statistics
