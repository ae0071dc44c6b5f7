import BudBreeding.Statistics.Ranking

namespace BudBreeding.Statistics

open Data Backend

/-! The pages of `queryStats`, asked for one after the other. -/

def points (row : Stats) : Rat := (getStatsScoreQuery row).getD 0

/-- No score leaves the range of its type. -/
def Scorable (table : StatsTable) : Prop :=
  ∀ row ∈ table.rows, (getStatsScoreQuery row).isSome

instance (table : StatsTable) : Decidable (Scorable table) :=
  inferInstanceAs (Decidable (∀ row ∈ table.rows, (getStatsScoreQuery row).isSome))

def standings (ties : LinearOrder Int) (table : StatsTable) : List Stats :=
  listed ties points Stats.id table.rows

def scoredRow (row : Stats) : ScoredStats where
  toStats := row
  score := points row

def rankedRow (rows : List Stats) (row : Stats) : RankedStats where
  toScoredStats := scoredRow row
  rank := rows.countP (fun other => points row < points other) + 1

section Pages

variable {ties : LinearOrder Int} {table : StatsTable} {limit : Int}

theorem ranked_of_scorable (scorable : Scorable table) :
    ranked table.rows = some (table.rows.map (rankedRow table.rows)) := by
  have scores : withScore table.rows = some (table.rows.map scoredRow) := by
    apply mapM_eq_some_map
    intro row member
    obtain ⟨score, computed⟩ := Option.isSome_iff_exists.mp (scorable row member)
    rw [scoredRow, points, computed]
    rfl
  rw [ranked, scores, Option.map_some, withRank, List.map_map]
  congr 1
  apply List.map_congr_left
  intro row _
  rw [Function.comp_apply, rankedRow, List.countP_map]
  rfl

theorem scorable_of_ranked {rows : List RankedStats}
    (computed : ranked table.rows = some rows) : Scorable table := by
  obtain ⟨scored, scores, -⟩ := Option.map_eq_some_iff.mp computed
  intro row member
  have each := isSome_of_mapM scores row member
  rw [Option.isSome_map] at each
  exact each

theorem orderByScore_rankedRow (ties : LinearOrder Int) (table : StatsTable) :
    orderByScore ties (table.rows.map (rankedRow table.rows)) =
      (standings ties table).map (rankedRow table.rows) := listed_map

theorem toStats_rankedRow (all rows : List Stats) :
    ((rows.map (rankedRow all)).map fun row => row.toStats) = rows := by
  rw [List.map_map]
  exact List.map_id rows

theorem endsApart_rankedRow {all rows : List Stats} {size : Nat} :
    EndsApart (fun row => row.score) size (rows.map (rankedRow all)) ↔
      EndsApart points size rows := by
  apply endsApart_map

def pageSize (limit : Int) : Nat := (min limit 100).toNat

theorem takeOf_limit (positive : 1 ≤ limit) :
    takeOf (some limit) = pageSize limit ∧ 0 < pageSize limit := by
  simp only [pageSize, takeOf]
  omega

theorem limitOffset_limit (positive : 1 ≤ limit) (offset : Nat)
    (rows : List RankedStats) :
    limitOffset (takeOf (some limit)) offset rows =
      some ((rows.drop offset).take (pageSize limit)) := by
  rw [(takeOf_limit positive).1, limitOffset,
    if_neg (Int.not_lt.mpr (Int.natCast_nonneg _)), Int.toNat_natCast]

/-- What a client is shown with `cursor`. -/
def page (ties : LinearOrder Int) (table : StatsTable) (limit : Int)
    (cursor : Option Int) : Option (List RankedStats) :=
  queryStats ties table ⟨some limit, cursor⟩

theorem page_first (scorable : Scorable table) (positive : 1 ≤ limit) :
    page ties table limit none =
      some (((standings ties table).map (rankedRow table.rows)).take
        (pageSize limit)) := by
  rw [page, queryStats, ranked_of_scorable scorable]
  change limitOffset _ 0 _ = _
  rw [limitOffset_limit positive, orderByScore_rankedRow, List.drop_zero]

theorem nodup_rankedRow (table : StatsTable) :
    ((table.rows.map (rankedRow table.rows)).map fun row => row.id).Nodup := by
  rw [List.map_map]
  exact table.nodup

theorem page_next (scorable : Scorable table) (positive : 1 ≤ limit)
    {row : RankedStats}
    (member : row ∈ (standings ties table).map (rankedRow table.rows)) :
    page ties table limit (some row.id) =
      some ((upFrom (fun other => other.score)
        ((standings ties table).map (rankedRow table.rows)) row).take
          (pageSize limit)) := by
  obtain ⟨stats, standing, rfl⟩ := List.mem_map.mp member
  have present : stats ∈ table.rows := (listed_perm table.rows).mem_iff.mp standing
  have nonzero : stats.id ≠ 0 := (table.positive stats present).ne'
  have truthy : (some (rankedRow table.rows stats).id).filter
      (fun cursor => cursor ≠ 0) = some stats.id :=
    Option.filter_some_pos (decide_eq_true nonzero)
  have compared : ((table.rows.map (rankedRow table.rows)).filter
      fun other => other.id = stats.id) = [rankedRow table.rows stats] :=
    Table.filter_key ⟨table.rows.map (rankedRow table.rows), nodup_rankedRow table⟩
      (List.mem_map_of_mem present)
  rw [page, queryStats, ranked_of_scorable scorable, truthy]
  change limitOffset _ 1 (orderByScore ties (List.flatMap _ (List.filter _ _))) = _
  rw [compared, List.flatMap_singleton, limitOffset_limit positive, orderByScore,
    listed_filter (nodup_rankedRow table), ← orderByScore, orderByScore_rankedRow]
  rfl

theorem serves (ties : LinearOrder Int) (scorable : Scorable table)
    (positive : 1 ≤ limit) :
    Serves (page ties table limit) (fun row => row.id) (fun row => row.score)
      (pageSize limit) ((standings ties table).map (rankedRow table.rows)) where
  positive := (takeOf_limit positive).2
  sorted := by
    rw [← orderByScore_rankedRow]
    exact listed_descending _
  distinct := by
    apply List.Nodup.of_map (fun row => row.id)
    rw [← orderByScore_rankedRow]
    exact ((listed_perm _).map _).nodup_iff.mpr (nodup_rankedRow table)
  first := page_first scorable positive
  next := by
    intro row member
    exact page_next scorable positive member

theorem mem_of_queryStats (scorable : Scorable table) {query : QueryStatsDto}
    {rows : List RankedStats} (answered : queryStats ties table query = some rows) :
    ∀ row ∈ rows, row ∈ table.rows.map (rankedRow table.rows) := by
  intro row member
  have bounded {offset : Nat} {selected : List RankedStats}
      (limited : limitOffset (takeOf query.limit) offset
        (orderByScore ties selected) = some rows) : row ∈ selected := by
    unfold limitOffset at limited
    split at limited
    · cases limited
    · cases limited
      have shown := List.mem_of_mem_drop (List.mem_of_mem_take member)
      exact (listed_perm selected).mem_iff.mp shown
  rw [queryStats, ranked_of_scorable scorable, Option.bind_eq_bind,
    Option.bind_some] at answered
  split at answered
  · exact bounded answered
  · obtain ⟨compared, -, selected⟩ := List.mem_flatMap.mp (bounded answered)
    exact (List.mem_filter.mp selected).1

theorem perm_of_shown (scorable : Scorable table) {total : List RankedStats}
    (traverses : Traverses (page ties table limit) (fun row => row.id) none total)
    (shown : (total.map fun row => row.toStats).Perm table.rows) :
    total.Perm ((standings ties table).map (rankedRow table.rows)) := by
  have each := traverses.forall_mem fun cursor rows answered =>
    mem_of_queryStats scorable answered
  have restored : (total.map fun row => row.toStats).map (rankedRow table.rows) =
      total := by
    rw [List.map_map]
    apply (List.map_congr_left _).trans (List.map_id total)
    intro row member
    obtain ⟨stats, -, rfl⟩ := List.mem_map.mp (each row member)
    rfl
  rw [← restored]
  apply List.Perm.map
  exact shown.trans (listed_perm table.rows).symm

/-- The pages of a limit show every row of the table once, and the rows by descending
score, just when every score can be computed and no page but the last, nor the last
row, ends between rows of one score. -/
theorem pages_enumerate_iff (ties : LinearOrder Int) (table : StatsTable)
    (limit : Int) (positive : 1 ≤ limit) :
    (∃ total, Traverses (page ties table limit) (fun row => row.id) none total ∧
        (total.map fun row => row.toStats).Perm table.rows ∧
        Descending (fun row => row.score) total) ↔
      Scorable table ∧ EndsApart points (pageSize limit) (standings ties table) := by
  constructor
  · intro enumerated
    obtain ⟨total, traverses, shown, -⟩ := enumerated
    have scorable : Scorable table := by
      cases traverses with
      | done answered =>
          obtain ⟨rows, computed, -⟩ := Option.bind_eq_some_iff.mp answered
          exact scorable_of_ranked computed
      | more answered _ =>
          obtain ⟨rows, computed, -⟩ := Option.bind_eq_some_iff.mp answered
          exact scorable_of_ranked computed
    have shown := perm_of_shown scorable traverses shown
    have served := serves ties scorable positive
    have apart := served.traverses_iff.mp ⟨total, traverses, shown⟩
    exact ⟨scorable, endsApart_rankedRow.mp apart⟩
  · intro condition
    obtain ⟨scorable, apart⟩ := condition
    have served := serves ties scorable positive
    have shown : (((standings ties table).map (rankedRow table.rows)).map
        fun row => row.toStats).Perm table.rows := by
      rw [toStats_rankedRow]
      exact listed_perm table.rows
    exact ⟨_, served.traverses (endsApart_rankedRow.mpr apart), shown, served.sorted⟩

end Pages

section Rivals

def successes (id : Int) (address : Address) (count : Int) : Stats where
  id := id
  address := address
  totalSuccess := some count
  totalFailure := none
  totalCancels := none
  totalHours := none
  bpForBreeding := none
  bpForLandUpgrade := none
  burnedBuds := none
  createdAt := 0
  updatedAt := 0

def rivals (first second : Int) : StatsTable where
  rows := [successes 1 "alice" first, successes 2 "bob" second]
  nodup := (show ([1, 2] : List Int).Nodup by decide)
  nextId := 3
  bounded := by simp [successes]
  distinct := (show ["alice", "bob"].Nodup by decide)
  started := by decide
  positive := by simp [successes]

theorem pages_enumerate_iff_rivals :
    ∃ total, Traverses (page Int.instLinearOrder (rivals 1 2) 1) (fun row => row.id)
        none total ∧
      (total.map fun row => row.toStats).Perm (rivals 1 2).rows ∧
      Descending (fun row => row.score) total := by
  apply (pages_enumerate_iff Int.instLinearOrder (rivals 1 2) 1 (by decide)).mpr
  exact ⟨by decide +kernel, endsApart_of_nodup (by decide +kernel)⟩

/-- Of two users with one score, shown one by one, the first one is not shown again,
and the second one is shown for ever. -/
theorem tied_user_shown_again :
    ¬ ∃ total, Traverses (page Int.instLinearOrder (rivals 1 1) 1) (fun row => row.id)
        none total ∧
      (total.map fun row => row.toStats).Perm (rivals 1 1).rows ∧
      Descending (fun row => row.score) total := by
  intro enumerated
  obtain ⟨total, traverses, shown, -⟩ := enumerated
  have scorable : Scorable (rivals 1 1) := by decide +kernel
  have served := serves Int.instLinearOrder scorable (show 1 ≤ (1 : Int) by decide)
  have apart := served.traverses_iff.mp
    ⟨total, traverses, perm_of_shown scorable traverses shown⟩
  have listing : standings Int.instLinearOrder (rivals 1 1) =
      [successes 1 "alice" 1, successes 2 "bob" 1] := by decide +kernel
  rw [endsApart_rankedRow, listing] at apart
  exact apart [] _ _ [] rfl (.inr rfl) rfl

end Rivals

end BudBreeding.Statistics
