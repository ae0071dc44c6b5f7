import BudBreeding.Concurrency.Views
import BudBreeding.Mediation.Audit
import BudBreeding.Statistics.Metrics

namespace BudBreeding.Statistics

open Data Program Backend
open Concurrency (Rested Evolves gen1BudsOf getGen1Buds_eq rows_evolve
  rested_breedingAfter)
open Mediation (namedRivals interleaving_namedRivals)

/-! `searchBreeder` of `stats.controller.ts`, next to the list of the top breeders
and to the buds that their minters are shown. -/

def StatsService.getBreeder (oracle : Oracle) (db : Db) (address : Address) :
    List TopBreeder :=
  oracle.arrange ((rankTable db).filter fun breeder =>
    breeder.minterAddress = address)

/-- `isAddress` is that of `ethers`; the framework has a name for its
`BadRequestException` where the errors of the server have a code. -/
def StatsController.searchBreeder (isAddress : Address → Bool) (oracle : Oracle)
    (db : Db) (address : Address) : Except Failure (Option TopBreeder) :=
  if isAddress address then
    .ok (StatsService.getBreeder oracle db address)[0]?
  else
    .error (.http ⟨400, "Bad Request",
      "address is not valid Ethereum address (must be checksumed)"⟩)

/-- The row of a minter in the ranks. -/
def breederOf (db : Db) (address : Address) : TopBreeder where
  count := mintsOf db address
  minterAddress := address
  rank := ahead db address + 1

section Ranks

variable {db : Db} {oracle : Oracle} {address other : Address}

theorem mem_minters_iff : address ∈ minters db ↔ 0 < mintsOf db address := by
  rw [minters, List.mem_dedup, mintsOf, List.count_pos_iff]

theorem rankTable_eq (db : Db) :
    rankTable db = (minters db).map (breederOf db) := by
  have row : ∀ address, (⟨⟨mintsOf db address, address⟩,
      rankOf MintCount.count (mintCounts db) ⟨mintsOf db address, address⟩⟩ :
        TopBreeder) = breederOf db address := by
    intro address
    rw [rankOf, above_mintCounts]
    rfl
  rw [rankTable]
  conv_lhs => arg 2; rw [mintCounts_eq]
  rw [List.map_map]
  exact List.map_congr_left fun address _ => row address

/-- A minter has one row in the ranks. -/
theorem filter_rankTable :
    ((rankTable db).filter fun breeder => breeder.minterAddress = address) =
      if address ∈ minters db then [breederOf db address] else [] := by
  have distinct : (minters db).Nodup := List.nodup_dedup _
  rw [rankTable_eq, List.filter_map]
  change ((minters db).filter fun other => other = address).map _ = _
  rw [List.filter_eq]
  split
  · next minted =>
      rw [List.count_eq_one_of_mem distinct minted]
      rfl
  · next unminted =>
      rw [List.count_eq_zero_of_not_mem unminted]
      rfl

theorem getBreeder_eq :
    StatsService.getBreeder oracle db address =
      if address ∈ minters db then [breederOf db address] else [] := by
  have arranged : (StatsService.getBreeder oracle db address).Perm _ :=
    oracle.arrange_perm _
  rw [filter_rankTable] at arranged
  split
  · next minted =>
      rw [if_pos minted] at arranged
      exact List.perm_singleton.mp arranged
  · next unminted =>
      rw [if_neg unminted] at arranged
      exact List.perm_nil.mp arranged

theorem searchBreeder_eq {isAddress : Address → Bool}
    (valid : isAddress address = true) :
    StatsController.searchBreeder isAddress oracle db address =
      .ok (if address ∈ minters db then some (breederOf db address) else none) := by
  rw [StatsController.searchBreeder, if_pos valid, getBreeder_eq]
  split <;> rfl

theorem breederOf_mem_getTopBreeders (minted : address ∈ minters db) :
    breederOf db address ∈ StatsService.getTopBreeders oracle db ↔
      (breederOf db address).rank ≤ 30 := by
  have listed : breederOf db address ∈ rankTable db := by
    rw [rankTable_eq]
    exact List.mem_map_of_mem minted
  rw [StatsService.getTopBreeders, Oracle.mem_arrange, List.mem_filter,
    decide_eq_true_iff, and_iff_right listed]

theorem mintsOf_eq (db : Db) (address : Address) :
    mintsOf db address = (gen1BudsOf db address).length := by
  rw [mintsOf, List.count_eq_countP, List.countP_map, List.countP_eq_length_filter]
  rfl

theorem length_getGen1Buds (req : Req) :
    (BudController.getGen1Buds oracle db req none).length = mintsOf db req.user := by
  have every : ((gen1BudsOf db req.user).filter fun bud =>
      Option.all (fun id => bud.id = id) none) = gen1BudsOf db req.user :=
    List.filter_eq_self.mpr fun _ _ => rfl
  rw [getGen1Buds_eq, every, (oracle.arrange_perm _).length_eq, mintsOf_eq]

/-- Of two minters the one with more buds comes first. -/
theorem ahead_lt_iff (minted : address ∈ minters db) :
    ahead db address < ahead db other ↔ mintsOf db other < mintsOf db address := by
  rw [← above_mintCounts, ← above_mintCounts]
  have row : ⟨mintsOf db address, address⟩ ∈ mintCounts db := by
    rw [mintCounts_eq]
    exact List.mem_map_of_mem minted
  constructor
  · intro fewer
    by_contra more
    exact absurd (above_le (not_lt.mp more)) (not_le.mpr fewer)
  · intro more
    exact above_lt row more

end Ranks

/-- What a search, the top breeders and the minter's own list say of one minter. -/
structure Matching (isAddress : Address → Bool) (db : Db) (address : Address)
    (found : Option TopBreeder) : Prop where
  counted : ∀ (oracle : Oracle) (req : Req), req.user = address →
    (BudController.getGen1Buds oracle db req none).length =
      (found.map fun breeder => breeder.count).getD 0
  named : ∀ breeder ∈ found, breeder.minterAddress = address ∧ 0 < breeder.count
  topped : ∀ breeder ∈ found, ∀ oracle : Oracle,
    breeder ∈ StatsService.getTopBreeders oracle db ↔ breeder.rank ≤ 30
  ordered : ∀ breeder ∈ found, ∀ (oracle : Oracle) (other : Address)
    (rival : TopBreeder),
    StatsController.searchBreeder isAddress oracle db other = .ok (some rival) →
      (breeder.rank < rival.rank ↔ rival.count < breeder.count)

section Searches

variable {isAddress : Address → Bool} {db : Db} {oracle : Oracle}
  {address : Address}

theorem eq_of_searchBreeder {found : Option TopBreeder}
    (searched : StatsController.searchBreeder isAddress oracle db address = .ok found) :
    found = if address ∈ minters db then some (breederOf db address) else none := by
  by_cases valid : isAddress address = true
  · rw [searchBreeder_eq valid] at searched
    exact (Except.ok.inj searched).symm
  · rw [StatsController.searchBreeder, if_neg valid] at searched
    cases searched

theorem eq_breederOf {breeder : TopBreeder}
    (searched : StatsController.searchBreeder isAddress oracle db address =
      .ok (some breeder)) :
    address ∈ minters db ∧ breeder = breederOf db address := by
  have found := eq_of_searchBreeder searched
  split at found
  · next minted => exact ⟨minted, Option.some.inj found⟩
  · cases found

theorem matching_of_searchBreeder {found : Option TopBreeder}
    (searched : StatsController.searchBreeder isAddress oracle db address =
      .ok found) : Matching isAddress db address found := by
  have given : ∀ breeder ∈ found,
      address ∈ minters db ∧ breeder = breederOf db address := by
    rintro breeder rfl
    exact eq_breederOf searched
  constructor
  · rintro oracle req rfl
    rw [length_getGen1Buds, eq_of_searchBreeder searched]
    split
    · rfl
    · next unminted =>
        rw [mem_minters_iff, not_lt, Nat.le_zero] at unminted
        exact unminted
  · intro breeder member
    obtain ⟨minted, rfl⟩ := given breeder member
    exact ⟨rfl, mem_minters_iff.mp minted⟩
  · intro breeder member oracle
    obtain ⟨minted, rfl⟩ := given breeder member
    exact breederOf_mem_getTopBreeders minted
  · intro breeder member oracle other rival against
    obtain ⟨minted, rfl⟩ := given breeder member
    obtain ⟨-, rfl⟩ := eq_breederOf against
    exact Nat.succ_lt_succ_iff.trans (ahead_lt_iff minted)

/-- No bud is taken back, so nobody's count goes down. -/
theorem mintsOf_le {later : Db} (evolves : Evolves db later) :
    mintsOf db address ≤ mintsOf later address := by
  have weighed : ∀ db : Db, mintsOf db address =
      ((gen1BudsOf db address).map fun _ => 1).sum := by
    intro db
    rw [mintsOf_eq, List.map_const', List.sum_replicate_nat, mul_one]
  rw [weighed, weighed]
  refine (evolves.gen1Bud.filter fun change mine => ?_).sum_le
    (List.Nodup.sublist (List.filter_sublist.map Gen1Bud.id) db.gen1Bud.nodup)
    (fun change => change.id) (fun _ => le_rfl) fun _ _ => Nat.zero_le 1
  rw [change.minterAddress]
  exact mine

end Searches

section Interleavings

variable {ι : Type} [DecidableEq ι] {app : App} {admitted : Oracle → Prop}
  {requests : ι → Request} {db : Db} {steps : List (ServerStep ι)}
  {final : Server ι}

/-- However the requests are interleaved, a search agrees at every moment with the
top breeders and with what the minter is shown, and who has been found at one
moment is found from then on, with no fewer buds. -/
theorem breeders_searched (isAddress : Address → Bool)
    (rested : Rested app admitted db)
    (interleaving : Interleaving app admitted requests db steps final) :
    (∀ server ∈ states (serving app requests db) steps,
      ∀ (oracle : Oracle) (address : Address) (found : Option TopBreeder),
        StatsController.searchBreeder isAddress oracle server.store address =
            .ok found →
          Matching isAddress server.store address found) ∧
      (states (serving app requests db) steps).Pairwise fun earlier later =>
        ∀ (oracle next : Oracle) (address : Address) (breeder : TopBreeder),
          StatsController.searchBreeder isAddress oracle earlier.store address =
              .ok (some breeder) →
            ∃ risen, StatsController.searchBreeder isAddress next later.store
                address = .ok (some risen) ∧ breeder.count ≤ risen.count := by
  constructor
  · intro server _ oracle address found searched
    exact matching_of_searchBreeder searched
  · refine (rows_evolve rested interleaving).imp fun {earlier later} evolves => ?_
    intro oracle next address breeder searched
    have valid : isAddress address = true := by
      by_contra invalid
      rw [StatsController.searchBreeder, if_neg invalid] at searched
      cases searched
    obtain ⟨minted, rfl⟩ := eq_breederOf searched
    have grown : mintsOf earlier.store address ≤ mintsOf later.store address :=
      mintsOf_le evolves
    have present : address ∈ minters later.store :=
      mem_minters_iff.mpr ((mem_minters_iff.mp minted).trans_le grown)
    refine ⟨breederOf later.store address, ?_, grown⟩
    rw [searchBreeder_eq valid, if_pos present]

/-- The search finds `alice` once she has won her bud. -/
theorem breeders_searched_naming :
    ∃ risen, StatsController.searchBreeder (fun _ => true)
        (.agreeable "alice" (period 6)) namedRivals.2.store "alice" =
          .ok (some risen) ∧
      Matching (fun _ => true) namedRivals.2.store "alice" (some risen) ∧
      risen.count = 1 ∧ risen.rank = 1 := by
  have won : "alice" ∈ minters namedRivals.2.store ∧
      mintsOf namedRivals.2.store "alice" = 1 ∧
      ahead namedRivals.2.store "alice" = 0 := by
    rw [namedRivals, breedingAfter_succ 6]
    decide +kernel
  obtain ⟨minted, once, first⟩ := won
  have searched : StatsController.searchBreeder (fun _ => true)
      (.agreeable "alice" (period 6)) namedRivals.2.store "alice" =
        .ok (some (breederOf namedRivals.2.store "alice")) := by
    rw [searchBreeder_eq rfl, if_pos minted]
  have agreed := (breeders_searched (fun _ => true) (rested_breedingAfter 7)
    interleaving_namedRivals).1 _ interleaving_namedRivals.final_mem_states
    _ _ _ searched
  exact ⟨_, searched, agreed, once, congrArg Nat.succ first⟩

end Interleavings

end BudBreeding.Statistics
