import BudBreeding.Backend.Runs
import BudBreeding.Data.OuterJoin
import BudBreeding.Data.Ranks
import BudBreeding.Program.Sequential

namespace BudBreeding.Statistics

open Data Program Backend

/-! `getMetrics` of `stats.controller.ts`. -/

/-- A row of `mintCounts`. -/
structure MintCount where
  count : Nat
  minterAddress : Address
  deriving DecidableEq, Repr

structure TopBreeder extends MintCount where
  rank : Nat
  deriving DecidableEq, Repr

def mintCounts (db : Db) : List MintCount :=
  (countBy Gen1Bud.minterAddress db.gen1Bud.rows).map fun counted =>
    { count := counted.2, minterAddress := counted.1 }

/-- `RANK() OVER(ORDER BY count DESC)`. -/
def rankTable (db : Db) : List TopBreeder :=
  (mintCounts db).map fun row =>
    { toMintCount := row
      rank := rankOf MintCount.count (mintCounts db) row }

inductive MetricsQuery where
  | userCount
  | breedSlotCount
  | breedPairCount
  | topBreeders
  | burntAmount (addresses : List Address)
  | balanceOfBatch (calls : List (List Address × List Nat))

abbrev MetricsQuery.Answer : MetricsQuery → Type
  | .userCount => Nat
  | .breedSlotCount => List (BreedSlotType × Nat)
  | .breedPairCount => List (BreedPairStatus × Nat)
  | .topBreeders => List TopBreeder
  | .burntAmount _ => Option (List Nat)
  | .balanceOfBatch _ => Option (List (List Nat))

/-- What `multicall` finds on chain; it throws where there is no answer. -/
structure MetricsOracle extends Oracle where
  burntAmount : List Address → Option (List Nat)
  balanceOfBatch : List (List Address × List Nat) → Option (List (List Nat))

namespace StatsService

/-- `Number(amount)`: the closest double, of two the even one. -/
def number (amount : Nat) : Nat :=
  let unit := 2 ^ (Nat.log2 amount - 52)
  let units := amount / unit
  if 2 * (amount % unit) < unit ∨ 2 * (amount % unit) = unit ∧ units % 2 = 0 then
    units * unit
  else
    (units + 1) * unit

def getTopBreeders (oracle : Oracle) (db : Db) : List TopBreeder :=
  oracle.arrange ((rankTable db).filter fun breeder => breeder.rank ≤ 30)

def limitExceeded (count : Nat) : String :=
  "address count (" ++ toString count ++ "), multicall max limit exceeds"

def multicalled (addresses : List Address) (query : MetricsQuery)
    (amounts : query.Answer → Option (List Nat)) (failure : String) :
    Prog MetricsQuery.Answer String (List Nat) := do
  Prog.throwIf (addresses.length > 200) (limitExceeded addresses.length)
  match amounts (← Prog.call query) with
  | none => .throw failure
  | some amounts => return amounts

def getGen0BudLockCounts (addresses : List Address) :
    Prog MetricsQuery.Answer String (List Nat) :=
  multicalled addresses (.burntAmount addresses)
    (fun amounts => amounts.map fun amounts => amounts.map number)
    "Get Bud Lock counts... RPC call error"

def itemIds : List Nat := [1, 2, 3, 4, 5]

def getGameItemMintCounts (addresses : List Address) :
    Prog MetricsQuery.Answer String (List Nat) :=
  multicalled addresses
    (.balanceOfBatch (addresses.map fun address =>
      (List.replicate itemIds.length address, itemIds)))
    (fun batchAmounts => batchAmounts.map fun batchAmounts =>
      batchAmounts.map fun amounts =>
        amounts.foldl (fun sum amount => number (sum + number amount)) 0)
    "Get Game item mint counts... RPC call error"

end StatsService

structure Metrics where
  user : Nat
  slot : List (BreedSlotType × Nat)
  breeding : List (BreedPairStatus × Nat)
  topBreeders : List TopBreeder
  lockCounts : List Nat
  gameItemMintCounts : List Nat
  deriving DecidableEq, Repr

def getMetrics : Prog MetricsQuery.Answer String Metrics := do
  let user ← Prog.call MetricsQuery.userCount
  let slot ← Prog.call MetricsQuery.breedSlotCount
  let breeding ← Prog.call MetricsQuery.breedPairCount
  let topBreeders ← Prog.call MetricsQuery.topBreeders
  let topBreederAddresses := topBreeders.map fun breeder => breeder.minterAddress
  let lockCounts ← StatsService.getGen0BudLockCounts topBreederAddresses
  let gameItemMintCounts ← StatsService.getGameItemMintCounts topBreederAddresses
  return { user, slot, breeding, topBreeders, lockCounts, gameItemMintCounts }

def MetricsOracle.answer (oracle : MetricsOracle) (db : Db) :
    (query : MetricsQuery) → query.Answer
  | .userCount => db.user.rows.length
  | .breedSlotCount => oracle.arrange (countBy BreedSlot.type db.breedSlot.rows)
  | .breedPairCount => oracle.arrange (countBy BreedPair.status db.breedPair.rows)
  | .topBreeders => StatsService.getTopBreeders oracle.toOracle db
  | .burntAmount addresses => oracle.burntAmount addresses
  | .balanceOfBatch calls => oracle.balanceOfBatch calls

def metricsWorld : World MetricsQuery.Answer MetricsOracle Db where
  exec oracle query db := (oracle.answer db query, db)
  allows _ _ := True

/-! When the list of top breeders fits into one `multicall`. -/

def minters (db : Db) : List Address :=
  (db.gen1Bud.rows.map Gen1Bud.minterAddress).dedup

def mintsOf (db : Db) (address : Address) : Nat :=
  (db.gen1Bud.rows.map Gen1Bud.minterAddress).count address

/-- How many minters have more buds. -/
def ahead (db : Db) (address : Address) : Nat :=
  (minters db).countP fun other => mintsOf db address < mintsOf db other

/-- There are few minters, or the ranks close to 30 are not held by too many. -/
def SpreadOut (db : Db) : Prop :=
  (minters db).length ≤ 200 ∨
    ∃ address ∈ minters db, 30 ≤ ahead db address ∧ ahead db address ≤ 200

/-- `getMetrics` never fails at the limit of the addresses. -/
def StaysWithinLimit (db : Db) : Prop :=
  metricsWorld.Ensures getMetrics
    (fun result _ => ∀ count, result ≠ .error (StatsService.limitExceeded count)) db

variable {db : Db} {oracle : Oracle} {addresses : List Address}

theorem mintCounts_eq (db : Db) :
    mintCounts db = (minters db).map fun address => ⟨mintsOf db address, address⟩ := by
  rw [mintCounts, countBy_eq, List.map_map]
  rfl

theorem above_mintCounts (db : Db) (address : Address) :
    above MintCount.count (mintCounts db) (mintsOf db address) = ahead db address := by
  rw [mintCounts_eq, above, List.countP_map]
  rfl

theorem length_getTopBreeders (db : Db) (oracle : Oracle) :
    (StatsService.getTopBreeders oracle db).length =
      (top 30 MintCount.count (mintCounts db)).length := by
  rw [StatsService.getTopBreeders, (oracle.arrange_perm _).length_eq, rankTable,
    List.filter_map, List.length_map]
  rfl

theorem length_getTopBreeders_le_iff :
    (StatsService.getTopBreeders oracle db).length ≤ 200 ↔ SpreadOut db := by
  rw [length_getTopBreeders, length_top_le_iff, mintCounts_eq, List.length_map,
    ← mintCounts_eq, SpreadOut]
  apply or_congr Iff.rfl
  constructor
  · intro cut
    obtain ⟨row, listed, cut⟩ := cut
    rw [mintCounts_eq, List.mem_map] at listed
    obtain ⟨address, member, rfl⟩ := listed
    rw [above_mintCounts] at cut
    exact ⟨address, member, cut⟩
  · intro cut
    obtain ⟨address, member, cut⟩ := cut
    rw [← above_mintCounts] at cut
    refine ⟨⟨mintsOf db address, address⟩, ?_, cut⟩
    rw [mintCounts_eq]
    exact List.mem_map_of_mem member

theorem ensures_multicalled_bind {query : MetricsQuery}
    {amounts : query.Answer → Option (List Nat)} {failure : String} {α : Type}
    {rest : List Nat → Prog MetricsQuery.Answer String α}
    {post : Except String α → Db → Prop} :
    metricsWorld.Ensures
        (StatsService.multicalled addresses query amounts failure >>= rest) post db ↔
      (addresses.length > 200 →
        post (.error (StatsService.limitExceeded addresses.length)) db) ∧
      (¬ addresses.length > 200 → ∀ oracle : MetricsOracle,
        (amounts (oracle.answer db query) = none → post (.error failure) db) ∧
        ∀ given, amounts (oracle.answer db query) = some given →
          metricsWorld.Ensures (rest given) post db) := by
  rw [World.ensures_bind, StatsService.multicalled, World.ensures_bind,
    World.ensures_throwIf]
  apply and_congr Iff.rfl
  apply imp_congr Iff.rfl
  dsimp only
  rw [World.ensures_call_bind]
  apply forall_congr'
  intro oracle
  change True → _ ↔ _
  rw [true_imp_iff]
  change metricsWorld.Ensures (match amounts (oracle.answer db query) with
    | none => _
    | some given => _) _ db ↔ _
  cases amounts (oracle.answer db query) with
  | none => simp
  | some given => simp

theorem ne_limitExceeded {failure : String} (other : failure.toList.head? ≠ some 'a')
    (count : Nat) : failure ≠ StatsService.limitExceeded count := by
  rintro rfl
  apply other
  unfold StatsService.limitExceeded
  rw [String.toList_append, String.toList_append]
  rfl

theorem ensures_of_few {query : MetricsQuery}
    {amounts : query.Answer → Option (List Nat)} {failure : String} {α : Type}
    {rest : List Nat → Prog MetricsQuery.Answer String α}
    (few : addresses.length ≤ 200) (other : failure.toList.head? ≠ some 'a')
    (stays : ∀ given, metricsWorld.Ensures (rest given)
      (fun result _ => ∀ count, result ≠ .error (StatsService.limitExceeded count)) db) :
    metricsWorld.Ensures
      (StatsService.multicalled addresses query amounts failure >>= rest)
      (fun result _ => ∀ count, result ≠ .error (StatsService.limitExceeded count))
      db := by
  refine ensures_multicalled_bind.mpr ⟨?_, ?_⟩
  · intro long
    exact absurd few (not_le.mpr long)
  · intro _ oracle
    constructor
    · intro _ count failed
      exact ne_limitExceeded other count (Except.error.inj failed)
    · intro given _
      exact stays given

theorem staysWithinLimit_iff :
    StaysWithinLimit db ↔
      ∀ oracle, (StatsService.getTopBreeders oracle db).length ≤ 200 := by
  rw [StaysWithinLimit, getMetrics]
  simp only [World.ensures_call_bind]
  constructor
  · intro stays oracle
    let chain : MetricsOracle :=
      { toOracle := oracle, burntAmount := fun _ => none, balanceOfBatch := fun _ => none }
    have limited := ensures_multicalled_bind.mp
      (stays chain trivial chain trivial chain trivial chain trivial)
    rw [List.length_map] at limited
    by_contra long
    exact limited.1 (not_le.mp long) _ rfl
  · intro short first _ second _ third _ fourth _
    have few : ((StatsService.getTopBreeders fourth.toOracle db).map
        fun breeder => breeder.minterAddress).length ≤ 200 := by
      rw [List.length_map]
      exact short _
    refine ensures_of_few few (by decide) fun lockCounts => ?_
    refine ensures_of_few few (by decide) fun gameItemMintCounts => ?_
    refine World.ensures_pure.mpr ?_
    intro count impossible
    cases impossible

/-- The list fits into one `multicall`, and the endpoint never fails at its limit, just
when the minters are spread out. -/
theorem within_limit_iff (db : Db) :
    ((∀ oracle, (StatsService.getTopBreeders oracle db).length ≤ 200) ↔ SpreadOut db) ∧
      (StaysWithinLimit db ↔ SpreadOut db) := by
  have spread : (∀ oracle, (StatsService.getTopBreeders oracle db).length ≤ 200) ↔
      SpreadOut db := by
    constructor
    · intro short
      exact length_getTopBreeders_le_iff.mp (short (.agreeable "" 0))
    · intro spread oracle
      exact length_getTopBreeders_le_iff.mpr spread
  exact ⟨spread, staysWithinLimit_iff.trans spread⟩

section Examples

def mintedBy (index : Nat) : Gen1BudCreate where
  bud :=
    { name := "Bud", image := "", thc := 1, budSize := 1, gender := .M, shine := .Yes,
      color := .Light }
  pairId := none
  minterAddress := String.ofList (List.replicate index 'a')
  signature := ""

def crowd (size : Nat) : Db :=
  { Db.empty with
    gen1Bud := Serial.createMany .empty
      (fun index => (mintedBy index).row (period 0))
      (fun index => (mintedBy index).row_id (period 0)) (List.range size) }

theorem minterAddress_crowd (size : Nat) :
    (crowd size).gen1Bud.rows.map Gen1Bud.minterAddress =
      (List.range size).map fun index => (mintedBy index).minterAddress := by
  rw [crowd, Serial.rows_createMany]
  apply Serial.map_numbered
  intro index id
  rfl

theorem nodup_crowd (size : Nat) :
    ((crowd size).gen1Bud.rows.map Gen1Bud.minterAddress).Nodup := by
  rw [minterAddress_crowd]
  apply List.nodup_range.map
  intro first second same
  have lengths := congrArg List.length (String.ofList_injective same)
  rwa [List.length_replicate, List.length_replicate] at lengths

theorem length_minters_crowd (size : Nat) : (minters (crowd size)).length = size := by
  rw [minters, (nodup_crowd size).dedup, minterAddress_crowd, List.length_map,
    List.length_range]

theorem ahead_crowd {size : Nat} {address : Address} (member : address ∈ minters (crowd size)) :
    ahead (crowd size) address = 0 := by
  apply List.countP_eq_zero.mpr
  intro other _
  have one : 0 < mintsOf (crowd size) address :=
    List.count_pos_iff.mpr (List.mem_dedup.mp member)
  have once : mintsOf (crowd size) other ≤ 1 :=
    List.nodup_iff_count_le_one.mp (nodup_crowd size) other
  rw [decide_eq_true_iff]
  omega

theorem crowd_exceeds_limit :
    ¬ ∀ db, (∀ oracle, (StatsService.getTopBreeders oracle db).length ≤ 200) ∧
      StaysWithinLimit db := by
  intro limited
  cases length_getTopBreeders_le_iff.mp ((limited (crowd 201)).1 (.agreeable "" 0)) with
  | inl few =>
      rw [length_minters_crowd] at few
      omega
  | inr cut =>
      obtain ⟨address, member, full, -⟩ := cut
      rw [ahead_crowd member] at full
      omega

end Examples

end BudBreeding.Statistics
