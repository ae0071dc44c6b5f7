import Mathlib.Data.List.AList
import BudBreeding.Data.Sorting
import BudBreeding.Lifecycle.Calibration

namespace BudBreeding.Tables

open Data Program Backend Lifecycle

/-! Which traits `lookUpGen1Bud` draws, and how often. -/

/-- `hashTableGen1.json`: the groups by their keys, of which there is one at least. -/
structure Gen1Table where
  groups : AList fun _ : Rat => Choices ThcAndBudSize
  keyed : groups.keys ≠ []

namespace Gen1Table

variable (table : Gen1Table)

def gen1Rates : List Rat :=
  table.groups.keys.insertionSort (· ≤ ·)

theorem gen1Rates_perm : table.gen1Rates.Perm table.groups.keys :=
  List.perm_insertionSort _ _

def getMatchingGen1Rate (rate : Rat) : Option Rat :=
  match table.gen1Rates.find? fun gen1Rate => rate ≤ gen1Rate with
  | some gen1Rate => some gen1Rate
  | none => table.gen1Rates.getLast?

/-- `hashTableGen1[matchedRate]`. -/
def groupOf (rate : Rat) : Option (Choices ThcAndBudSize) :=
  (table.getMatchingGen1Rate rate).bind fun matchedRate => table.groups.lookup matchedRate

/-- `none` is what a read outside of the table or of the group gives. -/
def lookUpGen1Bud {K : Type} [Field K] [LinearOrder K] [FloorRing K]
    (rate : Rat) (random : K) : Option ThcAndBudSize :=
  (table.groupOf rate).bind fun group =>
    group.toList[(randomNumberAt random (group.toList.length - 1) 0).toNat]?

/-- The least key from the rate on, else the largest key. -/
def Matches (rate key : Rat) : Prop :=
  IsLeast {other | other ∈ table.groups.keys ∧ rate ≤ other} key ∨
    (∀ other ∈ table.groups.keys, other < rate) ∧
      IsGreatest {other | other ∈ table.groups.keys} key

end Gen1Table

/-- The draws that pick the entry at this place of a group. -/
def picking (size : Nat) (place : Nat) : Set ℝ :=
  {random | (randomNumberAt random (size - 1) 0).toNat = place}

/-- The lookup returns an entry of the group for every draw, and each entry equally
often. -/
structure DrawnFairly (table : Gen1Table) (rate : Rat) (group : Choices ThcAndBudSize) :
    Prop where
  inside : ∀ random : ℝ, 0 ≤ random → random < 1 →
    ∃ place < group.toList.length, random ∈ picking group.toList.length place ∧
      table.lookUpGen1Bud rate random = group.toList[place]?
  fair : ∀ place < group.toList.length,
    uniform (picking group.toList.length place) =
      ENNReal.ofReal (1 / group.toList.length)

section Matching

variable (table : Gen1Table) (rate : Rat)

theorem exists_matching :
    ∃ key, table.getMatchingGen1Rate rate = some key ∧ table.Matches rate key := by
  have sorted : table.gen1Rates.Pairwise (· ≤ ·) := List.pairwise_insertionSort _ _
  have keys {key : Rat} : key ∈ table.gen1Rates ↔ key ∈ table.groups.keys :=
    table.gen1Rates_perm.mem_iff
  unfold Gen1Table.getMatchingGen1Rate
  split
  next key found =>
    have least := isLeast_of_find? sorted found
    simp only [keys] at least
    exact ⟨key, rfl, .inl least⟩
  next missed =>
    have filled : table.gen1Rates ≠ [] := by
      intro none
      have same := table.gen1Rates_perm
      rw [none] at same
      exact table.keyed same.nil_eq.symm
    have greatest := isGreatest_getLast sorted filled
    simp only [keys] at greatest
    refine ⟨_, List.getLast?_eq_some_getLast filled, .inr ⟨?_, greatest⟩⟩
    intro other member
    have passed := List.find?_eq_none.mp missed other (keys.mpr member)
    rw [decide_eq_true_iff, not_le] at passed
    exact passed

variable {table rate} in
theorem matches_unique {first second : Rat} (left : table.Matches rate first)
    (right : table.Matches rate second) : first = second := by
  rcases left with least | ⟨below, greatest⟩
  · rcases right with other | ⟨below, -⟩
    · exact least.unique other
    · exact absurd least.1.2 (not_le.mpr (below first least.1.1))
  · rcases right with least | ⟨-, other⟩
    · exact absurd least.1.2 (not_le.mpr (below second least.1.1))
    · exact greatest.unique other

theorem exists_group :
    ∃ key group, table.Matches rate key ∧ table.groups.lookup key = some group ∧
      table.groupOf rate = some group := by
  obtain ⟨key, found, matched⟩ := exists_matching table rate
  have member : key ∈ table.groups.keys := by
    rcases matched with least | greatest
    · exact least.1.1
    · exact greatest.2.1
  obtain ⟨group, present⟩ := Option.isSome_iff_exists.mp
    (AList.lookup_isSome.mpr (AList.mem_keys.mpr member))
  refine ⟨key, group, matched, present, ?_⟩
  rw [Gen1Table.groupOf, found, Option.bind_some, present]

end Matching

section Picking

variable {size place : Nat} {random : ℝ}

theorem randomNumberAt_picking (random : ℝ) (positive : 0 < size) :
    randomNumberAt random (size - 1) 0 = numbered random ((size - 1 : Nat) : Int) := by
  rw [randomNumberAt_zero, Nat.cast_pred positive]

theorem mem_picking_of_single :
    random ∈ picking 1 place ↔ place = 0 := by
  rw [picking, Set.mem_ofPred_eq, randomNumberAt_picking random one_pos]
  simp [eq_comm]

/-- The bound is exclusive, and it is the last place already. -/
theorem mem_picking_of_many (many : 1 < size) (drawn : 0 ≤ random) :
    random ∈ picking size place ↔
      numbered random ((size - 1 : Nat) : Int) = (place : Int) := by
  have bound : 0 ≤ ((size - 1 : Nat) : Int) := by omega
  have number := numbered_nonneg drawn bound
  rw [picking, Set.mem_ofPred_eq, randomNumberAt_picking random (by omega)]
  omega

theorem uniform_picking_single : uniform (picking 1 0) = ENNReal.ofReal 1 := by
  apply uniform_below le_rfl
  intro random _ inside
  exact iff_of_true (mem_picking_of_single.mpr rfl) inside

/-- The last entry of a group is never picked. -/
theorem uniform_picking_last (many : 1 < size) : uniform (picking size (size - 1)) = 0 := by
  apply uniform_none
  intro random drawn inside picked
  have same := (mem_picking_of_many many drawn).mp picked
  have bound : 0 < ((size - 1 : Nat) : Int) := by omega
  have below := numbered_lt inside bound
  omega

end Picking

section Fairness

variable {table : Gen1Table} {rate : Rat} {group : Choices ThcAndBudSize}

theorem exists_picking {size : Nat} (positive : 0 < size) {random : ℝ}
    (inside : random < 1) : ∃ place < size, random ∈ picking size place := by
  refine ⟨(randomNumberAt random (size - 1) 0).toNat, ?_, rfl⟩
  rw [randomNumberAt_picking random positive]
  rcases (by omega : size = 1 ∨ 1 < size) with rfl | many
  · simp
  · have bound : 0 < ((size - 1 : Nat) : Int) := by omega
    have below := numbered_lt inside bound
    omega

theorem lookUpGen1Bud_eq
    (found : table.groupOf rate = some group)
    {random : ℝ} {place : Nat} (picked : random ∈ picking group.toList.length place) :
    table.lookUpGen1Bud rate random = group.toList[place]? := by
  rw [Gen1Table.lookUpGen1Bud, found, Option.bind_some, ← picked]

theorem length_pos (group : Choices ThcAndBudSize) : 0 < group.toList.length :=
  Nat.succ_pos _

theorem drawnFairly_iff
    (found : table.groupOf rate = some group) :
    DrawnFairly table rate group ↔ group.toList.length = 1 := by
  constructor
  · intro drawn
    by_contra several
    have many : 1 < group.toList.length :=
      lt_of_le_of_ne (length_pos group) (Ne.symm several)
    have never := drawn.fair (group.toList.length - 1) (by omega)
    rw [uniform_picking_last many] at never
    have part : (0 : ℝ) < 1 / group.toList.length :=
      one_div_pos.mpr (Nat.cast_pos.mpr (length_pos group))
    exact absurd never.symm (ENNReal.ofReal_pos.mpr part).ne'
  · intro single
    constructor
    · intro random drawn inside
      obtain ⟨place, before, picked⟩ := exists_picking (length_pos group) inside
      exact ⟨place, before, picked, lookUpGen1Bud_eq found picked⟩
    · intro place before
      obtain rfl : place = 0 := by omega
      rw [single, uniform_picking_single]
      norm_num

/-- The lookup stays inside the group of the least key from the rate on, and it is fair
just when that group has one entry. -/
theorem traits_fair_iff (table : Gen1Table) (rate : Rat) :
    ∃ key group, (∀ other, table.Matches rate other ↔ other = key) ∧
      table.groups.lookup key = some group ∧
      (∀ random : ℝ, 0 ≤ random → random < 1 →
        ∃ entry ∈ group.toList, table.lookUpGen1Bud rate random = some entry) ∧
      (DrawnFairly table rate group ↔ group.toList.length = 1) := by
  obtain ⟨key, group, matched, present, found⟩ := exists_group table rate
  refine ⟨key, group, ?_, present, ?_, drawnFairly_iff found⟩
  · intro other
    constructor
    · intro also
      exact matches_unique also matched
    · rintro rfl
      exact matched
  · intro random drawn inside
    obtain ⟨place, before, picked⟩ := exists_picking (length_pos group) inside
    refine ⟨group.toList[place], List.getElem_mem before, ?_⟩
    rw [lookUpGen1Bud_eq found picked, List.getElem?_eq_getElem before]

end Fairness

section Programs

variable {app : App} {rate : Rat}

/-- The tables of a server list the groups by ascending keys. -/
def Ascending (groups : Choices (Rat × Choices ThcAndBudSize)) : Prop :=
  (groups.toList.map Prod.fst).Pairwise (· < ·)

instance (groups : Choices (Rat × Choices ThcAndBudSize)) : Decidable (Ascending groups) :=
  inferInstanceAs (Decidable (List.Pairwise _ _))

def entriesOf (groups : Choices (Rat × Choices ThcAndBudSize)) :
    List (Σ _ : Rat, Choices ThcAndBudSize) :=
  groups.toList.map fun group => ⟨group.1, group.2⟩

theorem keys_entriesOf (groups : Choices (Rat × Choices ThcAndBudSize)) :
    (entriesOf groups).keys = groups.toList.map Prod.fst :=
  List.map_map

def tableOf (groups : Choices (Rat × Choices ThcAndBudSize)) (ascending : Ascending groups) :
    Gen1Table where
  groups :=
    { entries := entriesOf groups
      nodupKeys := by
        rw [List.NodupKeys, keys_entriesOf]
        exact ascending.imp ne_of_lt }
  keyed := by
    rw [AList.keys, keys_entriesOf]
    exact List.cons_ne_nil _ _

theorem gen1Rates_tableOf {groups : Choices (Rat × Choices ThcAndBudSize)}
    (ascending : Ascending groups) :
    (tableOf groups ascending).gen1Rates = groups.toList.map Prod.fst := by
  rw [Gen1Table.gen1Rates, tableOf, AList.keys, keys_entriesOf]
  exact (ascending.imp le_of_lt).insertionSort_eq

theorem lookup_tableOf {groups : Choices (Rat × Choices ThcAndBudSize)}
    (ascending : Ascending groups) {group : Rat × Choices ThcAndBudSize}
    (member : group ∈ groups.toList) :
    (tableOf groups ascending).groups.lookup group.1 = some group.2 := by
  apply AList.mem_lookup_iff.mpr
  exact List.mem_map_of_mem member

/-- The server finds the group that the table has. -/
theorem groupOf_tableOf (ascending : Ascending app.tables.hashTableGen1) :
    (tableOf app.tables.hashTableGen1 ascending).groupOf rate =
      some (HashTableService.getMatchingGen1Rate app rate) := by
  unfold Gen1Table.groupOf Gen1Table.getMatchingGen1Rate
    HashTableService.getMatchingGen1Rate
  rw [gen1Rates_tableOf ascending, List.find?_map, List.getLast?_map, Function.comp_def]
  dsimp only
  cases found : app.tables.hashTableGen1.toList.find? fun group => rate ≤ group.1 with
  | some group => exact lookup_tableOf ascending (List.mem_of_find?_eq_some found)
  | none =>
      have filled : app.tables.hashTableGen1.toList ≠ [] := List.cons_ne_nil _ _
      have last : app.tables.hashTableGen1.toList.getLast? =
          some (app.tables.hashTableGen1.toList.getLast filled) :=
        List.getLast?_eq_some_getLast filled
      simp only [last]
      exact lookup_tableOf ascending (List.getLast_mem filled)

theorem run_lookUpGen1Bud (ascending : Ascending app.tables.hashTableGen1)
    (oracles : Nat → Oracle) (db : Db) :
    ((surroundings fun _ => True).run oracles (HashTableService.lookUpGen1Bud app rate)
        db).1 =
      match (tableOf app.tables.hashTableGen1 ascending).lookUpGen1Bud rate
        ((oracles 0).random.val : ℝ) with
      | some entry => .ok entry
      | none => .error .typeError := by
  rw [Gen1Table.lookUpGen1Bud, groupOf_tableOf, Option.bind_some, randomNumberAt_cast]
  unfold HashTableService.lookUpGen1Bud
  generalize (HashTableService.getMatchingGen1Rate app rate).toList = group
  have answered : ((surroundings fun _ => True).run oracles
      (randomNumber (group.length - 1) 0 >>= fun index =>
        match group[index.toNat]? with
        | some randomGroup => pure randomGroup
        | none => .throw .typeError : Handler ThcAndBudSize) db).1 =
      ((surroundings fun _ => True).run (fun index => oracles (index + 1))
        (match group[(randomNumberAt (oracles 0).random.val (group.length - 1) 0).toNat]? with
          | some randomGroup => pure randomGroup
          | none => .throw .typeError : Handler ThcAndBudSize) db).1 := rfl
  refine answered.trans ?_
  cases group[(randomNumberAt (oracles 0).random.val (group.length - 1) 0).toNat]? <;> rfl

def liveTable : Gen1Table :=
  tableOf gameTables.hashTableGen1 (by decide +kernel)

/-- Of the ten entries for a rate of 10 the last one is never drawn. -/
theorem last_traits_never_drawn :
    ¬ ∀ (table : Gen1Table) (rate key : Rat) (group : Choices ThcAndBudSize),
      table.Matches rate key → table.groups.lookup key = some group →
      DrawnFairly table rate group := by
  intro fair
  obtain ⟨key, group, matched, present, found⟩ := exists_group liveTable 10
  have ten : (liveTable.groupOf 10).map (fun group => group.toList.length) = some 10 := by
    decide +kernel
  rw [found, Option.map_some, Option.some_inj] at ten
  have single := (drawnFairly_iff found).mp (fair liveTable 10 key group matched present)
  omega

end Programs

end BudBreeding.Tables
