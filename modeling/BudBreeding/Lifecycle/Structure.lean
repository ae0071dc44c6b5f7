import Mathlib.Data.List.Perm.Subperm
import BudBreeding.Lifecycle.Levels
import BudBreeding.Occupancy.Guarantees

namespace BudBreeding.Lifecycle

open Data Program Backend

/-! The levels of a pair and their buds, seen as a ladder that the pair climbs. -/

/-- A level with the buds that were generated for it. -/
structure Rung where
  level : BreedLevel
  buds : List BreedBud

def budsOf (db : Db) (levelId : Int) : List BreedBud :=
  db.breedBud.rows.filter fun bud => bud.levelId = levelId

/-- The levels of a pair, in the order in which they were created. -/
def ladder (db : Db) (pairId : Int) : List Rung :=
  (db.breedLevel.rows.filter fun level => level.pairId = pairId).map
    fun level => ⟨level, budsOf db level.id⟩

def upward (count : Int) : List Int :=
  (List.range count.toNat).map fun index : Nat => (index : Int) + 1

theorem mem_upward {count number : Int} :
    number ∈ upward count ↔ 1 ≤ number ∧ number ≤ count := by
  rw [upward, List.mem_map]
  constructor
  · intro found
    obtain ⟨index, below, rfl⟩ := found
    rw [List.mem_range] at below
    omega
  · intro bounds
    refine ⟨(number - 1).toNat, List.mem_range.mpr ?_, ?_⟩ <;> omega

theorem upward_nodup (count : Int) : (upward count).Nodup := by
  apply List.nodup_range.map
  intro first second same
  simpa using same

theorem upward_succ {count : Int} (nonnegative : 0 ≤ count) :
    upward (count + 1) = upward count ++ [count + 1] := by
  have next : (count + 1).toNat = count.toNat + 1 := by omega
  have last : (count.toNat : Int) = count := Int.toNat_of_nonneg nonnegative
  rw [upward, next, List.range_succ, List.map_append, List.map_singleton, last]
  rfl

def breedRate (app : App) (bud : BreedBud) : Rat :=
  HashTableService.lookUpBreedRate app bud.thc bud.budSize

namespace Rung

/-- Two buds of the level were chosen, and their rates became its bonus. -/
def Evaluated (app : App) (rung : Rung) : Prop :=
  ∃ male ∈ rung.buds, ∃ female ∈ rung.buds,
    male.gender = .M ∧ female.gender = .F ∧
      rung.level.maleBreedBudId = some male.id ∧
      rung.level.femaleBreedBudId = some female.id ∧
      rung.level.bonusRate = breedRate app male + breedRate app female

structure Unevaluated (rung : Rung) : Prop where
  bonusRate : rung.level.bonusRate = 0
  maleBreedBudId : rung.level.maleBreedBudId = none
  femaleBreedBudId : rung.level.femaleBreedBudId = none

def Bred (rung : Rung) : Prop :=
  rung.buds.map (fun bud => bud.gender) = [.M, .F, .F, .M]

def record (levelId : Int) (data : BreedLevelUpdate) (rung : Rung) : Rung where
  level := if rung.level.id = levelId then data.apply rung.level else rung.level
  buds := rung.buds

variable {levelId : Int} {data : BreedLevelUpdate} {rung : Rung}

theorem record_of_ne (other : rung.level.id ≠ levelId) :
    rung.record levelId data = rung := by
  rw [record, if_neg other]

@[simp] theorem record_number :
    (rung.record levelId data).level.level = rung.level.level := by
  unfold record
  split <;> rfl

end Rung

/-- A ladder of `count` rungs whose rungs below `reached` are evaluated. -/
structure Climb (app : App) (rungs : List Rung) (count reached : Int) :
    Prop where
  numbered : rungs.map (fun rung => rung.level.level) = upward count
  bred : ∀ rung ∈ rungs, rung.Bred
  evaluated : ∀ rung ∈ rungs, rung.level.level < reached → rung.Evaluated app

/-- The levels of a pair match its counter and its status. -/
structure LevelStructure (app : App) (db : Db) (pair : BreedPair) : Prop extends
    Climb app (ladder db pair.id) (min pair.currentLevel app.config.targetLevel)
      pair.currentLevel where
  begun : 1 ≤ pair.currentLevel
  bounded : pair.currentLevel ≤ app.config.targetLevel + 1
  waiting : pair.status = .PAIRED → ∀ rung ∈ ladder db pair.id,
    rung.level.level = pair.currentLevel → rung.Unevaluated

/-- Every pair but the `busy` one has its levels, and every bud and every level
belongs to one that was created before. -/
structure Structured (app : App) (busy : Option Int) (db : Db) : Prop where
  pairs : ∀ pair ∈ db.breedPair.rows, busy ≠ some pair.id →
    LevelStructure app db pair
  levels : ∀ level ∈ db.breedLevel.rows, level.pairId < db.breedPair.nextId
  buds : ∀ bud ∈ db.breedBud.rows, bud.levelId < db.breedLevel.nextId

section Ladder

variable {db : Db} {pairId : Int}

theorem mem_ladder {rung : Rung} :
    rung ∈ ladder db pairId ↔ rung.level ∈ db.breedLevel.rows ∧
      rung.level.pairId = pairId ∧ rung.buds = budsOf db rung.level.id := by
  obtain ⟨level, buds⟩ := rung
  simp only [ladder, List.mem_map, List.mem_filter, decide_eq_true_eq,
    Rung.mk.injEq]
  constructor
  · intro found
    obtain ⟨other, ⟨listed, owner⟩, rfl, rfl⟩ := found
    exact ⟨listed, owner, rfl⟩
  · intro found
    obtain ⟨listed, owner, rfl⟩ := found
    exact ⟨level, ⟨listed, owner⟩, rfl, rfl⟩

theorem ladder_of_same {after : Db} (same : SameBreeding db after) :
    ladder after pairId = ladder db pairId := by
  unfold ladder budsOf
  rw [same.breedLevel, same.breedBud]

theorem ladder_eq_nil (vacant : ∀ level ∈ db.breedLevel.rows,
    level.pairId ≠ pairId) : ladder db pairId = [] := by
  rw [ladder, List.map_eq_nil_iff, List.filter_eq_nil_iff]
  intro level listed
  simpa using vacant level listed

theorem ladder_updateBreedLevel (levelId : Int) (data : BreedLevelUpdate) :
    ladder (db.updateBreedLevel (fun level => level.id = levelId) data) pairId =
      (ladder db pairId).map (Rung.record levelId data) := by
  have kept : ∀ level : BreedLevel,
      decide ((data.apply level).pairId = pairId) =
        decide (level.pairId = pairId) := fun _ => rfl
  rw [ladder, Db.updateBreedLevel, Serial.filter_modify kept, ladder,
    List.map_map, List.map_map]
  apply List.map_congr_left
  intro level _
  simp only [Function.comp_apply, Rung.record, decide_eq_true_eq]
  split <;> rfl

theorem ladder_createLevel {data : BreedLevelCreate} {buds : List Bud}
    {created bred : Time}
    (known : ∀ bud ∈ db.breedBud.rows, bud.levelId < db.breedLevel.nextId) :
    ladder ((db.createBreedLevel data created).createBreedBuds
        db.breedLevel.nextId buds bred) pairId =
      ladder db pairId ++
        if data.pairId = pairId then
          [⟨data.row created db.breedLevel.nextId,
            Serial.numbered (breedBudRow db.breedLevel.nextId bred)
              db.breedBud.nextId buds⟩]
        else [] := by
  have newBuds : ∀ levelId : Int,
      budsOf ((db.createBreedLevel data created).createBreedBuds
          db.breedLevel.nextId buds bred) levelId =
        budsOf db levelId ++ (Serial.numbered
          (breedBudRow db.breedLevel.nextId bred) db.breedBud.nextId
            buds).filter fun bud => bud.levelId = levelId := by
    intro levelId
    rw [budsOf, Db.createBreedBuds, Serial.rows_createMany, List.filter_append]
    rfl
  have fresh : ∀ bud ∈ Serial.numbered (breedBudRow db.breedLevel.nextId bred)
      db.breedBud.nextId buds, bud.levelId = db.breedLevel.nextId :=
    Serial.forall_numbered
      (fun bud : BreedBud => bud.levelId = db.breedLevel.nextId) fun _ _ => rfl
  have older : ∀ level ∈ db.breedLevel.rows,
      budsOf ((db.createBreedLevel data created).createBreedBuds
        db.breedLevel.nextId buds bred) level.id = budsOf db level.id := by
    intro level listed
    have below := db.breedLevel.bounded level listed
    rw [newBuds, List.filter_eq_nil_iff.mpr, List.append_nil]
    intro bud member
    rw [fresh bud member, decide_eq_true_eq]
    omega
  have newest : budsOf ((db.createBreedLevel data created).createBreedBuds
      db.breedLevel.nextId buds bred) db.breedLevel.nextId =
        Serial.numbered (breedBudRow db.breedLevel.nextId bred)
          db.breedBud.nextId buds := by
    rw [newBuds, List.filter_eq_self.mpr, budsOf, List.filter_eq_nil_iff.mpr,
      List.nil_append]
    · intro bud member
      have below := known bud member
      rw [decide_eq_true_eq]
      omega
    · intro bud member
      exact decide_eq_true (fresh bud member)
  change ((db.breedLevel.rows ++ [data.row created db.breedLevel.nextId]).filter
    _).map _ = _
  rw [List.filter_append, List.map_append]
  congr 1
  · apply List.map_congr_left
    intro level member
    rw [older level (List.mem_filter.mp member).1]
  · by_cases own : data.pairId = pairId
    · rw [if_pos own, List.filter_singleton]
      simp [BreedLevelCreate.row, own, newest]
    · rw [if_neg own]
      simp [BreedLevelCreate.row, own]

end Ladder

theorem evaluable_of_same {app : App} {admitted : Oracle → Prop}
    {db after : Db} {pair : BreedPair} {maleBudId femaleBudId : Int}
    {level : BreedLevel} {buds : List BreedBud}
    (evaluable :
      Evaluable app admitted db pair maleBudId femaleBudId level buds)
    (same : SameBreeding db after) :
    Evaluable app admitted after pair maleBudId femaleBudId level buds := by
  obtain ⟨listed, current, unevaluated, elapsed, chosen, gendered⟩ := evaluable
  rw [← same.breedLevel] at listed
  rw [← same.breedBud] at chosen
  exact ⟨listed, current, unevaluated, elapsed, chosen, gendered⟩

section Choice

variable {app : App} {admitted : Oracle → Prop} {db : Db} {pair : BreedPair}
  {maleBudId femaleBudId levelId : Int} {level : BreedLevel}
  {buds : List BreedBud}

/-- The rows that `evaluateBreedLevel` reads are one male and one female bud. -/
theorem exists_parents
    (chosen : buds.Perm (db.breedBud.rows.filter
      (BreedService.chosenBuds maleBudId femaleBudId levelId)))
    (gendered : BudService.checkBudPairGenders
      (buds.map fun bud => (bud.id, bud.gender)) maleBudId femaleBudId = true) :
    ∃ male ∈ budsOf db levelId, ∃ female ∈ budsOf db levelId,
      male.gender = .M ∧ female.gender = .F ∧ male.id = maleBudId ∧
        female.id = femaleBudId ∧ buds.Perm [male, female] := by
  have member : ∀ bud ∈ buds, bud ∈ budsOf db levelId ∧
      (bud.id = maleBudId ∨ bud.id = femaleBudId) := by
    intro bud present
    obtain ⟨stored, selected⟩ :=
      List.mem_filter.mp (chosen.mem_iff.mp present)
    obtain ⟨named, owner⟩ := decide_eq_true_iff.mp selected
    exact ⟨List.mem_filter.mpr ⟨stored, decide_eq_true owner⟩, named⟩
  have kind : ∀ bud ∈ buds, (bud.id = maleBudId → bud.gender = .M) ∧
      (bud.id = femaleBudId → bud.gender = .F) := by
    intro bud present
    have entry : (bud.id, bud.gender) ∈
        buds.map fun bud => (bud.id, bud.gender) :=
      List.mem_map.mpr ⟨bud, present, rfl⟩
    exact gender_of_genders gendered entry
  have distinct : (buds.map BreedBud.id).Nodup := by
    have permuted := chosen.map BreedBud.id
    apply permuted.nodup_iff.mpr
    exact db.breedBud.nodup.sublist (List.filter_sublist.map _)
  have two : 2 ≤ buds.length := by
    simpa using two_le_length_of_genders gendered
  -- Two different ids among the two that were asked for are both of them.
  have ids : (buds.map BreedBud.id).Perm [maleBudId, femaleBudId] := by
    have within : buds.map BreedBud.id ⊆ [maleBudId, femaleBudId] := by
      intro id listed
      obtain ⟨bud, present, rfl⟩ := List.mem_map.mp listed
      rcases (member bud present).2 with same | same <;> simp [same]
    apply (List.subperm_of_subset distinct within).perm_of_length_le
    simpa using two
  have apart : maleBudId ≠ femaleBudId := by
    have pairwise := ids.nodup_iff.mp distinct
    simpa using pairwise
  obtain ⟨male, malePresent, maleId⟩ :=
    List.mem_map.mp (ids.mem_iff.mpr (List.mem_cons_self))
  obtain ⟨female, femalePresent, femaleId⟩ :=
    List.mem_map.mp (ids.mem_iff.mpr (List.mem_cons_of_mem _ List.mem_cons_self))
  refine ⟨male, (member male malePresent).1, female,
    (member female femalePresent).1, (kind male malePresent).1 maleId,
    (kind female femalePresent).2 femaleId, maleId, femaleId, ?_⟩
  have different : [male, female].Nodup := by
    have unequal : male ≠ female := by
      intro same
      rw [same] at maleId
      exact apart (maleId.symm.trans femaleId)
    simpa using unequal
  have among : [male, female] ⊆ buds := by
    intro bud listed
    rcases List.mem_cons.mp listed with rfl | later
    · exact malePresent
    · rw [List.mem_singleton.mp later]
      exact femalePresent
  apply ((List.subperm_of_subset different among).perm_of_length_le ?_).symm
  have length := ids.length_eq
  rw [List.length_map] at length
  exact length.le

theorem exists_chosen
    (evaluable :
      Evaluable app admitted db pair maleBudId femaleBudId level buds) :
    ∃ male ∈ budsOf db level.id, ∃ female ∈ budsOf db level.id,
      male.gender = .M ∧ female.gender = .F ∧ male.id = maleBudId ∧
        female.id = femaleBudId ∧ buds.Perm [male, female] :=
  exists_parents evaluable.chosen evaluable.gendered

end Choice

namespace Climb

variable {app : App} {rungs : List Rung} {count reached : Int} {rung : Rung}

theorem bounds (climb : Climb app rungs count reached) (member : rung ∈ rungs) :
    1 ≤ rung.level.level ∧ rung.level.level ≤ count := by
  apply mem_upward.mp
  rw [← climb.numbered]
  exact List.mem_map.mpr ⟨rung, member, rfl⟩

theorem eq_of_number (climb : Climb app rungs count reached)
    (member : rung ∈ rungs) {other : Rung} (present : other ∈ rungs)
    (same : rung.level.level = other.level.level) : rung = other := by
  have distinct := upward_nodup count
  rw [← climb.numbered] at distinct
  exact List.inj_on_of_nodup_map distinct member present same

theorem record {data : BreedLevelUpdate} (climb : Climb app rungs count reached)
    (member : rung ∈ rungs) (number : rung.level.level = reached)
    (keyed : ∀ other ∈ rungs, other.level.id = rung.level.id → other = rung)
    (evaluated : (rung.record rung.level.id data).Evaluated app) :
    Climb app (rungs.map (Rung.record rung.level.id data)) count
      (reached + 1) := by
  constructor
  · rw [← climb.numbered, List.map_map]
    apply List.map_congr_left
    intro other _
    exact Rung.record_number
  · intro later listed
    obtain ⟨other, present, rfl⟩ := List.mem_map.mp listed
    exact climb.bred other present
  · intro later listed below
    obtain ⟨other, present, rfl⟩ := List.mem_map.mp listed
    rw [Rung.record_number] at below
    by_cases same : other.level.id = rung.level.id
    · rw [keyed other present same]
      exact evaluated
    · rw [Rung.record_of_ne same]
      apply climb.evaluated other present
      have lower : other.level.level ≠ reached := by
        intro last
        apply same
        rw [climb.eq_of_number present member (last.trans number.symm)]
      omega

theorem append (climb : Climb app rungs count (count + 1))
    (nonnegative : 0 ≤ count) (number : rung.level.level = count + 1)
    (bred : rung.Bred) : Climb app (rungs ++ [rung]) (count + 1) (count + 1) := by
  constructor
  · rw [List.map_append, climb.numbered, upward_succ nonnegative,
      List.map_singleton, number]
  · intro other listed
    rcases List.mem_append.mp listed with old | new
    · exact climb.bred other old
    · rw [List.mem_singleton.mp new]
      exact bred
  · intro other listed below
    rcases List.mem_append.mp listed with old | new
    · exact climb.evaluated other old below
    · rw [List.mem_singleton.mp new, number] at below
      exact absurd below (lt_irrefl _)

end Climb

/-- A pair whose levels up to its counter are all evaluated. -/
structure Ready (app : App) (db : Db) (pair : BreedPair) : Prop extends
    Climb app (ladder db pair.id) pair.currentLevel (pair.currentLevel + 1) where
  nonnegative : 0 ≤ pair.currentLevel
  within : pair.currentLevel ≤ app.config.targetLevel

namespace LevelStructure

variable {app : App} {db after : Db} {pair : BreedPair}

theorem of_ladder (structured : LevelStructure app db pair)
    (same : ladder after pair.id = ladder db pair.id) :
    LevelStructure app after pair := by
  obtain ⟨climb, begun, bounded, waiting⟩ := structured
  rw [← same] at climb waiting
  exact ⟨climb, begun, bounded, waiting⟩

theorem close (structured : LevelStructure app db pair)
    {status : BreedPairStatus} (ended : status ≠ .PAIRED) :
    LevelStructure app db { pair with status := status } where
  toClimb := structured.toClimb
  begun := structured.begun
  bounded := structured.bounded
  waiting paired := absurd paired ended

end LevelStructure

namespace Ready

variable {app : App} {db : Db} {pair : BreedPair}

theorem close (ready : Ready app db pair) (begun : 1 ≤ pair.currentLevel)
    {status : BreedPairStatus} (ended : status ≠ .PAIRED) :
    LevelStructure app db { pair with status := status } := by
  obtain ⟨⟨numbered, bred, evaluated⟩, -, within⟩ := ready
  constructor
  · constructor
    · rw [min_eq_left within]
      exact numbered
    · exact bred
    · intro rung member below
      change rung.level.level < pair.currentLevel at below
      exact evaluated rung member (by omega)
  · exact begun
  · change pair.currentLevel ≤ app.config.targetLevel + 1
    omega
  · exact fun paired => absurd paired ended

end Ready

namespace Structured

variable {app : App} {admitted : Oracle → Prop} {busy : Option Int}
  {db after : Db} {pair : BreedPair}

theorem empty (app : App) : Structured app none .empty where
  pairs _ member := absurd member List.not_mem_nil
  levels _ member := absurd member List.not_mem_nil
  buds _ member := absurd member List.not_mem_nil

theorem of_same (structured : Structured app busy db)
    (same : SameBreeding db after) : Structured app busy after := by
  obtain ⟨pairs, levels, buds⟩ := structured
  constructor
  · intro pair member idle
    rw [same.breedPair] at member
    exact (pairs pair member idle).of_ladder (ladder_of_same same)
  · rw [same.breedPair, same.breedLevel]
    exact levels
  · rw [same.breedBud, same.breedLevel]
    exact buds

theorem close {filter : BreedPair → Bool} {status : BreedPairStatus}
    (structured : Structured app busy db) (ended : status ≠ .PAIRED)
    (covered : ∀ pair ∈ db.breedPair.rows, busy = some pair.id →
      filter pair = true ∧
        LevelStructure app db { pair with status := status }) :
    Structured app none (db.updateBreedPair filter (.status status)) := by
  constructor
  · intro later member _
    rcases Serial.of_mem_modify member with
      ⟨old, present, -, rfl⟩ | ⟨present, passed⟩
    · by_cases chosen : busy = some old.id
      · exact (covered old present chosen).2.of_ladder rfl
      · exact ((structured.pairs old present chosen).close ended).of_ladder rfl
    · refine (structured.pairs later present fun chosen => ?_).of_ladder rfl
      rw [(covered later present chosen).1] at passed
      cases passed
  · exact structured.levels
  · exact structured.buds

theorem insert {data : BreedPairCreate} (structured : Structured app none db)
    (now : Time) :
    Structured app (some db.breedPair.nextId) (db.createBreedPair data now) := by
  constructor
  · intro later member idle
    rcases mem_createBreedPair.mp member with old | rfl
    · exact (structured.pairs later old (Option.some_ne_none _).symm).of_ladder
        rfl
    · exact absurd rfl idle
  · intro level listed
    have below := structured.levels level listed
    change level.pairId < db.breedPair.nextId + 1
    omega
  · exact structured.buds

theorem ready_insert (structured : Structured app none db)
    (data : BreedPairCreate) (now : Time) :
    Ready app (db.createBreedPair data now) (data.row now db.breedPair.nextId) := by
  have vacant : ladder (db.createBreedPair data now) db.breedPair.nextId = [] := by
    apply ladder_eq_nil
    intro level listed
    exact (structured.levels level listed).ne
  have no_rung : ∀ rung, rung ∉ ladder (db.createBreedPair data now)
      (data.row now db.breedPair.nextId).id := by
    intro rung member
    rw [BreedPairCreate.row_id, vacant] at member
    exact absurd member List.not_mem_nil
  constructor
  · constructor
    · rw [BreedPairCreate.row_id, vacant]
      rfl
    · exact fun rung member => absurd member (no_rung rung)
    · exact fun rung member => absurd member (no_rung rung)
  · exact le_rfl
  · exact app.config.targetLevel_pos.le

section Evaluate

variable {maleBudId femaleBudId : Int} {level : BreedLevel}
  {buds : List BreedBud}

theorem ready_evaluate (structured : LevelStructure app db pair)
    (evaluable :
      Evaluable app admitted db pair maleBudId femaleBudId level buds) :
    Ready app (db.evaluateLevel app level buds maleBudId femaleBudId) pair := by
  obtain ⟨owner, number⟩ := decide_eq_true_iff.mp evaluable.current
  have member : ⟨level, budsOf db level.id⟩ ∈ ladder db pair.id :=
    mem_ladder.mpr ⟨evaluable.listed, owner, rfl⟩
  have within : pair.currentLevel ≤ app.config.targetLevel := by
    have bound := (structured.toClimb.bounds member).2
    change level.level ≤ _ at bound
    rw [number] at bound
    exact bound.trans (min_le_right _ _)
  have climb := structured.toClimb
  rw [min_eq_left within] at climb
  refine ⟨?_, by have begun := structured.begun; omega, within⟩
  rw [Db.evaluateLevel, ladder_updateBreedLevel]
  apply climb.record member number
  · intro other present same
    obtain ⟨listed, -, own⟩ := mem_ladder.mp present
    obtain ⟨row, ownBuds⟩ := other
    obtain rfl := db.breedLevel.eq_of_key_eq listed evaluable.listed same
    rw [Rung.mk.injEq]
    exact ⟨rfl, own⟩
  · obtain ⟨male, maleMember, female, femaleMember, isMale, isFemale, rfl, rfl,
      chosen⟩ := exists_chosen evaluable
    refine ⟨male, maleMember, female, femaleMember, isMale, isFemale, ?_, ?_,
      ?_⟩
    · rw [Rung.record, if_pos rfl]
      rfl
    · rw [Rung.record, if_pos rfl]
      rfl
    · have total : (BreedService.evaluationOf app buds).bonusRate =
          breedRate app male + breedRate app female := by
        have permuted := (chosen.map (breedRate app)).sum_eq
        change (buds.map (breedRate app)).sum = _
        rw [permuted]
        simp
      rw [Rung.record, if_pos rfl]
      exact total

theorem evaluate (structured : Structured app none db)
    (evaluable :
      Evaluable app admitted db pair maleBudId femaleBudId level buds) :
    Structured app (some pair.id)
      (db.evaluateLevel app level buds maleBudId femaleBudId) := by
  obtain ⟨owner, -⟩ := decide_eq_true_iff.mp evaluable.current
  constructor
  · intro other member idle
    apply (structured.pairs other member
      (Option.some_ne_none _).symm).of_ladder
    rw [Db.evaluateLevel, ladder_updateBreedLevel]
    conv_rhs => rw [← List.map_id (ladder db other.id)]
    apply List.map_congr_left
    intro rung present
    obtain ⟨listed, own, -⟩ := mem_ladder.mp present
    apply Rung.record_of_ne
    intro same
    obtain rfl := db.breedLevel.eq_of_key_eq listed evaluable.listed same
    apply idle
    rw [← owner, own]
  · intro later member
    obtain ⟨old, present, -, same, -⟩ := exists_evaluateLevel member
    rw [same]
    exact structured.levels old present
  · exact structured.buds

end Evaluate

section Start

theorem startBeyond (structured : Structured app (some pair.id) db)
    (listed : pair ∈ db.breedPair.rows) (ready : Ready app db pair)
    (past : app.config.targetLevel < pair.currentLevel + 1) :
    Structured app none (db.updateBreedPair (fun other => other.id = pair.id)
      (.currentLevel (pair.currentLevel + 1))) := by
  obtain ⟨climb, nonnegative, within⟩ := ready
  constructor
  · intro later member _
    rcases OnTrack.mem_counter listed member with ⟨old, apart⟩ | rfl
    · have idle : some pair.id ≠ some later.id :=
        fun same => apart (Option.some.inj same).symm
      exact (structured.pairs later old idle).of_ladder rfl
    · constructor
      · have count : min (pair.currentLevel + 1) app.config.targetLevel =
            pair.currentLevel := by omega
        rw [count]
        exact climb
      · change 1 ≤ pair.currentLevel + 1
        omega
      · change pair.currentLevel + 1 ≤ app.config.targetLevel + 1
        omega
      · intro _ rung member number
        have below := (climb.bounds member).2
        change rung.level.level = pair.currentLevel + 1 at number
        omega
  · exact structured.levels
  · exact structured.buds

theorem startWithin {buds : List Bud} {created bred : Time}
    (structured : Structured app (some pair.id) db)
    (listed : pair ∈ db.breedPair.rows) (ready : Ready app db pair)
    (reachable : pair.currentLevel + 1 ≤ app.config.targetLevel)
    (genders : buds.map Bud.gender = [.M, .F, .F, .M]) :
    Structured app none (((db.createBreedLevel
      { level := pair.currentLevel + 1, pairId := pair.id, bonusRate := 0 }
      created).createBreedBuds db.breedLevel.nextId buds
        bred).updateBreedPair (fun other => other.id = pair.id)
          (.currentLevel (pair.currentLevel + 1))) := by
  obtain ⟨climb, nonnegative, -⟩ := ready
  constructor
  · intro later member _
    rcases OnTrack.mem_counter listed member with ⟨old, apart⟩ | rfl
    · have idle : some pair.id ≠ some later.id :=
        fun same => apart (Option.some.inj same).symm
      apply (structured.pairs later old idle).of_ladder
      refine (ladder_createLevel structured.buds).trans ?_
      rw [if_neg (Ne.symm apart), List.append_nil]
    · have rungs := @ladder_createLevel db pair.id
        { level := pair.currentLevel + 1, pairId := pair.id, bonusRate := 0 }
        buds created bred structured.buds
      rw [if_pos rfl] at rungs
      have bredRung : ∀ first : Int, (Serial.numbered
          (breedBudRow db.breedLevel.nextId bred) first buds).map
            (fun bud => bud.gender) = [.M, .F, .F, .M] := by
        intro first
        rw [← genders]
        apply Serial.map_numbered
        exact fun _ _ => rfl
      constructor
      · have count : min (pair.currentLevel + 1) app.config.targetLevel =
            pair.currentLevel + 1 := by omega
        rw [count]
        change Climb app (ladder _ pair.id) _ _
        refine rungs ▸ climb.append nonnegative rfl (bredRung _)
      · change 1 ≤ pair.currentLevel + 1
        omega
      · change pair.currentLevel + 1 ≤ app.config.targetLevel + 1
        omega
      · intro _ rung member number
        change rung ∈ ladder ((db.createBreedLevel _ created).createBreedBuds
          db.breedLevel.nextId buds bred) pair.id at member
        rw [rungs] at member
        rcases List.mem_append.mp member with old | new
        · have below := (climb.bounds old).2
          change rung.level.level = pair.currentLevel + 1 at number
          omega
        · rw [List.mem_singleton.mp new]
          exact ⟨rfl, rfl, rfl⟩
  · intro level member
    rcases List.mem_append.mp member with old | new
    · exact structured.levels level old
    · rw [List.mem_singleton.mp new]
      exact db.breedPair.bounded pair listed
  · intro bud member
    rw [Db.updateBreedPair, Db.createBreedBuds, Serial.rows_createMany] at member
    change bud.levelId < db.breedLevel.nextId + 1
    rcases List.mem_append.mp member with old | new
    · have below := structured.buds bud old
      omega
    · have own := Serial.forall_numbered
        (fun bud : BreedBud => bud.levelId = db.breedLevel.nextId)
        (fun _ _ => rfl) bud new
      change bud.levelId = db.breedLevel.nextId at own
      omega

theorem start (structured : Structured app (some pair.id) db)
    (listed : pair ∈ db.breedPair.rows) (ready : Ready app db pair)
    (started : LevelStarted app db pair after) : Structured app none after := by
  cases started with
  | beyond past => exact structured.startBeyond listed ready past
  | within reachable free buds genders created bred =>
      exact structured.startWithin listed ready reachable genders

end Start

theorem bred {request : Request} (structured : Structured app none db)
    (bred : Bred app admitted db request after) : Structured app none after := by
  cases bred with
  | kept same => exact structured.of_same same
  | closed ended same =>
      refine (structured.close ended ?_).of_same same
      exact fun _ _ busy => absurd busy.symm (Option.some_ne_none _)
  | @created req body rate now base _ valid same started =>
      have inserted : Structured app (some db.breedPair.nextId) base :=
        (structured.insert now).of_same same
      have ready : Ready app base
          ((pairData req body rate).row now db.breedPair.nextId) := by
        have climb := structured.ready_insert (pairData req body rate) now
        refine ⟨?_, climb.nonnegative, climb.within⟩
        rw [ladder_of_same same]
        exact climb.toClimb
      refine inserted.start ?_ ready started
      rw [same.breedPair]
      exact List.mem_append_right _ (List.mem_singleton_self _)
  | @raised req body pair paid _ level buds granted charged evaluable started =>
      have same := sameBreeding_paid charged
      have current : Evaluable app admitted paid pair body.maleBudId
          body.femaleBudId level buds := evaluable_of_same evaluable same
      have charged := structured.of_same same
      have listed : pair ∈ paid.breedPair.rows := by
        rw [same.breedPair]
        exact granted.listed
      have idle : (none : Option Int) ≠ some pair.id :=
        (Option.some_ne_none _).symm
      exact (charged.evaluate current).start listed
        (ready_evaluate (charged.pairs pair listed idle) current) started
  | @finalized req body pair level buds status _ granted ended same =>
      have idle : (none : Option Int) ≠ some pair.id :=
        (Option.some_ne_none _).symm
      have before := structured.pairs pair granted.listed idle
      have ready := ready_evaluate before granted.evaluable
      refine ((structured.evaluate granted.evaluable).close ended ?_).of_same
        ⟨same.breedPair, same.breedLevel, same.breedBud⟩
      intro other listed busy
      have id : other.id = pair.id := (Option.some.inj busy).symm
      refine ⟨decide_eq_true id, ?_⟩
      obtain rfl := db.breedPair.eq_of_key_eq listed granted.listed id
      exact ready.close before.begun ended

end Structured

/-- What holds between any two requests of a run. -/
structure Orderly (app : App) (db : Db) : Prop where
  consistent : (Occupancy.board db).Consistent
  onTrack : OnTrack app none db

namespace Orderly

variable {app : App} {admitted : Oracle → Prop} {db after : Db}
  {exchange : Exchange}

theorem empty (app : App) : Orderly app .empty where
  consistent := by
    constructor
    · exact fun id couple active => absurd active (Option.some_ne_none _).symm
    · exact fun id other couple rival active =>
        absurd active (Option.some_ne_none _).symm
    · exact fun key place present => absurd present (Option.some_ne_none _).symm
  onTrack := .empty app

theorem housed (orderly : Orderly app db) : Housed db := by
  have tables := Occupancy.tablesConsistent_of_board orderly.consistent
  intro pair listed paired
  obtain ⟨slot, stored, same, -⟩ := tables.housed pair listed paired
  exact ⟨slot, stored, same⟩

theorem bred (orderly : Orderly app db)
    (handles : Handles app admitted db exchange after) :
    Bred app admitted db exchange.request after :=
  bred_of_outcome orderly.onTrack orderly.housed (outcome_of_handles handles)

theorem step (orderly : Orderly app db)
    (handles : Handles app admitted db exchange after) : Orderly app after where
  consistent :=
    (Occupancy.moves_of_outcome (fun _ _ _ _ => trivial)
      (outcome_of_handles handles)).consistent orderly.consistent
  onTrack := orderly.onTrack.bred (orderly.bred handles)

end Orderly

section Runs

variable {app : App} {admitted : Oracle → Prop} {final : Db}
  {steps : List (Transition Db Exchange)}

theorem orderly_of_run (run : Run app admitted .empty steps final) :
    ∀ state ∈ states .empty steps, Orderly app state :=
  run.forall_states (.empty app) fun _ _ orderly handles => orderly.step handles

/-- In every state of a run, the levels of every pair match its counter. -/
theorem levels_structured (run : Run app admitted .empty steps final) :
    ∀ state ∈ states .empty steps, ∀ pair ∈ state.breedPair.rows,
      LevelStructure app state pair := by
  have structured : ∀ state ∈ states .empty steps,
      Orderly app state ∧ Structured app none state := by
    refine run.forall_states ⟨.empty app, .empty app⟩ ?_
    intro step _ before handles
    obtain ⟨orderly, structured⟩ := before
    exact ⟨orderly.step handles, structured.bred (orderly.bred handles)⟩
  intro state reached pair listed
  exact (structured state reached).2.pairs pair listed
    (Option.some_ne_none _).symm

theorem levels_structured_breeding :
    ∃ pair ∈ (breedingAfter 7).breedPair.rows, pair.currentLevel = 5 ∧
      LevelStructure (liveApp .goerli) (breedingAfter 7) pair := by
  have bred : ∃ pair ∈ (breedingAfter 7).breedPair.rows,
      pair.currentLevel = 5 := by
    rw [breedingAfter_succ 6]
    decide +kernel
  have run : Run (liveApp .goerli) (fun _ => True) .empty _ (breedingAfter 7) :=
    run_breedingAfter (fun _ => trivial) 7
  obtain ⟨pair, listed, reached⟩ := bred
  exact ⟨pair, listed, reached,
    levels_structured run _ run.final_mem_states pair listed⟩

end Runs

end BudBreeding.Lifecycle
