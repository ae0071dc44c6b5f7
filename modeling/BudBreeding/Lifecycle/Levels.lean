import BudBreeding.Backend.Runs

namespace BudBreeding.Lifecycle

open Data Program Backend

/-! The levels of the pairs that are breeding. -/

/-- The current level of a pair waits for two of its buds. -/
def LevelOpen (db : Db) (pair : BreedPair) : Prop :=
  ∃ level ∈ db.breedLevel.rows,
    BreedService.currentLevelOf pair level = true ∧ level.bonusRate = 0 ∧
      ∀ gender, ∃ bud ∈ db.breedBud.rows,
        bud.levelId = level.id ∧ bud.gender = gender

/-- Every breeding pair but the `busy` one has an open level, and no level row
runs ahead of its pair. -/
structure OnTrack (app : App) (busy : Option Int) (db : Db) : Prop where
  opened : ∀ pair ∈ db.breedPair.rows, pair.status = .PAIRED →
    busy ≠ some pair.id → pair.currentLevel ≤ app.config.targetLevel →
    LevelOpen db pair
  valid : ∀ pair ∈ db.breedPair.rows,
    ValidBudId pair.maleBudId ∧ ValidBudId pair.femaleBudId
  reached : ∀ level ∈ db.breedLevel.rows, ∀ pair ∈ db.breedPair.rows,
    level.pairId = pair.id → level.level ≤ pair.currentLevel
  known : ∀ level ∈ db.breedLevel.rows, level.pairId < db.breedPair.nextId
  single : ∀ first ∈ db.breedLevel.rows, ∀ second ∈ db.breedLevel.rows,
    first.pairId = second.pairId → first.level = second.level → first = second

/-- Two databases with the same pairs, levels and level buds. -/
structure SameBreeding (before after : Db) : Prop where
  breedPair : after.breedPair = before.breedPair
  breedLevel : after.breedLevel = before.breedLevel
  breedBud : after.breedBud = before.breedBud

namespace SameBreeding

variable {before after : Db}

theorem refl (db : Db) : SameBreeding db db :=
  ⟨rfl, rfl, rfl⟩

theorem of_sameBut {name : Option TableName} (same : Db.SameBut name before after)
    (apart : name ≠ some .breedPair ∧ name ≠ some .breedLevel ∧
      name ≠ some .breedBud) : SameBreeding before after :=
  ⟨same.breedPair apart.1, same.breedLevel apart.2.1, same.breedBud apart.2.2⟩

theorem trans {last : Db} (first : SameBreeding before after)
    (second : SameBreeding after last) : SameBreeding before last :=
  ⟨second.breedPair.trans first.breedPair,
    second.breedLevel.trans first.breedLevel,
    second.breedBud.trans first.breedBud⟩

end SameBreeding

section Rows

variable {app : App} {db : Db} {pair : BreedPair}

theorem mem_createBreedPair {data : BreedPairCreate} {now : Time} :
    pair ∈ (db.createBreedPair data now).breedPair.rows ↔
      pair ∈ db.breedPair.rows ∨ pair = data.row now db.breedPair.nextId :=
  List.mem_append.trans (or_congr Iff.rfl List.mem_singleton)

theorem exists_updateStatus {filter : BreedPair → Bool} {status : BreedPairStatus}
    (listed : pair ∈ (db.updateBreedPair filter (.status status)).breedPair.rows) :
    ∃ old ∈ db.breedPair.rows, pair = { old with status := pair.status } := by
  rcases Serial.of_mem_modify listed with ⟨old, present, -, rfl⟩ | ⟨present, -⟩
  · exact ⟨old, present, rfl⟩
  · exact ⟨pair, present, rfl⟩

theorem exists_evaluateLevel {level row : BreedLevel} {buds : List BreedBud}
    {maleBudId femaleBudId : Int}
    (listed : row ∈ (db.evaluateLevel app level buds maleBudId
      femaleBudId).breedLevel.rows) :
    ∃ old ∈ db.breedLevel.rows, row.id = old.id ∧ row.pairId = old.pairId ∧
      row.level = old.level ∧ row.createdAt = old.createdAt := by
  rcases Serial.of_mem_modify listed with ⟨old, present, -, rfl⟩ | ⟨present, -⟩
  · exact ⟨old, present, rfl, rfl, rfl, rfl⟩
  · exact ⟨row, present, rfl, rfl, rfl, rfl⟩

end Rows

namespace OnTrack

variable {app : App} {busy : Option Int} {db after : Db} {pair : BreedPair}

theorem empty (app : App) : OnTrack app none .empty where
  opened _ member := absurd member List.not_mem_nil
  valid _ member := absurd member List.not_mem_nil
  reached _ member := absurd member List.not_mem_nil
  known _ member := absurd member List.not_mem_nil
  single _ member := absurd member List.not_mem_nil

theorem of_same (onTrack : OnTrack app busy db) (same : SameBreeding db after) :
    OnTrack app busy after := by
  obtain ⟨pairs, levels, buds⟩ := same
  constructor
  · intro pair member
    rw [pairs] at member
    rw [LevelOpen, levels, buds]
    exact onTrack.opened pair member
  · rw [pairs]
    exact onTrack.valid
  · rw [pairs, levels]
    exact onTrack.reached
  · rw [pairs, levels]
    exact onTrack.known
  · rw [levels]
    exact onTrack.single

theorem close {filter : BreedPair → Bool} {status : BreedPairStatus}
    (onTrack : OnTrack app busy db) (ended : status ≠ .PAIRED)
    (covered : ∀ pair ∈ db.breedPair.rows, busy = some pair.id →
      filter pair = true) :
    OnTrack app none (db.updateBreedPair filter (.status status)) := by
  constructor
  · intro later member paired _ below
    rcases Serial.of_mem_modify member with
      ⟨old, -, -, rfl⟩ | ⟨present, unchosen⟩
    · exact absurd paired ended
    · refine onTrack.opened later present paired (fun same => ?_) below
      rw [covered later present same] at unchosen
      cases unchosen
  · intro later member
    obtain ⟨old, present, same⟩ := exists_updateStatus member
    rw [same]
    exact onTrack.valid old present
  · intro level listed later member pairId
    obtain ⟨old, present, same⟩ := exists_updateStatus member
    rw [same] at pairId ⊢
    exact onTrack.reached level listed old present pairId
  · exact onTrack.known
  · exact onTrack.single

theorem evaluate {level : BreedLevel} {buds : List BreedBud}
    {maleBudId femaleBudId : Int} (onTrack : OnTrack app none db)
    (listed : level ∈ db.breedLevel.rows)
    (current : BreedService.currentLevelOf pair level = true) :
    OnTrack app (some pair.id)
      (db.evaluateLevel app level buds maleBudId femaleBudId) := by
  have owner : level.pairId = pair.id := (decide_eq_true_iff.mp current).1
  constructor
  · intro other member paired idle below
    obtain ⟨own, present, its, unevaluated, bred⟩ :=
      onTrack.opened other member paired (by simp) below
    have apart : own.id ≠ level.id := by
      intro same
      obtain rfl := db.breedLevel.eq_of_key_eq present listed same
      apply idle
      rw [← owner, (decide_eq_true_iff.mp its).1]
    refine ⟨own, ?_, its, unevaluated, bred⟩
    refine Serial.mem_modify.mpr ⟨own, present, ?_⟩
    rw [if_neg (by simpa using apart)]
  · exact onTrack.valid
  · intro later member other present pairId
    obtain ⟨old, listed, -, samePair, sameLevel, -⟩ := exists_evaluateLevel member
    rw [sameLevel]
    exact onTrack.reached old listed other present (samePair.symm.trans pairId)
  · intro later member
    obtain ⟨old, listed, -, samePair, -⟩ := exists_evaluateLevel member
    rw [samePair]
    exact onTrack.known old listed
  · intro first firstMember second secondMember samePair sameLevel
    obtain ⟨old, listed, id, pairId, level, -⟩ := exists_evaluateLevel firstMember
    obtain ⟨other, present, otherId, otherPairId, otherLevel, -⟩ :=
      exists_evaluateLevel secondMember
    have same := onTrack.single old listed other present
      (by rw [← pairId, ← otherPairId, samePair])
      (by rw [← level, ← otherLevel, sameLevel])
    apply (db.evaluateLevel app _ buds maleBudId
      femaleBudId).breedLevel.eq_of_key_eq firstMember secondMember
    rw [id, otherId, same]

theorem insert {data : BreedPairCreate} (onTrack : OnTrack app none db)
    (valid : ValidBudId data.maleBudId ∧ ValidBudId data.femaleBudId)
    (now : Time) :
    OnTrack app (some db.breedPair.nextId) (db.createBreedPair data now) := by
  constructor
  · intro pair member paired idle below
    rcases mem_createBreedPair.mp member with old | rfl
    · exact onTrack.opened pair old paired (by simp) below
    · exact absurd rfl idle
  · intro pair member
    rcases mem_createBreedPair.mp member with old | rfl
    · exact onTrack.valid pair old
    · exact valid
  · intro level listed pair member pairId
    rcases mem_createBreedPair.mp member with old | rfl
    · exact onTrack.reached level listed pair old pairId
    · have bound := onTrack.known level listed
      rw [pairId] at bound
      exact absurd bound (lt_irrefl _)
  · intro level listed
    have bound := onTrack.known level listed
    change level.pairId < db.breedPair.nextId + 1
    omega
  · exact onTrack.single

theorem mem_counter {value : Int} {later : BreedPair}
    (listed : pair ∈ db.breedPair.rows)
    (member : later ∈ (db.updateBreedPair (fun other => other.id = pair.id)
      (.currentLevel value)).breedPair.rows) :
    (later ∈ db.breedPair.rows ∧ later.id ≠ pair.id) ∨
      later = { pair with currentLevel := value } := by
  rcases Serial.of_mem_modify member with
    ⟨old, present, chosen, rfl⟩ | ⟨present, passed⟩
  · obtain rfl := db.breedPair.eq_of_key_eq present listed
      (of_decide_eq_true chosen)
    exact .inr rfl
  · exact .inl ⟨present, of_decide_eq_false passed⟩

theorem exists_gender {buds : List Bud}
    (genders : buds.map Bud.gender = [.M, .F, .F, .M]) (gender : BudGender) :
    ∃ bud ∈ buds, bud.gender = gender := by
  apply List.mem_map.mp
  rw [genders]
  cases gender <;> simp

theorem mem_createBreedBuds {levelId : Int} {buds : List Bud} {now : Time}
    {bud : BreedBud} (stored : bud ∈ db.breedBud.rows) :
    bud ∈ (db.createBreedBuds levelId buds now).breedBud.rows := by
  rw [Db.createBreedBuds, Serial.rows_createMany]
  exact List.mem_append_left _ stored

theorem exists_createBreedBuds {levelId : Int} {buds : List Bud} {bud : Bud}
    (member : bud ∈ buds) (now : Time) :
    ∃ row ∈ (db.createBreedBuds levelId buds now).breedBud.rows,
      row.levelId = levelId ∧ row.gender = bud.gender := by
  obtain ⟨position, present⟩ := Serial.exists_numbered member
  refine ⟨breedBudRow levelId now bud position, ?_, rfl, rfl⟩
  rw [Db.createBreedBuds, Serial.rows_createMany]
  exact List.mem_append_right _ present

theorem startBeyond (onTrack : OnTrack app (some pair.id) db)
    (listed : pair ∈ db.breedPair.rows)
    (past : app.config.targetLevel < pair.currentLevel + 1) :
    OnTrack app none (db.updateBreedPair (fun other => other.id = pair.id)
      (.currentLevel (pair.currentLevel + 1))) := by
  constructor
  · intro later member paired _ below
    rcases mem_counter listed member with ⟨old, apart⟩ | rfl
    · exact onTrack.opened later old paired (by simpa using Ne.symm apart) below
    · exact absurd below (not_le.mpr past)
  · intro later member
    rcases mem_counter listed member with ⟨old, -⟩ | rfl
    · exact onTrack.valid later old
    · exact onTrack.valid pair listed
  · intro level present later member pairId
    rcases mem_counter listed member with ⟨old, -⟩ | rfl
    · exact onTrack.reached level present later old pairId
    · have bound := onTrack.reached level present pair listed pairId
      change level.level ≤ pair.currentLevel + 1
      omega
  · exact onTrack.known
  · exact onTrack.single

theorem startWithin {buds : List Bud} {created bred : Time}
    (onTrack : OnTrack app (some pair.id) db)
    (listed : pair ∈ db.breedPair.rows)
    (free : ∀ other ∈ db.breedLevel.rows, other.pairId = pair.id →
      other.level ≠ pair.currentLevel + 1)
    (genders : buds.map Bud.gender = [.M, .F, .F, .M]) :
    OnTrack app none (((db.createBreedLevel
      { level := pair.currentLevel + 1, pairId := pair.id, bonusRate := 0 }
      created).createBreedBuds db.breedLevel.nextId buds
        bred).updateBreedPair (fun other => other.id = pair.id)
          (.currentLevel (pair.currentLevel + 1))) := by
  constructor
  · intro later member paired _ below
    rcases mem_counter listed member with ⟨old, apart⟩ | rfl
    · obtain ⟨level, present, its, unevaluated, both⟩ :=
        onTrack.opened later old paired (by simpa using Ne.symm apart) below
      refine ⟨level, List.mem_append_left _ present, its, unevaluated, ?_⟩
      intro gender
      obtain ⟨bud, stored, levelId, same⟩ := both gender
      exact ⟨bud, mem_createBreedBuds stored, levelId, same⟩
    · refine ⟨_, List.mem_append_right _ (List.mem_singleton_self _), ?_, rfl,
        ?_⟩
      · exact decide_eq_true ⟨rfl, rfl⟩
      · intro gender
        obtain ⟨bud, member, same⟩ := exists_gender genders gender
        obtain ⟨row, stored, levelId, kind⟩ := exists_createBreedBuds member bred
        exact ⟨row, stored, levelId, kind.trans same⟩
  · intro later member
    rcases mem_counter listed member with ⟨old, -⟩ | rfl
    · exact onTrack.valid later old
    · exact onTrack.valid pair listed
  · intro level present later member pairId
    rcases List.mem_append.mp present with old | new
    · rcases mem_counter listed member with ⟨before, -⟩ | rfl
      · exact onTrack.reached level old later before pairId
      · have bound := onTrack.reached level old pair listed pairId
        change level.level ≤ pair.currentLevel + 1
        omega
    · rw [List.mem_singleton.mp new] at pairId ⊢
      rcases mem_counter listed member with ⟨-, apart⟩ | rfl
      · exact absurd pairId.symm apart
      · exact le_rfl
  · intro level present
    rcases List.mem_append.mp present with old | new
    · exact onTrack.known level old
    · rw [List.mem_singleton.mp new]
      exact db.breedPair.bounded pair listed
  · intro first firstPresent second secondPresent samePair sameLevel
    rcases List.mem_append.mp firstPresent with firstOld | firstNew
    · rcases List.mem_append.mp secondPresent with secondOld | secondNew
      · exact onTrack.single first firstOld second secondOld samePair sameLevel
      · rw [List.mem_singleton.mp secondNew] at samePair sameLevel
        exact absurd sameLevel (free first firstOld samePair)
    · rcases List.mem_append.mp secondPresent with secondOld | secondNew
      · rw [List.mem_singleton.mp firstNew] at samePair sameLevel
        exact absurd sameLevel.symm (free second secondOld samePair.symm)
      · rw [List.mem_singleton.mp firstNew, List.mem_singleton.mp secondNew]

/-- A new level opens for the pair that was busy, unless it is past the target. -/
theorem start (onTrack : OnTrack app (some pair.id) db)
    (listed : pair ∈ db.breedPair.rows)
    (started : LevelStarted app db pair after) : OnTrack app none after := by
  cases started with
  | beyond past => exact onTrack.startBeyond listed past
  | within reachable free buds genders created bred =>
      exact onTrack.startWithin listed free genders

end OnTrack

section Requests

variable {app : App} {admitted : Oracle → Prop} {db after : Db}
  {request : Request}

/-- What a request does to the pairs that are breeding and to their levels. -/
inductive Bred (app : App) (admitted : Oracle → Prop) (db : Db) :
    Request → Db → Prop
  | kept {request : Request} {after : Db} (same : SameBreeding db after) :
      Bred app admitted db request after
  | closed {request : Request} {filter : BreedPair → Bool}
      {status : BreedPairStatus} {after : Db} (ended : status ≠ .PAIRED)
      (same : SameBreeding (db.updateBreedPair filter (.status status)) after) :
      Bred app admitted db request after
  | created {req : Req} {body : CreateBreedPairDto} {rate : Rat} {now : Time}
      {base after : Db}
      (valid : ValidBudId body.maleBudId ∧ ValidBudId body.femaleBudId)
      (same : SameBreeding (db.createBreedPair (pairData req body rate) now)
        base)
      (started : LevelStarted app base
        ((pairData req body rate).row now db.breedPair.nextId) after) :
      Bred app admitted db (.createPair req body) after
  | raised {req : Req} {body : BreedUpDto} {pair : BreedPair} {paid after : Db}
      {level : BreedLevel} {buds : List BreedBud}
      (granted : LevelGranted app admitted db req body pair)
      (charged : db.Paid req.user app.config.breedingPointPerLevel paid)
      (evaluable : Evaluable app admitted db pair body.maleBudId
        body.femaleBudId level buds)
      (started : LevelStarted app
        (paid.evaluateLevel app level buds body.maleBudId body.femaleBudId)
        pair after) :
      Bred app admitted db (.levelBreedingUp req body) after
  | finalized {req : Req} {body : BreedFinalizeDto} {pair : BreedPair}
      {level : BreedLevel} {buds : List BreedBud} {status : BreedPairStatus}
      {after : Db}
      (granted : FinalizeGranted app admitted db req body pair level buds)
      (ended : status ≠ .PAIRED)
      (same : SameBreeding ((db.evaluateLevel app level buds body.maleBudId
        body.femaleBudId).closePair pair status) after) :
      Bred app admitted db (.finalizeBreeding req body) after

/-- The slots of the pairs that are breeding have not been lost. -/
def Housed (db : Db) : Prop :=
  ∀ pair ∈ db.breedPair.rows, pair.status = .PAIRED →
    ∃ slot ∈ db.breedSlot.rows, slot.id = pair.slotId

theorem sameBreeding_upgradeSlot (db : Db) (body : CreateBreedPairDto)
    (slot : BreedSlot) : SameBreeding db (db.upgradeSlot body slot) :=
  .of_sameBut (db.sameBut_upgradeSlot body slot) (by decide)

theorem sameBreeding_insertPair {body : CreateBreedPairDto} {slot : BreedSlot}
    (data : BreedPairCreate) (now : Time) :
    SameBreeding (db.createBreedPair data now)
      ((db.upgradeSlot body slot).insertPair data now) := by
  obtain ⟨pairs, levels, buds⟩ := sameBreeding_upgradeSlot db body slot
  constructor
  · change (Db.createBreedPair (db.upgradeSlot body slot) data now).breedPair = _
    rw [Db.createBreedPair, pairs]
    rfl
  · exact levels
  · exact buds

theorem sameBreeding_addSlots (db : Db) (existing : BreedSlot → Bool)
    (slots : List BreedSlotCreate) :
    SameBreeding db (db.addSlots existing slots) :=
  .of_sameBut (Db.sameBut_addSlots _ _ _) (by decide)

theorem sameBreeding_paid {address : Address} {amount : Int} {paid : Db}
    (charged : db.Paid address amount paid) : SameBreeding db paid :=
  .of_sameBut charged.sameBut (by decide)

/-- Level rows of a pair that is on track do not get in its way. -/
theorem bred_of_outcome {response : Except Failure Response}
    (onTrack : OnTrack app none db) (housed : Housed db)
    (outcome : Outcome app admitted db request response after) :
    Bred app admitted db request after := by
  have failed : BreedPairStatus.FAILED ≠ .PAIRED := by decide
  have canceled : BreedPairStatus.CANCELED ≠ .PAIRED := by decide
  have completed : BreedPairStatus.COMPLETED ≠ .PAIRED := by decide
  cases outcome with
  | @loggedIn body =>
      apply Bred.kept
      have added := sameBreeding_addSlots db
        (LandService.freeLandSlot body.address body.gameKeyId)
        (LandService.newSlots body.address (some body.gameKeyId) none)
      exact added.trans (.of_sameBut (Db.sameBut_upsertUser _ _ _ _) (by decide))
  | slotOpened listed own closed charged =>
      exact .kept ((sameBreeding_paid charged).trans ⟨rfl, rfl, rfl⟩)
  | slotConverted listed own outdoor charged =>
      exact .kept ((sameBreeding_paid charged).trans ⟨rfl, rfl, rfl⟩)
  | landPurchased charged =>
      exact .kept
        ((sameBreeding_paid charged).trans (sameBreeding_addSlots _ _ _))
  | othersPairsFailed selected => exact .closed failed ⟨rfl, rfl, rfl⟩
  | ownersPairsFailed selected => exact .closed failed ⟨rfl, rfl, rfl⟩
  | keySlotsDeleted deletable selected => exact .closed failed ⟨rfl, rfl, rfl⟩
  | pairRejected granted => exact .kept (sameBreeding_upgradeSlot _ _ _)
  | levelClashed granted taken samePair sameLevel =>
      have bound := onTrack.known _ taken
      rw [samePair] at bound
      exact absurd bound (lt_irrefl _)
  | pairCreated granted started =>
      exact .created granted.valid (sameBreeding_insertPair _ _) started
  | levelCharged granted charged => exact .kept (sameBreeding_paid charged)
  | levelEvaluated granted charged evaluable taken samePair sameLevel =>
      have bound := onTrack.reached _ taken _ granted.listed samePair
      omega
  | leveledUp granted charged evaluable started =>
      exact .raised granted charged evaluable started
  | pairCanceled listed own answered => exact .closed canceled ⟨rfl, rfl, rfl⟩
  | finalizeBlocked granted slotless =>
      obtain ⟨slot, listed, same⟩ := housed _ granted.listed
        (paired_of_ownPair granted.own)
      exact absurd same (Table.find_eq_none.mp slotless slot listed)
  | finalizeLost granted => exact .finalized granted failed (.refl _)
  | finalizeUnsigned granted next =>
      have opened : SameBreeding _ _ := .of_sameBut next.sameBut (by decide)
      exact .finalized granted completed (opened.trans ⟨rfl, rfl, rfl⟩)
  | finalizeWon granted next =>
      have opened : SameBreeding _ _ := .of_sameBut next.sameBut (by decide)
      exact .finalized granted completed (opened.trans ⟨rfl, rfl, rfl⟩)
  | _ => exact .kept ⟨rfl, rfl, rfl⟩

theorem OnTrack.bred (onTrack : OnTrack app none db)
    (bred : Bred app admitted db request after) : OnTrack app none after := by
  cases bred with
  | kept same => exact onTrack.of_same same
  | closed ended same =>
      exact (onTrack.close ended fun _ _ busy => nomatch busy).of_same same
  | @created req body rate now base _ valid same started =>
      have inserted : OnTrack app (some db.breedPair.nextId) base :=
        (OnTrack.insert onTrack valid now).of_same same
      refine OnTrack.start inserted ?_ started
      rw [same.breedPair]
      exact List.mem_append_right _ (List.mem_singleton_self _)
  | @raised req body pair paid _ level buds granted charged evaluable started =>
      obtain ⟨pairs, levels, bred⟩ := sameBreeding_paid charged
      have listed : level ∈ paid.breedLevel.rows := by
        rw [levels]
        exact evaluable.listed
      have evaluated : OnTrack app (some pair.id) (paid.evaluateLevel app level
          buds body.maleBudId body.femaleBudId) :=
        (onTrack.of_same ⟨pairs, levels, bred⟩).evaluate listed
          evaluable.current
      refine evaluated.start ?_ started
      change pair ∈ paid.breedPair.rows
      rw [pairs]
      exact granted.listed
  | @finalized req body pair level buds status _ granted ended same =>
      have evaluated : OnTrack app (some pair.id) (db.evaluateLevel app level
          buds body.maleBudId body.femaleBudId) :=
        onTrack.evaluate granted.evaluable.listed granted.evaluable.current
      have covered : ∀ other ∈ db.breedPair.rows, some pair.id = some other.id →
          decide (other.id = pair.id) = true :=
        fun other _ busy => decide_eq_true (Option.some.inj busy).symm
      have closed := evaluated.close ended covered
      exact closed.of_same ⟨same.breedPair, same.breedLevel, same.breedBud⟩

/-- A level-up that passes all its checks although its pair has reached the
target level. -/
def Overshoots (app : App) (admitted : Oracle → Prop) (db : Db) :
    Request → Prop
  | .levelBreedingUp req body =>
      ∃ pair level buds paid, LevelGranted app admitted db req body pair ∧
        pair.currentLevel = app.config.targetLevel ∧
        db.Paid req.user app.config.breedingPointPerLevel paid ∧
        Evaluable app admitted db pair body.maleBudId body.femaleBudId level buds
  | _ => False

/-- No breeding pair is past the target level. -/
def WithinTarget (app : App) (db : Db) : Prop :=
  ∀ pair ∈ db.breedPair.rows, pair.status = .PAIRED →
    pair.currentLevel ≤ app.config.targetLevel

theorem withinTarget_of_breedPair (within : WithinTarget app db)
    (same : after.breedPair = db.breedPair) : WithinTarget app after := by
  rw [WithinTarget, same]
  exact within

theorem withinTarget_status {filter : BreedPair → Bool}
    {status : BreedPairStatus} (within : WithinTarget app db)
    (ended : status ≠ .PAIRED) :
    WithinTarget app (db.updateBreedPair filter (.status status)) := by
  intro later member paired
  rcases Serial.of_mem_modify member with ⟨old, -, -, rfl⟩ | ⟨present, -⟩
  · exact absurd paired ended
  · exact within later present paired

theorem withinTarget_start {pair : BreedPair} (within : WithinTarget app db)
    (listed : pair ∈ db.breedPair.rows)
    (below : pair.currentLevel < app.config.targetLevel)
    (started : LevelStarted app db pair after) : WithinTarget app after := by
  intro later member paired
  cases started with
  | beyond past => omega
  | within reachable free buds genders created bred =>
      rcases OnTrack.mem_counter listed member with ⟨old, -⟩ | rfl
      · exact within later old paired
      · exact reachable

theorem WithinTarget.bred (within : WithinTarget app db)
    (bred : Bred app admitted db request after)
    (careful : ¬ Overshoots app admitted db request) :
    WithinTarget app after := by
  cases bred with
  | kept same => exact withinTarget_of_breedPair within same.breedPair
  | closed ended same =>
      exact withinTarget_of_breedPair (withinTarget_status within ended)
        same.breedPair
  | @created req body rate now base _ valid same started =>
      have inserted : WithinTarget app base := by
        refine withinTarget_of_breedPair ?_ same.breedPair
        intro pair member paired
        rcases List.mem_append.mp member with old | new
        · exact within pair old paired
        · rw [List.mem_singleton.mp new]
          exact app.config.targetLevel_pos.le
      refine withinTarget_start inserted ?_ app.config.targetLevel_pos started
      rw [same.breedPair]
      exact List.mem_append_right _ (List.mem_singleton_self _)
  | @raised req body pair paid _ level buds granted charged evaluable started =>
      have same := (sameBreeding_paid charged).breedPair
      have evaluated : WithinTarget app (paid.evaluateLevel app level buds
          body.maleBudId body.femaleBudId) :=
        withinTarget_of_breedPair within same
      refine withinTarget_start evaluated ?_ ?_ started
      · change pair ∈ paid.breedPair.rows
        rw [same]
        exact granted.listed
      · apply lt_of_le_of_ne granted.below
        intro reached
        exact careful
          ⟨pair, level, buds, paid, granted, reached, charged, evaluable⟩
  | finalized granted ended same =>
      refine withinTarget_of_breedPair ?_ same.breedPair
      unfold Db.closePair
      exact withinTarget_status (withinTarget_of_breedPair within rfl) ended

end Requests

end BudBreeding.Lifecycle
