import BudBreeding.Backend.ServiceRules

namespace BudBreeding.Backend

open Data Program

/-! Every way a request can end: its response and the database after it. -/

namespace Db

/-- `updateMany` on pairs found before, and on their slots. -/
def failPairs (db : Db) (pairs : List BreedPair) : Db :=
  (db.updateBreedPair (fun pair => pair.id ∈ pairs.map BreedPair.id)
    (.status .FAILED)).updateBreedSlot
      (fun slot => slot.id ∈ pairs.map BreedPair.slotId) (.isUsed false)

def deleteSlots (db : Db) (slots : List BreedSlot) (deletedAt : Time) : Db :=
  (db.updateBreedSlot (fun slot => slot.id ∈ slots.map BreedSlot.id)
    (.deletedAt deletedAt)).updateBreedPair
      (fun pair => pair.slotId ∈ slots.map BreedSlot.id) (.status .FAILED)

def cancelPair (db : Db) (pair : BreedPair) : Db :=
  (db.updateBreedPair (fun other => other.id = pair.id)
    (.status .CANCELED)).updateBreedSlot
      (fun slot => slot.id = pair.slotId) (.isUsed false)

/-- The slot is freed before the status of the pair changes. -/
def closePair (db : Db) (pair : BreedPair) (status : BreedPairStatus) : Db :=
  (db.updateBreedSlot (fun slot => slot.id = pair.slotId)
    (.isUsed false)).updateBreedPair (fun other => other.id = pair.id)
      (.status status)

def openSlotById (db : Db) (slotId : Int) : Db :=
  db.updateBreedSlot (fun slot => slot.id = slotId) (.isOpen true)

/-- `openNextSlot` opens one of the closed slots of the user, if there is one. -/
def NextSlotOpened (db : Db) (user : Address) (after : Db) : Prop :=
  ((∀ slot ∈ db.breedSlot.rows, BreedController.closedSlot user slot = false) ∧
    after = db) ∨
  ∃ slot ∈ db.breedSlot.rows,
    BreedController.closedSlot user slot = true ∧ after = db.openSlotById slot.id

theorem NextSlotOpened.sameBut {db after : Db} {user : Address}
    (next : db.NextSlotOpened user after) :
    SameBut (some .breedSlot) db after := by
  rcases next with ⟨-, rfl⟩ | ⟨slot, -, -, rfl⟩
  · exact .refl _ _
  · constructor <;> simp [openSlotById, updateBreedSlot]

namespace NextSlotOpened

variable {db after : Db} {user : Address}

theorem breedPair (next : db.NextSlotOpened user after) :
    after.breedPair = db.breedPair :=
  next.sameBut.breedPair (by decide)

theorem breedLevel (next : db.NextSlotOpened user after) :
    after.breedLevel = db.breedLevel :=
  next.sameBut.breedLevel (by decide)

theorem gen1Bud (next : db.NextSlotOpened user after) : after.gen1Bud = db.gen1Bud :=
  next.sameBut.gen1Bud (by decide)

end NextSlotOpened

/-- The new pair of `createPair` and its slot, before the first level. -/
def insertPair (db : Db) (data : BreedPairCreate) (now : Time) : Db :=
  (db.createBreedPair data now).updateBreedSlot
    (fun slot => slot.id = data.slotId) (.isUsed true)

end Db

theorem mem_insertPair {db : Db} {body : CreateBreedPairDto} {slot : BreedSlot}
    (data : BreedPairCreate) (now : Time) :
    data.row now db.breedPair.nextId ∈
      ((db.upgradeSlot body slot).insertPair data now).breedPair.rows := by
  have same := db.breedPair_upgradeSlot body slot
  apply List.mem_append_right
  rw [same]
  exact List.mem_cons_self

theorem paired_of_ownPair {user : Address} {pairId : Int} {pair : BreedPair}
    (own : BreedController.ownPair user pairId pair = true) :
    pair.status = .PAIRED :=
  (decide_eq_true_iff.mp own).2.2

/-- What `createPair` has checked before it writes anything. -/
structure PairGranted (admitted : Oracle → Prop) (db : Db) (req : Req)
    (body : CreateBreedPairDto) (slot : BreedSlot)
    (metadatas : List BudWithId) : Prop where
  owns : OwnsBuds admitted req.user body.maleBudId body.femaleBudId
  valid : ValidBudId body.maleBudId ∧ ValidBudId body.femaleBudId
  metadata : Metadatas admitted body.maleBudId body.femaleBudId metadatas
  unpaired : ∀ pair ∈ db.breedPair.rows,
    BreedService.pairInBreeding body.maleBudId body.femaleBudId pair = false
  listed : slot ∈ db.breedSlot.rows
  free : LandService.openBreedSlotById req.user body.slotId slot = true
  keyed : BreedController.otherKeysSlot slot req.gameKeyId = false

def pairData (req : Req) (body : CreateBreedPairDto) (rate : Rat) :
    BreedPairCreate where
  userAddress := req.user
  gameKeyId := req.gameKeyId
  maleBudId := body.maleBudId
  femaleBudId := body.femaleBudId
  rate := rate
  status := .PAIRED
  slotId := body.slotId
  gameItemId := body.gameItemId

/-- What `levelBreedingUp` has checked before it charges the user. -/
structure LevelGranted (app : App) (admitted : Oracle → Prop) (db : Db)
    (req : Req) (body : BreedUpDto) (pair : BreedPair) : Prop where
  listed : pair ∈ db.breedPair.rows
  own : BreedController.ownPair req.user body.pairId pair = true
  below : pair.currentLevel ≤ app.config.targetLevel
  item : HoldsItem admitted db pair
  owns : OwnsBuds admitted pair.userAddress pair.maleBudId pair.femaleBudId

structure FinalizeGranted (app : App) (admitted : Oracle → Prop) (db : Db)
    (req : Req) (body : BreedFinalizeDto) (pair : BreedPair)
    (level : BreedLevel) (buds : List BreedBud) : Prop where
  listed : pair ∈ db.breedPair.rows
  own : BreedController.ownPair req.user body.pairId pair = true
  reached : app.config.targetLevel ≤ pair.currentLevel
  evaluable : Evaluable app admitted db pair body.maleBudId body.femaleBudId
    level buds

def depositLog (type : EventType) (body : BreedingPointDto) (user : User) :
    EventServiceLogCreate where
  address := body.address
  txHash := body.txHash
  blockNumber := body.block
  type := type
  data := .breedingPoint body.amount user.breedingPoint

def burnLog (body : BurnGen0Buds) (budId : Option Int) :
    EventServiceLogCreate where
  address := body.address
  txHash := body.txHash
  blockNumber := body.block
  type := .BURN_GEN0
  data := .burn body.maleBudId body.femaleBudId budId

/-- What `burnGen0Buds` has checked before it throws the dice. -/
structure BurnGranted (app : App) (admitted : Oracle → Prop) (db : Db)
    (body : BurnGen0Buds) : Prop where
  accepted : body.valid = true
  unhandled : Unhandled app db body.toAdminDtoBase .BURN_GEN0
  known : ∃ user, db.user.find body.address = some user
  burned : OwnsBuds admitted (ADDRESSES app.config.network).BUD_BURN
    body.maleBudId body.femaleBudId
  valid : ValidBudId body.maleBudId ∧ ValidBudId body.femaleBudId
  metadata : ∃ metadatas,
    Metadatas admitted body.maleBudId body.femaleBudId metadatas ∧
      ∀ metadata ∈ metadatas, metadata.revealed = true
  unpaired : ∀ pair ∈ db.breedPair.rows,
    BreedService.pairInBreeding body.maleBudId body.femaleBudId pair = false

/-- The checks of `invalidSlotsForGameKey` let this request through. -/
structure SlotsDeletable (app : App) (admitted : Oracle → Prop)
    (body : InvalidateSlotsDto) : Prop where
  accepted : body.valid = true
  unstaked : body.prevOwner ≠ (ADDRESSES app.config.network).STAKING
  unstaking : body.owner ≠ (ADDRESSES app.config.network).STAKING
  confirmed : ∃ oracle, admitted oracle ∧
    (body.option = 201 ∨ oracle.gameKeyOwner body.gameKeyId = some body.owner)

inductive Outcome (app : App) (admitted : Oracle → Prop) (db : Db) :
    Request → Except Failure Response → Db → Prop
  | refused {request : Request} {error : Failure} :
      Outcome app admitted db request (.error error) db
  | loggedIn {body : LoginDto} :
      Outcome app admitted db (.login body)
        (.ok (.token ⟨body.address, body.gameKeyId⟩))
        ((db.addSlots (LandService.freeLandSlot body.address body.gameKeyId)
          (LandService.newSlots body.address (some body.gameKeyId)
            none)).upsertUser body.address body.signature body.gameKeyId)
  | converted {req : Req} {body : ConvertBPDto} {user : User}
      {signature : Option String} {timestamp : Time} (accepted : body.valid = true)
      (found : db.user.find req.user = some user)
      (covered : body.amount ≤ user.breedingPoint) :
      Outcome app admitted db (.convertBp2High req body)
        (.ok (.conversion ⟨signature, timestamp, body.amount * 100⟩)) db
  | slotOpened {req : Req} {body : OpenSlotDto} {slot row : BreedSlot}
      {paid : Db} (listed : slot ∈ db.breedSlot.rows)
      (own : LandController.userSlot req.user body.slotId slot = true)
      (closed : slot.isOpen = false)
      (charged : db.Paid req.user app.config.breedingPointToOpenSlot paid) :
      Outcome app admitted db (.openSlot req body) (.ok (.slot row))
        (paid.openSlotById body.slotId)
  | slotConverted {req : Req} {body : OpenSlotDto} {slot row : BreedSlot}
      {paid : Db} (listed : slot ∈ db.breedSlot.rows)
      (own : LandController.userSlot req.user body.slotId slot = true)
      (outdoor : slot.type ≠ .INDOOR)
      (charged : db.Paid req.user app.config.breedingPointToCovertIndoor paid) :
      Outcome app admitted db (.convertIndoor req body) (.ok (.slot row))
        (paid.updateBreedSlot (fun slot => slot.id = body.slotId)
          (.type .INDOOR))
  | landPurchased {req : Req} {now : Time} {paid : Db}
      {response : LandController.Purchase}
      (charged : db.Paid req.user app.config.landPrice paid) :
      Outcome app admitted db (.purchaseLand req) (.ok (.purchase response))
        (paid.addSlots (LandService.landSlot req.user now)
          (LandService.newSlots req.user none (some now)))
  | nothingInvalidated {request : Request} :
      Outcome app admitted db request (.ok (.invalidated none)) db
  | othersPairsFailed {req : Req} {body : InvalidBreedPairDto}
      {pairs : List BreedPair} {text : String}
      (selected : pairs.Perm (db.breedPair.rows.filter
        (BreedController.othersPairs req.user body.maleBudId
          body.femaleBudId))) :
      Outcome app admitted db (.invalidatePair req body)
        (.ok (.invalidated (some text))) (db.failPairs pairs)
  | pairRejected {req : Req} {body : CreateBreedPairDto} {slot : BreedSlot}
      {metadatas : List BudWithId} {error : Failure}
      (granted : PairGranted admitted db req body slot metadatas) :
      Outcome app admitted db (.createPair req body) (.error error)
        (db.upgradeSlot body slot)
  | levelClashed {req : Req} {body : CreateBreedPairDto} {slot : BreedSlot}
      {metadatas : List BudWithId} {rate : Rat} {now : Time} {error : Failure}
      {other : BreedLevel}
      (granted : PairGranted admitted db req body slot metadatas)
      (taken : other ∈ db.breedLevel.rows)
      (samePair : other.pairId = db.breedPair.nextId)
      (sameLevel : other.level = 1) :
      Outcome app admitted db (.createPair req body) (.error error)
        ((db.upgradeSlot body slot).insertPair (pairData req body rate) now)
  | pairCreated {req : Req} {body : CreateBreedPairDto} {slot : BreedSlot}
      {metadatas : List BudWithId} {rate : Rat} {now : Time} {after : Db}
      (granted : PairGranted admitted db req body slot metadatas)
      (started : LevelStarted app
        ((db.upgradeSlot body slot).insertPair (pairData req body rate) now)
        ((pairData req body rate).row now db.breedPair.nextId) after) :
      Outcome app admitted db (.createPair req body)
        (.ok (.pair ((pairData req body rate).row now db.breedPair.nextId)))
        after
  | levelCharged {req : Req} {body : BreedUpDto} {pair : BreedPair} {paid : Db}
      {error : Failure} (granted : LevelGranted app admitted db req body pair)
      (charged : db.Paid req.user app.config.breedingPointPerLevel paid) :
      Outcome app admitted db (.levelBreedingUp req body) (.error error) paid
  | levelEvaluated {req : Req} {body : BreedUpDto} {pair : BreedPair}
      {paid : Db} {level other : BreedLevel} {buds : List BreedBud}
      {error : Failure} (granted : LevelGranted app admitted db req body pair)
      (charged : db.Paid req.user app.config.breedingPointPerLevel paid)
      (evaluable : Evaluable app admitted db pair body.maleBudId
        body.femaleBudId level buds)
      (taken : other ∈ db.breedLevel.rows) (samePair : other.pairId = pair.id)
      (sameLevel : other.level = pair.currentLevel + 1) :
      Outcome app admitted db (.levelBreedingUp req body) (.error error)
        (paid.evaluateLevel app level buds body.maleBudId body.femaleBudId)
  | leveledUp {req : Req} {body : BreedUpDto} {pair : BreedPair} {paid after : Db}
      {level : BreedLevel} {buds : List BreedBud}
      (granted : LevelGranted app admitted db req body pair)
      (charged : db.Paid req.user app.config.breedingPointPerLevel paid)
      (evaluable : Evaluable app admitted db pair body.maleBudId
        body.femaleBudId level buds)
      (started : LevelStarted app
        (paid.evaluateLevel app level buds body.maleBudId body.femaleBudId)
        pair after) :
      Outcome app admitted db (.levelBreedingUp req body)
        (.ok (.status (getBonusRateStatus
          (BreedService.evaluationOf app buds).bonusRate))) after
  | pairCanceled {req : Req} {body : BreedCancelDto} {pair : BreedPair}
      {response : Except Failure Response} (listed : pair ∈ db.breedPair.rows)
      (own : BreedController.ownPair req.user body.pairId pair = true)
      (answered : response = .ok .done ∨ db.breedSlot.find pair.slotId = none) :
      Outcome app admitted db (.cancelBreeding req body) response
        (db.cancelPair pair)
  | finalizeBlocked {req : Req} {body : BreedFinalizeDto} {pair : BreedPair}
      {level : BreedLevel} {buds : List BreedBud} {error : Failure}
      (granted : FinalizeGranted app admitted db req body pair level buds)
      (slotless : db.breedSlot.find pair.slotId = none) :
      Outcome app admitted db (.finalizeBreeding req body) (.error error)
        (db.evaluateLevel app level buds body.maleBudId body.femaleBudId)
  | finalizeLost {req : Req} {body : BreedFinalizeDto} {pair : BreedPair}
      {level : BreedLevel} {buds : List BreedBud}
      (granted : FinalizeGranted app admitted db req body pair level buds) :
      Outcome app admitted db (.finalizeBreeding req body)
        (.ok (.reward none))
        ((db.evaluateLevel app level buds body.maleBudId
          body.femaleBudId).closePair pair .FAILED)
  | finalizeUnsigned {req : Req} {body : BreedFinalizeDto} {pair : BreedPair}
      {level : BreedLevel} {buds : List BreedBud} {opened : Db} {data : Bud}
      {now : Time} {error : Failure}
      (granted : FinalizeGranted app admitted db req body pair level buds)
      (next : ((db.evaluateLevel app level buds body.maleBudId
        body.femaleBudId).closePair pair .COMPLETED).NextSlotOpened req.user
          opened) :
      Outcome app admitted db (.finalizeBreeding req body) (.error error)
        (opened.createGen1Bud ⟨data, some pair.id, req.user, ""⟩ now)
  | finalizeWon {req : Req} {body : BreedFinalizeDto} {pair : BreedPair}
      {level : BreedLevel} {buds : List BreedBud} {opened : Db} {data : Bud}
      {now : Time} {signature : String} {reward : BreedController.Gen1Reward}
      (granted : FinalizeGranted app admitted db req body pair level buds)
      (next : ((db.evaluateLevel app level buds body.maleBudId
        body.femaleBudId).closePair pair .COMPLETED).NextSlotOpened req.user
          opened) :
      Outcome app admitted db (.finalizeBreeding req body)
        (.ok (.reward (some reward)))
        ((opened.createGen1Bud ⟨data, some pair.id, req.user, ""⟩
          now).updateGen1Bud opened.gen1Bud.nextId (.signature signature))
  | gen1Renamed {req : Req} {body : RenameGen1BudDto} {bud row : Gen1Bud}
      (listed : bud ∈ db.gen1Bud.rows)
      (own : bud.id = body.budId ∧ bud.minterAddress = req.user) :
      Outcome app admitted db (.renameGen1Buds req body)
        (.ok (.gen1Bud (some row)))
        (db.updateGen1Bud body.budId (.name (BudController.trim body.name)))
  | ownersPairsFailed {body : InvalidateBreedingDto} {pairs : List BreedPair}
      {text : String}
      (selected : pairs.Perm (db.breedPair.rows.filter
        (AdminController.ownersPairs body.prevOwner body.budId))) :
      Outcome app admitted db (.invalidateBreedingPairByBudId body)
        (.ok (.invalidated (some text))) (db.failPairs pairs)
  | keySlotsDeleted {body : InvalidateSlotsDto} {slots : List BreedSlot}
      {deletedAt : Time} {text : String}
      (deletable : SlotsDeletable app admitted body)
      (selected : slots.Perm (db.breedSlot.rows.filter
        (AdminController.keySlot body.prevOwner body.gameKeyId))) :
      Outcome app admitted db (.invalidSlotsForGameKey body)
        (.ok (.invalidated (some text))) (db.deleteSlots slots deletedAt)
  | depositRejected {body : BreedingPointDto} :
      Outcome app admitted db (.addBreedingPoint body) (.ok (.success false)) db
  | depositLogged {body : BreedingPointDto} {user : User} {block : Int}
      (unhandled : Unhandled app db body.toAdminDtoBase .DEPOSIT_BP)
      (found : db.user.find body.address = some user)
      (logged : LogAccepted db (depositLog .DEPOSIT_BP body user) block)
      (rejected : toIntColumn (user.breedingPoint + body.amount / 100) = none) :
      Outcome app admitted db (.addBreedingPoint body) (.ok (.success false))
        (db.createEventServiceLog (depositLog .DEPOSIT_BP body user) block)
  | deposited {body : BreedingPointDto} {user : User} {block column : Int}
      (accepted : body.valid = true)
      (unhandled : Unhandled app db body.toAdminDtoBase .DEPOSIT_BP)
      (found : db.user.find body.address = some user)
      (logged : LogAccepted db (depositLog .DEPOSIT_BP body user) block)
      (credited : toIntColumn (user.breedingPoint + body.amount / 100) =
        some column) :
      Outcome app admitted db (.addBreedingPoint body) (.ok (.success true))
        ((db.createEventServiceLog (depositLog .DEPOSIT_BP body user)
          block).setBreedingPoint body.address column)
  | withdrawalRejected {body : BreedingPointDto} :
      Outcome app admitted db (.withdrawBreedingPoint body)
        (.ok (.success false)) db
  | withdrawalUnlogged {body : BreedingPointDto} {user : User} {column : Int}
      (accepted : body.valid = true)
      (unhandled : Unhandled app db body.toAdminDtoBase .WITHDRAW_BP)
      (found : db.user.find body.address = some user)
      (debited : toIntColumn (user.breedingPoint - body.amount / 100) =
        some column)
      (unlogged : ∀ block,
        ¬ LogAccepted db (depositLog .WITHDRAW_BP body user) block) :
      Outcome app admitted db (.withdrawBreedingPoint body)
        (.ok (.success false)) (db.setBreedingPoint body.address column)
  | withdrawn {body : BreedingPointDto} {user : User} {block column : Int}
      (accepted : body.valid = true)
      (unhandled : Unhandled app db body.toAdminDtoBase .WITHDRAW_BP)
      (found : db.user.find body.address = some user)
      (debited : toIntColumn (user.breedingPoint - body.amount / 100) =
        some column)
      (logged : LogAccepted db (depositLog .WITHDRAW_BP body user) block) :
      Outcome app admitted db (.withdrawBreedingPoint body)
        (.ok (.success true))
        ((db.setBreedingPoint body.address column).createEventServiceLog
          (depositLog .WITHDRAW_BP body user) block)
  | burnUnsigned {body : BurnGen0Buds} {data : Bud} {now : Time}
      {error : Failure} {oracle : Oracle}
      (granted : BurnGranted app admitted db body)
      (allowed : admitted oracle)
      (unsigned : oracle.signature
        ⟨body.address, .Gen1Bud, db.gen1Bud.nextId, 1, now⟩ = none) :
      Outcome app admitted db (.burnGen0Buds body) (.error error)
        (db.createGen1Bud ⟨data, none, body.address, ""⟩ now)
  | burnUnlogged {body : BurnGen0Buds} {data : Bud} {now : Time}
      {signature : String} {error : Failure}
      (granted : BurnGranted app admitted db body)
      (unlogged : ∀ block budId, ¬ LogAccepted db (burnLog body budId) block) :
      Outcome app admitted db (.burnGen0Buds body) (.error error)
        ((db.createGen1Bud ⟨data, none, body.address, ""⟩ now).updateGen1Bud
          db.gen1Bud.nextId (.signature signature))
  | burnWon {body : BurnGen0Buds} {data : Bud} {now : Time}
      {signature : String} {row : Gen1Bud} {block : Int}
      (granted : BurnGranted app admitted db body)
      (logged : LogAccepted db (burnLog body (some db.gen1Bud.nextId)) block) :
      Outcome app admitted db (.burnGen0Buds body) (.ok (.gen1Bud (some row)))
        (((db.createGen1Bud ⟨data, none, body.address, ""⟩ now).updateGen1Bud
          db.gen1Bud.nextId (.signature signature)).createEventServiceLog
            (burnLog body (some db.gen1Bud.nextId)) block)
  | burnLost {body : BurnGen0Buds} {block : Int}
      (granted : BurnGranted app admitted db body)
      (logged : LogAccepted db (burnLog body none) block) :
      Outcome app admitted db (.burnGen0Buds body) (.ok (.gen1Bud none))
        (db.createEventServiceLog (burnLog body none) block)

section Handlers

variable {app : App} {admitted : Oracle → Prop} {db : Db}

theorem ensures_validated {valid : Bool} {handler : Handler Response}
    {request : Request}
    (handled : valid = true → (surroundings admitted).Ensures handler
      (Outcome app admitted db request) db) :
    (surroundings admitted).Ensures (validated valid handler)
      (Outcome app admitted db request) db := by
  refine World.reads_throwIf.ensures_bind (fun _ => .refused) fun _ passed => ?_
  exact handled (Bool.eq_true_of_not_eq_false passed)

theorem outcome_login (body : LoginDto) :
    (surroundings admitted).Ensures (.token <$> UserController.login app body)
      (Outcome app admitted db (.login body)) db := by
  rw [World.ensures_map]
  refine (reads_isValidMessage _ _).ensures_bind (fun _ => .refused)
    fun isValid _ => ?_
  refine World.reads_throwIf.ensures_bind (fun _ => .refused) fun _ _ => ?_
  refine World.reads_throwIf.ensures_bind (fun _ => .refused) fun _ _ => ?_
  refine (reads_verifyMessage _ _).ensures_bind (fun _ => .refused)
    fun derivedAddress _ => ?_
  split
  · rw [World.ensures_bind, World.ensures_tryCatch]
    refine ensures_createFreeLandSlots ?_ fun fits => ensures_userUpsert ?_ ?_
    · intro _
      exact World.ensures_throw.mpr .refused
    · intro outside
      exact absurd (outside.symm.trans fits) Bool.false_ne_true
    · intro user same
      rw [World.ensures_pure, same]
      exact .loggedIn
  · exact World.ensures_throw.mpr .refused

theorem outcome_convertBp2High (req : Req) (body : ConvertBPDto)
    (accepted : body.valid = true) :
    (surroundings admitted).Ensures
      (.conversion <$> UserController.convertBp2High req body)
      (Outcome app admitted db (.convertBp2High req body)) db := by
  rw [World.ensures_map]
  refine (returns_userFindUnique _).ensures_bind ?_
  rintro found rfl
  cases found : db.user.find req.user with
  | none => exact World.ensures_throw.mpr .refused
  | some user =>
      refine World.reads_throwIf.ensures_bind (fun _ => .refused)
        fun _ covered => ?_
      refine (returns_ask .dateNow rfl).ensures_bind fun timestamp _ => ?_
      refine (returns_ask (.signMessage _) rfl).ensures_bind
        fun signature _ => ?_
      exact World.ensures_pure.mpr (.converted accepted found (not_lt.mp covered))

theorem outcome_openSlot (req : Req) (body : OpenSlotDto) :
    (surroundings admitted).Ensures
      (.slot <$> LandController.openSlot app req body)
      (Outcome app admitted db (.openSlot req body)) db := by
  rw [World.ensures_map]
  refine (returns_breedSlotFindFirst _).ensures_bind ?_
  intro found answer
  obtain ⟨oracle, -, rfl⟩ := answer
  cases found : oracle.findFirst db.breedSlot.rows
      (LandController.userSlot req.user body.slotId) with
  | none => exact World.ensures_throw.mpr .refused
  | some slot =>
      obtain ⟨listed, own⟩ := Oracle.findFirst_eq_some found
      refine World.reads_throwIf.ensures_bind (fun _ => .refused)
        fun _ closed => ?_
      refine ensures_consumeBreedingPoint (fun _ _ => .refused)
        fun _ paid charged => ?_
      refine World.ensures_tail.mp (ensures_breedSlotUpdate ?_ ?_)
      · obtain ⟨user, -, -, rfl⟩ := charged
        intro missing
        have identified := (decide_eq_true_iff.mp own).1
        exact absurd identified (Table.find_eq_none.mp missing slot listed)
      · intro row _
        exact World.ensures_pure.mpr
          (.slotOpened listed own (by simpa using closed) charged)

theorem outcome_convertIndoor (req : Req) (body : OpenSlotDto) :
    (surroundings admitted).Ensures
      (.slot <$> LandController.convertIndoor app req body)
      (Outcome app admitted db (.convertIndoor req body)) db := by
  rw [World.ensures_map]
  refine (returns_breedSlotFindFirst _).ensures_bind ?_
  intro found answer
  obtain ⟨oracle, -, rfl⟩ := answer
  cases found : oracle.findFirst db.breedSlot.rows
      (LandController.userSlot req.user body.slotId) with
  | none => exact World.ensures_throw.mpr .refused
  | some slot =>
      obtain ⟨listed, own⟩ := Oracle.findFirst_eq_some found
      refine World.reads_throwIf.ensures_bind (fun _ => .refused)
        fun _ outdoor => ?_
      refine ensures_consumeBreedingPoint (fun _ _ => .refused)
        fun _ paid charged => ?_
      refine World.ensures_tail.mp (ensures_breedSlotUpdate ?_ ?_)
      · obtain ⟨user, -, -, rfl⟩ := charged
        intro missing
        have identified := (decide_eq_true_iff.mp own).1
        exact absurd identified (Table.find_eq_none.mp missing slot listed)
      · intro row _
        exact World.ensures_pure.mpr
          (.slotConverted listed own outdoor charged)

theorem outcome_purchaseLand (req : Req) :
    (surroundings admitted).Ensures
      (.purchase <$> LandController.purchaseLand app req)
      (Outcome app admitted db (.purchaseLand req)) db := by
  rw [World.ensures_map]
  refine (returns_ask .dateNow rfl).ensures_bind fun now _ => ?_
  refine ensures_consumeBreedingPoint (fun _ _ => .refused)
    fun _ paid charged => ?_
  rw [World.ensures_bind]
  refine ensures_createNewLandSlots ?_
  refine (returns_breedSlotFindMany _).ensures_bind fun lands _ => ?_
  refine (returns_userFindUnique _).ensures_bind ?_
  rintro found rfl
  cases found : (paid.addSlots (LandService.landSlot req.user now)
      (LandService.newSlots req.user none (some now))).user.find req.user with
  | none =>
      obtain ⟨user, present, -, rfl⟩ := charged
      rw [(Db.sameBut_addSlots _ _ _).user (by decide), Db.setBreedingPoint, Table.find_modify,
        present] at found
      cases found
  | some user => exact World.ensures_pure.mpr (.landPurchased charged)

theorem outcome_invalidatePair (req : Req) (body : InvalidBreedPairDto) :
    (surroundings admitted).Ensures
      (.invalidated <$> BreedController.invalidatePair req body)
      (Outcome app admitted db (.invalidatePair req body)) db := by
  rw [World.ensures_map]
  refine (reads_verifyBudPairs _ _ _ _).ensures_bind (fun _ => .refused)
    fun _ _ => ?_
  refine (returns_breedPairFindMany _).ensures_bind fun pairs selected => ?_
  split
  · exact World.ensures_pure.mpr .nothingInvalidated
  · refine ensures_breedPairUpdateMany (ensures_breedSlotUpdateMany ?_)
    exact World.ensures_pure.mpr (.othersPairsFailed selected)

/-- `createPair` up to the row of the new pair. -/
def BreedController.placePair (app : App) (req : Req)
    (body : CreateBreedPairDto) : Handler (List BudWithId × BreedPair) := do
  let metadatas ← BudService.verifyBudPairs req.user body.maleBudId
    body.femaleBudId true
  BreedController.checkGameItem req.user body.gameItemId
  let conflicts ← BreedService.findPairInBreeding body.maleBudId body.femaleBudId
  Prog.throwIf (0 < conflicts)
    (ConflictRequestError "One of the bud pairs is in breeding")
  let slot ← LandService.findOpenBreedSlotById req.user body.slotId
  match slot with
  | none => .throw (BadRequestError
      "Given slot is not open, not yours or being used for the other pair")
  | some slot => do
      Prog.throwIf (BreedController.otherKeysSlot slot req.gameKeyId = true)
        (BadRequestError
          "Given slot is not open, not yours or being used for the other pair")
      let slot ← BreedController.upgradeSlot body slot
      let rate ← BreedService.getStartSuccessRate app body.maleBudId
        body.femaleBudId body.gameItemId slot
      let pair ← Prisma.breedPairCreate (pairData req body rate)
      return (metadatas, pair)

/-- `createPair` from the row of the new pair on. -/
def BreedController.startPair (app : App) (body : CreateBreedPairDto)
    (placed : List BudWithId × BreedPair) : Handler BreedPair := do
  let _ ← Prisma.breedSlotUpdate body.slotId (.isUsed true)
  BreedService.startBreedLevel app placed.2
    (placed.1[0]?.map BudWithId.toBud) (placed.1[1]?.map BudWithId.toBud)
  return placed.2

theorem createPair_eq (req : Req) (body : CreateBreedPairDto) :
    BreedController.createPair app req body =
      BreedController.placePair app req body >>=
        BreedController.startPair app body := by
  rw [BreedController.createPair, BreedController.placePair]
  simp only [Prog.bind_assoc]
  apply bind_congr
  intro metadatas
  apply bind_congr
  intro _
  apply bind_congr
  intro conflicts
  apply bind_congr
  intro _
  apply bind_congr
  intro slot
  cases slot with
  | none => rfl
  | some slot =>
      simp only [Prog.bind_assoc]
      rfl

theorem ensures_placePair {req : Req} {body : CreateBreedPairDto} {β : Type}
    {post : Except Failure β → Db → Prop}
    {rest : List BudWithId × BreedPair → Handler β}
    (refused : ∀ error, post (.error error) db)
    (rejected : ∀ slot metadatas,
      PairGranted admitted db req body slot metadatas →
      ∀ error, post (.error error) (db.upgradeSlot body slot))
    (placed : ∀ slot metadatas rate now,
      PairGranted admitted db req body slot metadatas →
      (surroundings admitted).Ensures
        (rest (metadatas,
          (pairData req body rate).row now db.breedPair.nextId)) post
        ((db.upgradeSlot body slot).createBreedPair (pairData req body rate)
          now)) :
    (surroundings admitted).Ensures
      (BreedController.placePair app req body >>= rest) post db := by
  rw [World.ensures_bind]
  refine (reads_verifyBudPairs _ _ _ _).ensures_bind refused ?_
  intro metadatas verified
  obtain ⟨owns, valid, metadata⟩ := verified
  refine (reads_checkGameItem _ _).ensures_bind refused fun _ _ => ?_
  refine (returns_breedPairCount _).ensures_bind ?_
  intro conflicts counted
  subst counted
  refine World.reads_throwIf.ensures_bind refused fun _ unpaired => ?_
  refine (returns_breedSlotFindFirst _).ensures_bind ?_
  intro answer looked
  obtain ⟨oracle, -, rfl⟩ := looked
  cases found : oracle.findFirst db.breedSlot.rows
      (LandService.openBreedSlotById req.user body.slotId) with
  | none => exact World.ensures_throw.mpr (refused _)
  | some slot =>
      obtain ⟨listed, free⟩ := Oracle.findFirst_eq_some found
      refine World.reads_throwIf.ensures_bind refused fun _ keyed => ?_
      have granted : PairGranted admitted db req body slot metadatas := by
        refine ⟨owns, valid, (metadata rfl).1, ?_, listed, free,
          by simpa using keyed⟩
        simpa [List.countP_eq_zero] using unpaired
      refine ensures_upgradeSlot listed fun upgraded => ?_
      refine (returns_getStartSuccessRate _ _ _ _ _).ensures_bind
        fun rate _ => ?_
      refine ensures_breedPairCreate
        (fun _ => rejected slot metadatas granted _) ?_
      intro user now _
      rw [db.breedPair_upgradeSlot body slot]
      exact World.ensures_pure.mpr (placed slot metadatas rate now granted)

theorem outcome_createPair (req : Req) (body : CreateBreedPairDto) :
    (surroundings admitted).Ensures
      (.pair <$> BreedController.createPair app req body)
      (Outcome app admitted db (.createPair req body)) db := by
  rw [World.ensures_map, createPair_eq]
  refine ensures_placePair (fun _ => .refused)
    (fun _ _ granted _ => .pairRejected granted) ?_
  intro slot metadatas rate now granted
  refine ensures_breedSlotUpdate ?_ fun row _ => ?_
  · intro missing
    have identified := (decide_eq_true_iff.mp granted.free).2.2.2.1
    have absent := Db.find_upgradeSlot_eq_none.mp missing
    exact absurd identified (Table.find_eq_none.mp absent slot granted.listed)
  · obtain ⟨maleBud, femaleBud, male, female⟩ := granted.metadata.parents
    rw [male, female]
    refine ensures_startBreedLevel ?_ ?_ fun after started => ?_
    · rw [← db.breedPair_upgradeSlot body slot]
      exact fun absent => nomatch
        (Serial.find_create_nextId _ fun _ => rfl).symm.trans absent
    · intro _ other taken samePair sameLevel error
      exact .levelClashed granted (by
        rw [← db.breedLevel_upgradeSlot body slot]
        exact taken) samePair sameLevel
    · exact World.ensures_pure.mpr (.pairCreated granted started)

/-- `levelBreedingUp` up to the debit of the user. -/
def BreedController.chargeLevel (app : App) (req : Req) (body : BreedUpDto) :
    Handler BreedPair := do
  let pair ← Prisma.breedPairFindFirst
    (BreedController.ownPair req.user body.pairId)
  match pair with
  | none => .throw (NotFoundError "Breed pair not found")
  | some pair => do
      Prog.throwIf (pair.currentLevel > app.config.targetLevel)
        (BadRequestError "Target level reached. Do finalize!")
      BreedService.verifyGameItemPossession pair
      let _ ← BudService.verifyBudPairs pair.userAddress pair.maleBudId
        pair.femaleBudId false
      let _ ← UserService.consumeBreedingPoint req.user
        app.config.breedingPointPerLevel
      return pair

/-- `levelBreedingUp` from the debit of the user on. -/
def BreedController.raiseLevel (app : App) (body : BreedUpDto)
    (pair : BreedPair) : Handler BonusRateStatus := do
  let evaluation ← BreedService.evaluateBreedLevel app pair body.maleBudId
    body.femaleBudId
  BreedService.startBreedLevel app pair evaluation.maleBud evaluation.femaleBud
  return getBonusRateStatus evaluation.bonusRate

theorem levelBreedingUp_eq (req : Req) (body : BreedUpDto) :
    BreedController.levelBreedingUp app req body =
      BreedController.chargeLevel app req body >>=
        BreedController.raiseLevel app body := by
  rw [BreedController.levelBreedingUp, BreedController.chargeLevel]
  simp only [Prog.bind_assoc]
  apply bind_congr
  intro pair
  cases pair with
  | none => rfl
  | some pair =>
      simp only [Prog.bind_assoc]
      rfl

theorem ensures_chargeLevel {req : Req} {body : BreedUpDto} {β : Type}
    {post : Except Failure β → Db → Prop} {rest : BreedPair → Handler β}
    (refused : ∀ error, post (.error error) db)
    (charged : ∀ pair paid, LevelGranted app admitted db req body pair →
      ValidBudId pair.maleBudId ∧ ValidBudId pair.femaleBudId →
      db.Paid req.user app.config.breedingPointPerLevel paid →
      (surroundings admitted).Ensures (rest pair) post paid) :
    (surroundings admitted).Ensures
      (BreedController.chargeLevel app req body >>= rest) post db := by
  rw [World.ensures_bind]
  refine (returns_breedPairFindFirst _).ensures_bind ?_
  intro answer looked
  obtain ⟨oracle, -, rfl⟩ := looked
  cases found : oracle.findFirst db.breedPair.rows
      (BreedController.ownPair req.user body.pairId) with
  | none => exact World.ensures_throw.mpr (refused _)
  | some pair =>
      obtain ⟨listed, own⟩ := Oracle.findFirst_eq_some found
      refine World.reads_throwIf.ensures_bind refused fun _ below => ?_
      refine (reads_verifyGameItemPossession pair).ensures_bind refused
        fun _ item => ?_
      refine (reads_verifyBudPairs _ _ _ _).ensures_bind refused ?_
      intro _ verified
      refine ensures_consumeBreedingPoint (fun _ => refused)
        fun _ paid debited => ?_
      exact World.ensures_pure.mpr (charged pair paid
        ⟨listed, own, not_lt.mp below, item, verified.1⟩ verified.2.1 debited)

theorem outcome_levelBreedingUp (req : Req) (body : BreedUpDto) :
    (surroundings admitted).Ensures
      (.status <$> BreedController.levelBreedingUp app req body)
      (Outcome app admitted db (.levelBreedingUp req body)) db := by
  rw [World.ensures_map, levelBreedingUp_eq]
  refine ensures_chargeLevel (fun _ => .refused) ?_
  intro pair paid granted valid charged
  refine ensures_evaluateBreedLevel
    (fun _ _ => .levelCharged granted charged)
    (fun _ _ _ _ _ => .levelCharged granted charged) ?_
  intro level buds evaluable
  obtain ⟨user, present, covered, rfl⟩ := charged
  obtain ⟨maleBud, femaleBud, male, female⟩ := evaluable.parents
  rw [male, female]
  have evaluated : Evaluable app admitted db pair body.maleBudId
      body.femaleBudId level buds := ⟨evaluable.listed, evaluable.current,
    evaluable.unevaluated, evaluable.elapsed, evaluable.chosen,
    evaluable.gendered⟩
  refine ensures_startBreedLevel ?_ ?_ fun after started => ?_
  · intro absent
    exact absurd rfl (Table.find_eq_none.mp absent pair granted.listed)
  · intro _ other taken samePair sameLevel error
    rcases Serial.of_mem_modify taken with
      ⟨old, member, -, rfl⟩ | ⟨member, -⟩
    · exact .levelEvaluated granted ⟨user, present, covered, rfl⟩ evaluated
        member samePair sameLevel
    · exact .levelEvaluated granted ⟨user, present, covered, rfl⟩ evaluated
        member samePair sameLevel
  · exact World.ensures_pure.mpr
      (.leveledUp granted ⟨user, present, covered, rfl⟩ evaluated started)

theorem outcome_cancelBreeding (req : Req) (body : BreedCancelDto) :
    (surroundings admitted).Ensures
      ((fun _ => .done) <$> BreedController.cancelBreeding req body)
      (Outcome app admitted db (.cancelBreeding req body)) db := by
  rw [World.ensures_map]
  refine (returns_breedPairFindFirst _).ensures_bind ?_
  intro found answer
  obtain ⟨oracle, -, rfl⟩ := answer
  cases found : oracle.findFirst db.breedPair.rows
      (BreedController.ownPair req.user body.pairId) with
  | none => exact World.ensures_throw.mpr .refused
  | some pair =>
      obtain ⟨listed, own⟩ := Oracle.findFirst_eq_some found
      refine ensures_breedPairUpdate ?_ fun _ _ => ?_
      · intro missing
        exact absurd rfl (Table.find_eq_none.mp missing pair listed)
      refine ensures_breedSlotUpdate ?_ fun _ _ => ?_
      · intro missing
        have canceled : db.cancelPair pair =
            db.updateBreedPair (fun other => other.id = pair.id)
              (.status .CANCELED) :=
          Db.updateBreedSlot_of_unmatched (missing_find missing)
        rw [← canceled]
        exact .pairCanceled listed own (.inr missing)
      · exact World.ensures_pure.mpr (.pairCanceled listed own (.inl rfl))

theorem outcome_finalizeBreeding (req : Req) (body : BreedFinalizeDto) :
    (surroundings admitted).Ensures
      (.reward <$> BreedController.finalizeBreeding app req body)
      (Outcome app admitted db (.finalizeBreeding req body)) db := by
  rw [World.ensures_map]
  refine (returns_breedPairFindFirst _).ensures_bind ?_
  intro found answer
  obtain ⟨oracle, -, rfl⟩ := answer
  cases found : oracle.findFirst db.breedPair.rows
      (BreedController.ownPair req.user body.pairId) with
  | none => exact World.ensures_throw.mpr .refused
  | some pair =>
      obtain ⟨listed, own⟩ := Oracle.findFirst_eq_some found
      have identified : pair.id = body.pairId := (decide_eq_true_iff.mp own).1
      refine World.reads_throwIf.ensures_bind (fun _ => .refused)
        fun _ reached => ?_
      refine ensures_evaluateBreedLevel (fun _ _ => .refused)
        (fun _ _ _ _ _ => .refused) ?_
      intro level buds evaluable
      have granted : FinalizeGranted app admitted db req body pair level buds :=
        ⟨listed, own, not_lt.mp reached, evaluable⟩
      rw [World.ensures_bind, BreedService.finalizeBreeding]
      refine World.Returns.ensures_bind
        (returns_ask (.breedLevelSumBonusRate _) rfl) fun bonus _ => ?_
      refine World.Ensures.mono (returns_diceGen1Bud app _) ?_
      intro result final given
      obtain ⟨rfl, dice, rfl, -⟩ := given
      refine ensures_breedSlotUpdate ?_ fun _ _ => ?_
      · exact fun missing => .finalizeBlocked granted missing
      refine ensures_breedPairUpdate ?_ fun _ _ => ?_
      · intro missing
        exact absurd identified (Table.find_eq_none.mp missing pair listed)
      rw [← identified]
      cases dice with
      | none => exact World.ensures_pure.mpr (.finalizeLost granted)
      | some data =>
          refine ensures_openNextSlot ?_ ?_
          · intro closed
            refine ensures_issueGen1BudMint ?_ ?_
            · intro clock signer _ _ _ error
              exact .finalizeUnsigned granted (.inl ⟨closed, rfl⟩)
            · intro now signature row _
              exact World.ensures_pure.mpr
                (.finalizeWon granted (.inl ⟨closed, rfl⟩))
          · intro slot member closed opened
            refine ensures_issueGen1BudMint ?_ ?_
            · intro clock signer _ _ _ error
              exact .finalizeUnsigned granted (.inr ⟨slot, member, closed, rfl⟩)
            · intro now signature row _
              exact World.ensures_pure.mpr
                (.finalizeWon granted (.inr ⟨slot, member, closed, rfl⟩))

theorem outcome_renameGen1Buds (req : Req) (body : RenameGen1BudDto) :
    (surroundings admitted).Ensures
      ((fun bud => .gen1Bud (some bud)) <$>
        BudController.renameGen1Buds app req body)
      (Outcome app admitted db (.renameGen1Buds req body)) db := by
  rw [World.ensures_map]
  refine (returns_ask (.gen1BudFindFirst _) rfl).ensures_bind ?_
  intro found answer
  obtain ⟨oracle, -, answered⟩ := answer
  cases found with
  | none => exact World.ensures_throw.mpr .refused
  | some bud =>
      obtain ⟨listed, own⟩ := Oracle.findFirst_eq_some answered.symm
      refine (returns_ask .dateNow rfl).ensures_bind fun now _ => ?_
      refine World.reads_throwIf.ensures_bind (fun _ => .refused) fun _ _ => ?_
      refine (returns_checkBudName _).ensures_bind fun isValid _ => ?_
      cases isValid with
      | false => exact World.ensures_throw.mpr .refused
      | true =>
          refine World.ensures_tail.mp (ensures_gen1BudUpdateName
            (fun _ => .refused) fun row => ?_)
          exact World.ensures_pure.mpr
            (.gen1Renamed listed (decide_eq_true_iff.mp own))

theorem outcome_invalidateBreedingPairByBudId (body : InvalidateBreedingDto) :
    (surroundings admitted).Ensures
      (.invalidated <$> AdminController.invalidateBreedingPairByBudId body)
      (Outcome app admitted db (.invalidateBreedingPairByBudId body)) db := by
  rw [World.ensures_map]
  refine (reads_isGen0BudOwner _ _).ensures_bind (fun _ => .refused)
    fun _ _ => ?_
  refine (returns_breedPairFindMany _).ensures_bind fun pairs selected => ?_
  split
  · exact World.ensures_pure.mpr .nothingInvalidated
  · refine ensures_breedPairUpdateMany (ensures_breedSlotUpdateMany ?_)
    exact World.ensures_pure.mpr (.ownersPairsFailed selected)

theorem outcome_invalidSlotsForGameKey (body : InvalidateSlotsDto)
    (accepted : body.valid = true) :
    (surroundings admitted).Ensures
      (.invalidated <$> AdminController.invalidSlotsForGameKey app body)
      (Outcome app admitted db (.invalidSlotsForGameKey body)) db := by
  have selecting (deletable : ∀ oracle, admitted oracle →
      SlotsDeletable app admitted body) : (surroundings admitted).Ensures
      (do
        let slots ← Prisma.breedSlotFindMany
          (AdminController.keySlot body.prevOwner body.gameKeyId)
        if slots.length = 0 then
          return none
        else do
          let deletedAt ← dateNow
          Prisma.breedSlotUpdateMany
            (fun slot => slot.id ∈ slots.map BreedSlot.id)
            (.deletedAt deletedAt)
          Prisma.breedPairUpdateMany
            (fun pair => pair.slotId ∈ slots.map BreedSlot.id)
            (.status .FAILED)
          return some (invalidated slots.length "slot"))
      (fun result => Outcome app admitted db (.invalidSlotsForGameKey body)
        (result.map .invalidated)) db := by
    refine (returns_breedSlotFindMany _).ensures_bind fun slots selected => ?_
    split
    · exact World.ensures_pure.mpr .nothingInvalidated
    · refine (returns_ask .dateNow rfl).ensures_bind ?_
      intro deletedAt answer
      obtain ⟨oracle, allowed, -⟩ := answer
      refine ensures_breedSlotUpdateMany (ensures_breedPairUpdateMany ?_)
      exact World.ensures_pure.mpr
        (.keySlotsDeleted (deletable oracle allowed) selected)
  rw [World.ensures_map, AdminController.invalidSlotsForGameKey]
  split
  · exact World.ensures_pure.mpr .nothingInvalidated
  · next unstaked =>
      split
      · exact World.ensures_pure.mpr .nothingInvalidated
      · next unstaking =>
          split
          · refine (reads_isGameKeyOwner _ _).ensures_bind (fun _ => .refused) ?_
            rintro - ⟨oracle, allowed, owned⟩
            exact selecting fun _ _ => ⟨accepted, unstaked, unstaking,
              oracle, allowed, .inr owned⟩
          · next forced =>
              exact selecting fun oracle allowed => ⟨accepted, unstaked,
                unstaking, oracle, allowed, .inl (not_not.mp forced)⟩

theorem outcome_addBreedingPoint (body : BreedingPointDto)
    (accepted : body.valid = true) :
    (surroundings admitted).Ensures
      (.success <$> AdminController.addBreedingPoint app body)
      (Outcome app admitted db (.addBreedingPoint body)) db := by
  rw [World.ensures_map]
  refine (reads_validateTransaction app body.toAdminDtoBase _).ensures_bind
    (fun _ => .refused) fun _ unhandled => ?_
  refine (returns_userFindUnique _).ensures_bind ?_
  rintro found rfl
  cases found : db.user.find body.address with
  | none => exact World.ensures_throw.mpr .refused
  | some user =>
      rw [World.ensures_tryCatch]
      refine ensures_eventServiceLogCreate ?_ fun block logged => ?_
      · exact fun _ _ => World.ensures_pure.mpr .depositRejected
      refine ensures_userUpdate ?_ fun same column _ credited => ?_
      · rintro (rejected | absent) error
        · exact World.ensures_pure.mpr
            (.depositLogged unhandled found logged rejected)
        · exact nomatch found.symm.trans absent
      · exact World.ensures_pure.mpr
          (.deposited accepted unhandled found logged credited)

theorem outcome_withdrawBreedingPoint (body : BreedingPointDto)
    (accepted : body.valid = true) :
    (surroundings admitted).Ensures
      (.success <$> AdminController.withdrawBreedingPoint app body)
      (Outcome app admitted db (.withdrawBreedingPoint body)) db := by
  rw [World.ensures_map]
  refine (reads_validateTransaction app body.toAdminDtoBase _).ensures_bind
    (fun _ => .refused) fun _ unhandled => ?_
  refine (returns_userFindUnique _).ensures_bind ?_
  rintro found rfl
  cases found : db.user.find body.address with
  | none => exact World.ensures_throw.mpr .refused
  | some user =>
      rw [World.ensures_tryCatch]
      refine ensures_userUpdate ?_ fun same column _ debited => ?_
      · exact fun _ _ => World.ensures_pure.mpr .withdrawalRejected
      refine ensures_eventServiceLogCreate ?_ fun block logged => ?_
      · exact fun unlogged _ => World.ensures_pure.mpr
          (.withdrawalUnlogged accepted unhandled found debited unlogged)
      · exact World.ensures_pure.mpr
          (.withdrawn accepted unhandled found debited logged)

theorem outcome_burnGen0Buds (body : BurnGen0Buds) (accepted : body.valid = true) :
    (surroundings admitted).Ensures
      (.gen1Bud <$> AdminController.burnGen0Buds app body)
      (Outcome app admitted db (.burnGen0Buds body)) db := by
  rw [World.ensures_map]
  refine (reads_validateTransaction app body.toAdminDtoBase _).ensures_bind
    (fun _ => .refused) fun _ unhandled => ?_
  refine (returns_userFindUnique _).ensures_bind ?_
  rintro row rfl
  cases found : db.user.find body.address with
  | none => exact World.ensures_throw.mpr .refused
  | some user =>
      refine (reads_verifyBudPairs _ _ _ _).ensures_bind (fun _ => .refused) ?_
      intro metadatas verified
      obtain ⟨burned, valid, fetched⟩ := verified
      refine (returns_breedPairCount _).ensures_bind ?_
      rintro conflicts rfl
      refine World.reads_throwIf.ensures_bind (fun _ => .refused) ?_
      intro _ counted
      have unpaired : ∀ pair ∈ db.breedPair.rows, BreedService.pairInBreeding
          body.maleBudId body.femaleBudId pair = false := by
        simpa [List.countP_eq_zero] using counted
      have granted : BurnGranted app admitted db body := ⟨accepted, unhandled,
        ⟨user, found⟩, burned, valid, ⟨metadatas, fetched rfl⟩, unpaired⟩
      refine (returns_diceGen1Bud app _).ensures_bind fun dice _ => ?_
      cases dice with
      | none =>
          refine ensures_eventServiceLogCreate (fun _ _ => .refused)
            fun block logged => ?_
          exact World.ensures_pure.mpr (.burnLost granted logged)
      | some data =>
          refine ensures_issueGen1BudMint ?_ ?_
          · intro clock signer _ allowed unsigned error
            exact .burnUnsigned granted allowed unsigned
          · intro now signature row identified
            rw [identified]
            refine ensures_eventServiceLogCreate ?_ fun block logged => ?_
            · intro unlogged error
              exact .burnUnlogged granted
                fun block _ accepted => unlogged block accepted
            · exact World.ensures_pure.mpr (.burnWon granted logged)

end Handlers

/-- Every way a request can be handled. -/
theorem outcome_of_handles {app : App} {admitted : Oracle → Prop}
    {db after : Db} {exchange : Exchange}
    (handles : Handles app admitted db exchange after) :
    Outcome app admitted db exchange.request exchange.response after := by
  suffices every : (surroundings admitted).Ensures (handle app exchange.request)
      (Outcome app admitted db exchange.request) db from
    every _ _ handles
  cases exchange.request with
  | login body => exact ensures_validated fun _ => outcome_login body
  | convertBp2High req body =>
      exact ensures_validated (outcome_convertBp2High req body)
  | openSlot req body => exact outcome_openSlot req body
  | convertIndoor req body => exact outcome_convertIndoor req body
  | purchaseLand req => exact outcome_purchaseLand req
  | invalidatePair req body => exact outcome_invalidatePair req body
  | createPair req body =>
      exact ensures_validated fun _ => outcome_createPair req body
  | levelBreedingUp req body => exact outcome_levelBreedingUp req body
  | cancelBreeding req body => exact outcome_cancelBreeding req body
  | finalizeBreeding req body => exact outcome_finalizeBreeding req body
  | renameGen1Buds req body =>
      exact ensures_validated fun _ => outcome_renameGen1Buds req body
  | invalidateBreedingPairByBudId body =>
      exact ensures_validated fun _ =>
        outcome_invalidateBreedingPairByBudId body
  | invalidSlotsForGameKey body =>
      exact ensures_validated (outcome_invalidSlotsForGameKey body)
  | addBreedingPoint body =>
      exact ensures_validated (outcome_addBreedingPoint body)
  | withdrawBreedingPoint body =>
      exact ensures_validated (outcome_withdrawBreedingPoint body)
  | burnGen0Buds body =>
      exact ensures_validated (outcome_burnGen0Buds body)

end BudBreeding.Backend
