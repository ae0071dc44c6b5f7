import BudBreeding.Backend.Schema

namespace BudBreeding.Backend

open Data

/-! The `data` arguments of the Prisma statements and what they write. -/

structure BreedPairCreate where
  userAddress : Address
  gameKeyId : Int
  maleBudId : Int
  femaleBudId : Int
  rate : Rat
  status : BreedPairStatus
  slotId : Int
  gameItemId : Option Int

def BreedPairCreate.row (data : BreedPairCreate) (now : Time) (id : Int) :
    BreedPair where
  id := id
  maleBudId := data.maleBudId
  femaleBudId := data.femaleBudId
  rate := data.rate
  createdAt := now
  userAddress := data.userAddress
  currentLevel := 0
  status := data.status
  slotId := data.slotId
  gameKeyId := data.gameKeyId
  gameItemId := data.gameItemId

@[simp] theorem BreedPairCreate.row_id (data : BreedPairCreate) (now : Time)
    (id : Int) : (data.row now id).id = id := rfl

inductive BreedPairUpdate where
  | status (value : BreedPairStatus)
  | currentLevel (value : Int)

def BreedPairUpdate.apply : BreedPairUpdate → BreedPair → BreedPair
  | .status value, pair => { pair with status := value }
  | .currentLevel value, pair => { pair with currentLevel := value }

theorem BreedPairUpdate.apply_id (data : BreedPairUpdate) (pair : BreedPair) :
    (data.apply pair).id = pair.id := by
  cases data <;> rfl

structure BreedLevelCreate where
  level : Int
  pairId : Int
  bonusRate : Rat

def BreedLevelCreate.row (data : BreedLevelCreate) (now : Time) (id : Int) :
    BreedLevel where
  id := id
  pairId := data.pairId
  level := data.level
  createdAt := now
  bonusRate := data.bonusRate
  maleBreedBudId := none
  femaleBreedBudId := none

@[simp] theorem BreedLevelCreate.row_id (data : BreedLevelCreate) (now : Time)
    (id : Int) : (data.row now id).id = id := rfl

structure BreedLevelUpdate where
  bonusRate : Rat
  maleBreedBudId : Int
  femaleBreedBudId : Int

def BreedLevelUpdate.apply (data : BreedLevelUpdate) (level : BreedLevel) :
    BreedLevel :=
  { level with
    bonusRate := data.bonusRate
    maleBreedBudId := some data.maleBreedBudId
    femaleBreedBudId := some data.femaleBreedBudId }

theorem BreedLevelUpdate.apply_id (data : BreedLevelUpdate)
    (level : BreedLevel) : (data.apply level).id = level.id := rfl

def breedBudRow (levelId : Int) (now : Time) (bud : Bud) (id : Int) :
    BreedBud :=
  { bud with id := id, createdAt := now, levelId := levelId }

@[simp] theorem breedBudRow_id (levelId : Int) (now : Time) (bud : Bud)
    (id : Int) : (breedBudRow levelId now bud id).id = id := rfl

structure BreedSlotCreate where
  gameKeyId : Option Int
  landTokenId : Option Int
  userAddress : Address
  isOpen : Bool

def BreedSlotCreate.row (data : BreedSlotCreate) (id : Int) : BreedSlot where
  id := id
  isOpen := data.isOpen
  isUsed := false
  type := .OUTDOOR
  gameKeyId := data.gameKeyId
  landTokenId := data.landTokenId
  userAddress := data.userAddress
  deletedAt := none

@[simp] theorem BreedSlotCreate.row_id (data : BreedSlotCreate) (id : Int) :
    (data.row id).id = id := rfl

inductive BreedSlotUpdate where
  | type (value : BreedSlotType)
  | isUsed (value : Bool)
  | isOpen (value : Bool)
  | deletedAt (value : Time)

def BreedSlotUpdate.apply : BreedSlotUpdate → BreedSlot → BreedSlot
  | .type value, slot => { slot with type := value }
  | .isUsed value, slot => { slot with isUsed := value }
  | .isOpen value, slot => { slot with isOpen := value }
  | .deletedAt value, slot => { slot with deletedAt := some value }

theorem BreedSlotUpdate.apply_id (data : BreedSlotUpdate) (slot : BreedSlot) :
    (data.apply slot).id = slot.id := by
  cases data <;> rfl

theorem BreedSlotUpdate.apply_gameKeyId (data : BreedSlotUpdate) (slot : BreedSlot) :
    (data.apply slot).gameKeyId = slot.gameKeyId := by
  cases data <;> rfl

theorem BreedSlotUpdate.apply_landTokenId (data : BreedSlotUpdate) (slot : BreedSlot) :
    (data.apply slot).landTokenId = slot.landTokenId := by
  cases data <;> rfl

structure EventServiceLogCreate where
  address : Address
  txHash : String
  blockNumber : Rat
  type : EventType
  data : EventData

def EventServiceLogCreate.row (data : EventServiceLogCreate)
    (blockNumber id : Int) : EventServiceLog where
  id := id
  address := data.address
  txHash := data.txHash
  blockNumber := blockNumber
  type := data.type
  data := data.data

@[simp] theorem EventServiceLogCreate.row_id (data : EventServiceLogCreate)
    (blockNumber id : Int) : (data.row blockNumber id).id = id := rfl

structure Gen1BudCreate where
  bud : Bud
  pairId : Option Int
  minterAddress : Address
  signature : String

def Gen1BudCreate.row (data : Gen1BudCreate) (now : Time) (id : Int) :
    Gen1Bud :=
  { data.bud with
    id := id
    createdAt := now
    minterAddress := data.minterAddress
    signature := data.signature
    pairId := data.pairId }

@[simp] theorem Gen1BudCreate.row_id (data : Gen1BudCreate) (now : Time)
    (id : Int) : (data.row now id).id = id := rfl

inductive Gen1BudUpdate where
  | signature (value : String)
  | name (value : String)

def Gen1BudUpdate.apply : Gen1BudUpdate → Gen1Bud → Gen1Bud
  | .signature value, bud => { bud with signature := value }
  | .name value, bud => { bud with name := value }

theorem Gen1BudUpdate.apply_id (data : Gen1BudUpdate) (bud : Gen1Bud) :
    (data.apply bud).id = bud.id := by
  cases data <;> rfl

namespace Db

def setBreedingPoint (db : Db) (address : Address) (column : Int) : Db :=
  { db with
    user := db.user.modify (fun user => user.address = address)
      (fun user => { user with breedingPoint := column }) (fun _ => rfl) }

def upsertUser (db : Db) (address : Address) (signature : String)
    (gameKeyId : Int) : Db :=
  match found : db.user.find address with
  | some _ =>
      { db with
        user := db.user.modify (fun user => user.address = address)
          (fun user =>
            { user with signature := signature, gameKeyId := some gameKeyId })
          (fun _ => rfl) }
  | none =>
      { db with
        user := db.user.insert ⟨address, signature, some gameKeyId, 0⟩
          (Table.find_eq_none.mp found) }

def createBreedPair (db : Db) (data : BreedPairCreate) (now : Time) : Db :=
  { db with
    breedPair := db.breedPair.create (data.row now) (data.row_id now) }

def updateBreedPair (db : Db) (filter : BreedPair → Bool)
    (data : BreedPairUpdate) : Db :=
  { db with
    breedPair := db.breedPair.modify filter data.apply data.apply_id }

def createBreedLevel (db : Db) (data : BreedLevelCreate) (now : Time) : Db :=
  { db with
    breedLevel := db.breedLevel.create (data.row now) (data.row_id now) }

def updateBreedLevel (db : Db) (filter : BreedLevel → Bool)
    (data : BreedLevelUpdate) : Db :=
  { db with
    breedLevel := db.breedLevel.modify filter data.apply data.apply_id }

def createBreedBuds (db : Db) (levelId : Int) (buds : List Bud)
    (now : Time) : Db :=
  { db with
    breedBud :=
      db.breedBud.createMany (breedBudRow levelId now)
        (breedBudRow_id levelId now) buds }

def createBreedSlots (db : Db) (data : List BreedSlotCreate) : Db :=
  { db with
    breedSlot :=
      db.breedSlot.createMany BreedSlotCreate.row BreedSlotCreate.row_id data }

theorem rows_createBreedSlots (db : Db) (data : List BreedSlotCreate) :
    (db.createBreedSlots data).breedSlot.rows =
      db.breedSlot.rows ++
        Serial.numbered BreedSlotCreate.row db.breedSlot.nextId data :=
  Serial.rows_createMany data

def updateBreedSlot (db : Db) (filter : BreedSlot → Bool)
    (data : BreedSlotUpdate) : Db :=
  { db with
    breedSlot := db.breedSlot.modify filter data.apply data.apply_id }

def createEventServiceLog (db : Db) (data : EventServiceLogCreate)
    (blockNumber : Int) : Db :=
  { db with
    eventServiceLog :=
      db.eventServiceLog.create (data.row blockNumber)
        (data.row_id blockNumber) }

def createGen1Bud (db : Db) (data : Gen1BudCreate) (now : Time) : Db :=
  { db with gen1Bud := db.gen1Bud.create (data.row now) (data.row_id now) }

def updateGen1Bud (db : Db) (id : Int) (data : Gen1BudUpdate) : Db :=
  { db with
    gen1Bud := db.gen1Bud.modify (fun bud => bud.id = id) data.apply
      data.apply_id }

end Db

end BudBreeding.Backend
