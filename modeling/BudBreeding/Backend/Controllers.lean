import BudBreeding.Backend.Services

namespace BudBreeding.Backend

open Program

/-! The endpoints that write to the database, with the DTOs they receive. -/

/-- What `AuthMiddleware` adds to an authenticated request. -/
structure Req where
  user : Address
  gameKeyId : Int
  deriving DecidableEq, Repr

structure LoginDto where
  message : String
  address : Address
  gameKeyId : Int
  signature : String
  deriving DecidableEq, Repr

def LoginDto.valid (body : LoginDto) : Bool :=
  body.message ≠ "" ∧ body.address ≠ "" ∧ body.signature ≠ ""

structure ConvertBPDto where
  amount : Rat
  deriving DecidableEq, Repr

def ConvertBPDto.valid (body : ConvertBPDto) : Bool :=
  1 ≤ body.amount

structure OpenSlotDto where
  slotId : Int
  deriving DecidableEq, Repr

structure CreateBreedPairDto where
  maleBudId : Int
  femaleBudId : Int
  slotId : Int
  gameItemId : Option Int
  upgradeSlot : Option Bool
  deriving DecidableEq, Repr

def CreateBreedPairDto.valid (body : CreateBreedPairDto) : Bool :=
  body.gameItemId.all fun id => 1 ≤ id ∧ id ≤ 5

structure InvalidBreedPairDto where
  maleBudId : Int
  femaleBudId : Int
  deriving DecidableEq, Repr

structure BreedUpDto where
  pairId : Int
  maleBudId : Int
  femaleBudId : Int
  deriving DecidableEq, Repr

structure BreedCancelDto where
  pairId : Int
  deriving DecidableEq, Repr

structure BreedFinalizeDto where
  pairId : Int
  maleBudId : Int
  femaleBudId : Int
  deriving DecidableEq, Repr

structure RenameGen1BudDto where
  budId : Int
  name : String
  deriving DecidableEq, Repr

def RenameGen1BudDto.valid (body : RenameGen1BudDto) : Bool :=
  body.name ≠ "" ∧ body.name.length ≤ 15

structure InvalidateBreedingDto where
  prevOwner : Address
  owner : Address
  budId : Int
  deriving DecidableEq, Repr

def InvalidateBreedingDto.valid (body : InvalidateBreedingDto) : Bool :=
  body.prevOwner ≠ "" ∧ body.owner ≠ ""

structure InvalidateSlotsDto where
  prevOwner : Address
  owner : Address
  gameKeyId : Int
  option : Int
  deriving DecidableEq, Repr

def InvalidateSlotsDto.valid (body : InvalidateSlotsDto) : Bool :=
  body.prevOwner ≠ "" ∧ body.owner ≠ ""

structure AdminDtoBase where
  address : Address
  txHash : String
  block : Rat
  network : String
  deriving DecidableEq, Repr

def AdminDtoBase.valid (body : AdminDtoBase) : Bool :=
  body.address ≠ "" ∧ body.txHash ≠ "" ∧
    (body.network = "goerli" ∨ body.network = "mainnet")

structure BreedingPointDto extends AdminDtoBase where
  amount : Rat
  deriving DecidableEq, Repr

def BreedingPointDto.valid (body : BreedingPointDto) : Bool :=
  body.toAdminDtoBase.valid ∧ 1 ≤ body.amount ∧ body.amount ≤ 10000 * 100

structure BurnGen0Buds extends AdminDtoBase where
  maleBudId : Int
  femaleBudId : Int
  deriving DecidableEq, Repr

def BurnGen0Buds.valid (body : BurnGen0Buds) : Bool :=
  body.toAdminDtoBase.valid ∧
    0 ≤ body.maleBudId ∧ body.maleBudId ≤ 20000 ∧
    0 ≤ body.femaleBudId ∧ body.femaleBudId ≤ 20000

/-- What `jwtEncodeUser` signs. -/
structure AccessToken where
  address : Address
  gameKeyId : Int
  deriving DecidableEq, Repr

/-- A promise is an object, so it is truthy whatever it resolves to. -/
def isTruthy {α : Type} (_promise : Handler α) : Bool :=
  true

namespace UserController

def login (app : App) (body : LoginDto) : Handler AccessToken := do
  let isValid ← UserService.isValidMessage body.gameKeyId body.message
  Prog.throwIf (isValid = false)
    (BadRequestError "Invalid message and/or timestamp.")
  -- The call is not awaited: the promise itself is tested.
  Prog.throwIf
    (isTruthy (UserService.isGameKeyStaked app body.gameKeyId) = false)
    (UnproceesableEntityError "Game key is not staked")
  let derivedAddress ← verifyMessage body.message body.signature
  if derivedAddress.toLower = body.address.toLower then do
    (LandService.createFreeLandSlots body.address body.gameKeyId).tryCatch
      fun _ => .throw (BreedingError "Error during open up free slots")
    let user ← Prisma.userUpsert body.address body.signature body.gameKeyId
    return ⟨user.address, body.gameKeyId⟩
  else
    .throw (BadRequestError "Signature and Address do not match.")

structure SignedConversion where
  signature : Option String
  timestamp : Time
  amount : Rat
  deriving DecidableEq, Repr

def convertBp2High (req : Req) (body : ConvertBPDto) :
    Handler SignedConversion := do
  let user ← Prisma.userFindUnique req.user
  match user with
  | none => .throw (NotFoundError "User not found.")
  | some user => do
      Prog.throwIf ((user.breedingPoint : Rat) < body.amount)
        (UnproceesableEntityError "Not enough balance")
      let timestamp ← dateNow
      let signature ← signMintRequest req.user .ConvertBP2HIGH 0
        (body.amount * 100) timestamp
      return ⟨signature, timestamp, body.amount * 100⟩

end UserController

namespace LandController

def userSlot (user : Address) (slotId : Int) (slot : BreedSlot) : Bool :=
  slot.id = slotId ∧ slot.userAddress = user ∧ slot.deletedAt = none

def openSlot (app : App) (req : Req) (body : OpenSlotDto) :
    Handler BreedSlot := do
  let slot ← Prisma.breedSlotFindFirst (userSlot req.user body.slotId)
  match slot with
  | none => .throw (NotFoundError "Slot not found")
  | some slot => do
      Prog.throwIf (slot.isOpen = true) (BadRequestError "Slot is already open")
      let _ ← UserService.consumeBreedingPoint req.user
        app.config.breedingPointToOpenSlot
      Prisma.breedSlotUpdate body.slotId (.isOpen true)

def convertIndoor (app : App) (req : Req) (body : OpenSlotDto) :
    Handler BreedSlot := do
  let slot ← Prisma.breedSlotFindFirst (userSlot req.user body.slotId)
  match slot with
  | none => .throw (NotFoundError "Slot not found")
  | some slot => do
      Prog.throwIf (slot.type = .INDOOR)
        (BadRequestError "This slot is already INDOOR type")
      let _ ← UserService.consumeBreedingPoint req.user
        app.config.breedingPointToCovertIndoor
      Prisma.breedSlotUpdate body.slotId (.type .INDOOR)

structure Purchase where
  purchasedLands : List BreedSlot
  breedingPoint : Int
  deriving DecidableEq, Repr

def purchaseLand (app : App) (req : Req) : Handler Purchase := do
  let currentTimestamp ← dateNow
  let _ ← UserService.consumeBreedingPoint req.user app.config.landPrice
  LandService.createNewLandSlots req.user currentTimestamp
  let purchasedLands ← Prisma.breedSlotFindMany
    (LandService.landSlot req.user currentTimestamp)
  let userObject ← Prisma.userFindUnique req.user
  match userObject with
  | none => .throw .typeError
  | some userObject => return ⟨purchasedLands, userObject.breedingPoint⟩

end LandController

/-- `none` is the response `{ success: false, data: null }`. -/
def invalidated (count : Nat) (noun : String) : String :=
  (if count > 1 then toString count ++ " " ++ noun ++ "s are "
    else toString count ++ " " ++ noun ++ " is ") ++ "invalidated"

namespace BreedController

def othersPairs (user : Address) (maleBudId femaleBudId : Int)
    (pair : BreedPair) : Bool :=
  pair.userAddress ≠ user ∧ pair.status = .PAIRED ∧
    (pair.femaleBudId = femaleBudId ∨ pair.maleBudId = maleBudId)

def invalidatePair (req : Req) (body : InvalidBreedPairDto) :
    Handler (Option String) := do
  let _ ← BudService.verifyBudPairs req.user body.maleBudId body.femaleBudId true
  let pairs ← Prisma.breedPairFindMany
    (othersPairs req.user body.maleBudId body.femaleBudId)
  if pairs.length = 0 then
    return none
  else do
    Prisma.breedPairUpdateMany
      (fun pair => pair.id ∈ pairs.map BreedPair.id) (.status .FAILED)
    Prisma.breedSlotUpdateMany
      (fun slot => slot.id ∈ pairs.map BreedPair.slotId) (.isUsed false)
    return some (invalidated pairs.length "pair")

/-- `slot.gameKeyId && slot.gameKeyId !== gameKeyId`. -/
def otherKeysSlot (slot : BreedSlot) (gameKeyId : Int) : Bool :=
  match slot.gameKeyId with
  | none => false
  | some key => key ≠ 0 ∧ key ≠ gameKeyId

/-- `if (body.gameItemId)`. -/
def checkGameItem (user : Address) (gameItemId : Option Int) : Handler Unit :=
  match gameItemId with
  | none => return ()
  | some id =>
      if id = 0 then return ()
      else BreedService.checkGameItemBalance user id 1

/-- A farmer pass turns the slot of the pair indoor. -/
def upgradeSlot (body : CreateBreedPairDto) (slot : BreedSlot) :
    Handler BreedSlot :=
  if body.upgradeSlot = some true ∧
      body.gameItemId = some GameItem.FARMER_PASS ∧ slot.type = .OUTDOOR then
    Prisma.breedSlotUpdate slot.id (.type .INDOOR)
  else
    return slot

def createPair (app : App) (req : Req) (body : CreateBreedPairDto) :
    Handler BreedPair := do
  let metadatas ← BudService.verifyBudPairs req.user body.maleBudId
    body.femaleBudId true
  checkGameItem req.user body.gameItemId
  let conflicts ← BreedService.findPairInBreeding body.maleBudId body.femaleBudId
  Prog.throwIf (0 < conflicts)
    (ConflictRequestError "One of the bud pairs is in breeding")
  let slot ← LandService.findOpenBreedSlotById req.user body.slotId
  match slot with
  | none => .throw (BadRequestError
      "Given slot is not open, not yours or being used for the other pair")
  | some slot => do
      Prog.throwIf (otherKeysSlot slot req.gameKeyId = true) (BadRequestError
        "Given slot is not open, not yours or being used for the other pair")
      let slot ← upgradeSlot body slot
      let startSuccessRate ← BreedService.getStartSuccessRate app
        body.maleBudId body.femaleBudId body.gameItemId slot
      let pair ← Prisma.breedPairCreate
        { userAddress := req.user
          gameKeyId := req.gameKeyId
          maleBudId := body.maleBudId
          femaleBudId := body.femaleBudId
          rate := startSuccessRate
          status := .PAIRED
          slotId := body.slotId
          gameItemId := body.gameItemId }
      let _ ← Prisma.breedSlotUpdate body.slotId (.isUsed true)
      BreedService.startBreedLevel app pair
        (metadatas[0]?.map BudWithId.toBud) (metadatas[1]?.map BudWithId.toBud)
      return pair

def ownPair (user : Address) (pairId : Int) (pair : BreedPair) : Bool :=
  pair.id = pairId ∧ pair.userAddress = user ∧ pair.status = .PAIRED

def levelBreedingUp (app : App) (req : Req) (body : BreedUpDto) :
    Handler BonusRateStatus := do
  let pair ← Prisma.breedPairFindFirst (ownPair req.user body.pairId)
  match pair with
  | none => .throw (NotFoundError "Breed pair not found")
  | some pair => do
      Prog.throwIf (pair.currentLevel > app.config.targetLevel)
        (BadRequestError "Target level reached. Do finalize!")
      BreedService.verifyGameItemPossession pair
      let _ ← BudService.verifyBudPairs pair.userAddress pair.maleBudId
        pair.femaleBudId false
      let _ ← UserService.consumeBreedingPoint req.user
        app.config.breedingPointPerLevel
      let evaluation ← BreedService.evaluateBreedLevel app pair body.maleBudId
        body.femaleBudId
      BreedService.startBreedLevel app pair evaluation.maleBud
        evaluation.femaleBud
      return getBonusRateStatus evaluation.bonusRate

def cancelBreeding (req : Req) (body : BreedCancelDto) : Handler Unit := do
  let pair ← Prisma.breedPairFindFirst (ownPair req.user body.pairId)
  match pair with
  | none => .throw (NotFoundError "Breed pair not found")
  | some pair => do
      let _ ← Prisma.breedPairUpdate pair.id (.status .CANCELED)
      let _ ← Prisma.breedSlotUpdate pair.slotId (.isUsed false)
      return ()

structure Gen1Reward where
  bud : Gen1Bud
  slot : Option BreedSlot
  deriving DecidableEq, Repr

def closedSlot (user : Address) (slot : BreedSlot) : Bool :=
  slot.userAddress = user ∧ slot.isOpen = false ∧ slot.deletedAt = none

/-- A successful breeding opens one more slot of the user, if one is closed. -/
def openNextSlot (user : Address) : Handler (Option BreedSlot) := do
  let slot ← Prisma.breedSlotFindFirst (closedSlot user)
  match slot with
  | none => return none
  | some slot => do
      let opened ← Prisma.breedSlotUpdate slot.id (.isOpen true)
      return some opened

def finalizeBreeding (app : App) (req : Req) (body : BreedFinalizeDto) :
    Handler (Option Gen1Reward) := do
  let pair ← Prisma.breedPairFindFirst (ownPair req.user body.pairId)
  match pair with
  | none => .throw (NotFoundError "Breed pair not found")
  | some pair => do
      Prog.throwIf (pair.currentLevel < app.config.targetLevel)
        (BadRequestError "Breed target level not reached")
      let _ ← BreedService.evaluateBreedLevel app pair body.maleBudId
        body.femaleBudId
      let result ← BreedService.finalizeBreeding app pair
      let _ ← Prisma.breedSlotUpdate pair.slotId (.isUsed false)
      let _ ← Prisma.breedPairUpdate body.pairId
        (.status (if result.isSome then .COMPLETED else .FAILED))
      match result with
      | some data => do
          let slot ← openNextSlot req.user
          let gen1Bud ← BudService.issueGen1BudMint req.user data (some pair.id)
          return some ⟨gen1Bud, slot⟩
      | none => return none

end BreedController

namespace BudController

/-- `String.prototype.trim` of JavaScript. -/
def isWhiteSpace (char : Char) : Bool :=
  (9 ≤ char.toNat ∧ char.toNat ≤ 13) ∨
    (0x2000 ≤ char.toNat ∧ char.toNat ≤ 0x200A) ∨
    char.toNat ∈ [0x20, 0xA0, 0x1680, 0x2028, 0x2029, 0x202F, 0x205F, 0x3000,
      0xFEFF]

def trimBoth (blank : Char → Bool) (text : String) : String :=
  String.ofList
    (((text.toList.dropWhile blank).reverse.dropWhile blank).reverse)

def trim (text : String) : String :=
  trimBoth isWhiteSpace text

/-- `TRIM` of SQL, which removes spaces only. -/
def sqlTrim (text : String) : String :=
  trimBoth (fun char => char = ' ') text

def checkBudName (name : String) : Handler Bool := do
  let count ← Prisma.gen1BudCount fun bud => sqlTrim bud.name = trim name
  if 0 < count then
    return false
  else do
    let valid ← ask (.checkBudNameApi name)
    return valid.getD false

def renameGen1Buds (app : App) (req : Req) (body : RenameGen1BudDto) :
    Handler Gen1Bud := do
  let bud ← Prisma.gen1BudFindFirst
    fun bud => bud.id = body.budId ∧ bud.minterAddress = req.user
  match bud with
  | none => .throw (NotFoundError "Bud not found.")
  | some bud => do
      let now ← dateNow
      Prog.throwIf (bud.createdAt + app.config.renameAllowedTime < now)
        (UnproceesableEntityError "Rename too late.")
      let isValid ← checkBudName body.name
      if isValid then
        Prisma.gen1BudUpdateName body.budId (trim body.name)
      else
        .throw (UnproceesableEntityError
          "Proposed bud name cannot be accepted or duplicated. Please try the other one")

end BudController

namespace AdminController

def ownersPairs (prevOwner : Address) (budId : Int) (pair : BreedPair) : Bool :=
  pair.userAddress = prevOwner ∧ pair.status = .PAIRED ∧
    (pair.femaleBudId = budId ∨ pair.maleBudId = budId)

def invalidateBreedingPairByBudId (body : InvalidateBreedingDto) :
    Handler (Option String) := do
  BudService.isGen0BudOwner body.budId body.owner
  let pairs ← Prisma.breedPairFindMany (ownersPairs body.prevOwner body.budId)
  if pairs.length = 0 then
    return none
  else do
    Prisma.breedPairUpdateMany
      (fun pair => pair.id ∈ pairs.map BreedPair.id) (.status .FAILED)
    Prisma.breedSlotUpdateMany
      (fun slot => slot.id ∈ pairs.map BreedPair.slotId) (.isUsed false)
    return some (invalidated pairs.length "pair")

def keySlot (prevOwner : Address) (gameKeyId : Int) (slot : BreedSlot) : Bool :=
  slot.userAddress = prevOwner ∧ slot.gameKeyId = some gameKeyId

/-- `none` is every response with `success: false`. -/
def invalidSlotsForGameKey (app : App) (body : InvalidateSlotsDto) :
    Handler (Option String) := do
  if body.prevOwner = (ADDRESSES app.config.network).STAKING then
    return none
  else if body.owner = (ADDRESSES app.config.network).STAKING then
    return none
  else do
    if body.option ≠ 201 then
      BudService.isGameKeyOwner body.gameKeyId body.owner
    let slots ← Prisma.breedSlotFindMany (keySlot body.prevOwner body.gameKeyId)
    if slots.length = 0 then
      return none
    else do
      let deletedAt ← dateNow
      Prisma.breedSlotUpdateMany
        (fun slot => slot.id ∈ slots.map BreedSlot.id) (.deletedAt deletedAt)
      Prisma.breedPairUpdateMany
        (fun pair => pair.slotId ∈ slots.map BreedSlot.id) (.status .FAILED)
      return some (invalidated slots.length "slot")

/-- The value of the field `success` of the response. -/
def addBreedingPoint (app : App) (body : BreedingPointDto) : Handler Bool := do
  AdminService.validateTransaction app body.txHash body.network .DEPOSIT_BP
  let user ← Prisma.userFindUnique body.address
  match user with
  | none => .throw (NotFoundError "User not found.")
  | some user =>
      Prog.tryCatch
        (do
          Prisma.eventServiceLogCreate
            { address := body.address
              txHash := body.txHash
              blockNumber := body.block
              type := .DEPOSIT_BP
              data := .breedingPoint body.amount user.breedingPoint }
          let _ ← Prisma.userUpdate body.address
            (user.breedingPoint + body.amount / 100)
          return true)
        (fun _ => return false)

/-- The value of the field `success` of the response.  An insufficient balance
is only logged. -/
def withdrawBreedingPoint (app : App) (body : BreedingPointDto) :
    Handler Bool := do
  AdminService.validateTransaction app body.txHash body.network .WITHDRAW_BP
  let user ← Prisma.userFindUnique body.address
  match user with
  | none => .throw (NotFoundError "User not found.")
  | some user =>
      Prog.tryCatch
        (do
          let _ ← Prisma.userUpdate body.address
            (user.breedingPoint - body.amount / 100)
          Prisma.eventServiceLogCreate
            { address := body.address
              txHash := body.txHash
              blockNumber := body.block
              type := .WITHDRAW_BP
              data := .breedingPoint body.amount user.breedingPoint }
          return true)
        (fun _ => return false)

/-- `validateTransaction` has compared `network` with the configured one, whose
addresses are looked up.  `none` is the response of a lost dice. -/
def burnGen0Buds (app : App) (body : BurnGen0Buds) :
    Handler (Option Gen1Bud) := do
  AdminService.validateTransaction app body.txHash body.network .BURN_GEN0
  let user ← Prisma.userFindUnique body.address
  match user with
  | none => .throw (NotFoundError "User not found.")
  | some _ => do
      let _ ← BudService.verifyBudPairs (ADDRESSES app.config.network).BUD_BURN
        body.maleBudId body.femaleBudId true
      let conflicts ← BreedService.findPairInBreeding body.maleBudId
        body.femaleBudId
      Prog.throwIf (0 < conflicts)
        (ConflictRequestError "One of the bud pairs is in breeding")
      let result ← BudService.diceGen1Bud app app.config.burnSuccessRate
      let logData := fun budId : Option Int =>
        EventServiceLogCreate.mk body.address body.txHash body.block .BURN_GEN0
          (.burn body.maleBudId body.femaleBudId budId)
      match result with
      | some data => do
          let newBud ← BudService.issueGen1BudMint body.address data none
          Prisma.eventServiceLogCreate (logData (some newBud.id))
          return some newBud
      | none => do
          Prisma.eventServiceLogCreate (logData none)
          return none

end AdminController

end BudBreeding.Backend
