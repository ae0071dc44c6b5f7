import BudBreeding.Backend.HashTable

namespace BudBreeding.Backend

open Program

namespace BudService

/-- The two ids the callers pass fit one request of the API. -/
def getMetadatas (tokenIds : List Int) : Handler (List BudWithId) := do
  let response ← ask (.budsOfMetadataApi tokenIds)
  return response.getD []

def ownersOf (budIds : List Int) : Handler (List Address) := do
  let owners ← ask (.ownerOfBuds budIds)
  match owners with
  | some owners => return owners
  | none => .throw (BreedingError "Check BUDs ownership... RPC call error")

def isGen0BudOwner (budId : Int) (address : Address) : Handler Unit := do
  let owners ← ownersOf [budId]
  Prog.throwIf (owners[0]? ≠ some address)
    (UnproceesableEntityError "Not the bud owner")

def isGameKeyOwner (gameKeyId : Int) (address : Address) : Handler Unit := do
  let owner ← ask (.ownerOfGameKey gameKeyId)
  match owner with
  | some owner =>
      Prog.throwIf (owner ≠ address)
        (UnproceesableEntityError "Not the game key owner")
  | none => .throw (BreedingError "Check Game key ownership... RPC call error")

/-- The pairs are the `id` and `gender` fields of the buds. -/
def checkBudPairGenders (buds : List (Int × BudGender))
    (maleBudId femaleBudId : Int) : Bool :=
  if buds.length < 2 then
    false
  else
    buds.all fun bud =>
      !((bud.1 = maleBudId && bud.2 != .M) ||
        (bud.1 = femaleBudId && bud.2 != .F))

/-- Without `checkMetadata` nothing is returned. -/
def verifyBudPairs (address : Address) (maleBudId femaleBudId : Int)
    (checkMetadata : Bool) : Handler (List BudWithId) := do
  Prog.throwIf (maleBudId < 0 ∨ 20000 ≤ maleBudId)
    (BadRequestError "Invalid budId for male")
  Prog.throwIf (femaleBudId < 0 ∨ 20000 ≤ femaleBudId)
    (BadRequestError "Invalid budId for female")
  let owners ← ownersOf [maleBudId, femaleBudId]
  Prog.throwIf (owners[0]? ≠ some address ∨ owners[1]? ≠ some address)
    (UnproceesableEntityError "Not the buds owner")
  if checkMetadata then do
    let metadatas ← getMetadatas [maleBudId, femaleBudId]
    Prog.throwIf (∃ metadata ∈ metadatas, metadata.revealed = false)
      (UnproceesableEntityError "Bud is not revealed")
    Prog.throwIf
      (checkBudPairGenders (metadatas.map fun bud => (bud.id, bud.gender))
        maleBudId femaleBudId = false)
      (UnproceesableEntityError "Bud pair genders do not match")
    return metadatas
  else
    return []

/-- `none` is the response `{ success: false, data: null }`. -/
def diceGen1Bud (app : App) (rate : Rat) : Handler (Option Bud) := do
  let success ← winRandomChance rate
  if success then do
    let bud ← generateRandomBud app { defaultOptions with gen1 := true }
    let thcAndBudSize ← HashTableService.lookUpGen1Bud app rate
    return some { bud with
      thc := thcAndBudSize.thc
      budSize := thcAndBudSize.budSize }
  else
    return none

def issueGen1BudMint (minter : Address) (bud : Bud) (pairId : Option Int) :
    Handler Gen1Bud := do
  let gen1Bud ← Prisma.gen1BudCreate
    { bud := bud, pairId := pairId, minterAddress := minter, signature := "" }
  let signature ← signMintRequest minter .Gen1Bud gen1Bud.id 1 gen1Bud.createdAt
  Prisma.gen1BudUpdateSignature gen1Bud.id signature

end BudService

namespace UserService

def timestampBuffer : Int := 300000

def getLoginMessage (gameKeyId : Int) (timestamp : String) : String :=
  "Please sign this message to play 420 Game.\nThis won't cost you any ETH!\n\n"
    ++ "If you're connecting a hardware wallet, you'll need to sign the message "
    ++ "on your device, too.\n\nGameKey#: " ++ toString gameKeyId
    ++ "\nTimestamp: " ++ timestamp

def digitOf (base : Nat) (char : Char) : Option Nat :=
  let value :=
    if char.isDigit then char.toNat - '0'.toNat
    else if 'a' ≤ char ∧ char ≤ 'f' then 10 + (char.toNat - 'a'.toNat)
    else if 'A' ≤ char ∧ char ≤ 'F' then 10 + (char.toNat - 'A'.toNat)
    else base
  if value < base then some value else none

def numeralOf (base : Nat) : List Char → Option Nat
  | [] => none
  | digits =>
      digits.foldlM (fun value char =>
        (digitOf base char).map fun digit => value * base + digit) 0

/-- `BigNumber.from` on a string: a decimal or `0x`-hexadecimal integer, or an
exception. -/
def bigNumberFrom (text : String) : Option Int :=
  let (sign, digits) : Int × List Char :=
    match text.toList with
    | '-' :: rest => (-1, rest)
    | digits => (1, digits)
  match digits with
  | '0' :: 'x' :: hexadecimal =>
      (numeralOf 16 hexadecimal).map fun value => sign * value
  | decimal => (numeralOf 10 decimal).map fun value => sign * value

def isValidMessage (gameKeyId : Int) (message : String) : Handler Bool := do
  let now ← dateNow
  let timestamp := String.ofList
    (message.toList.drop (message.toList.length - 13))
  match bigNumberFrom timestamp with
  | none => .throw .invalidArgument
  | some value =>
      if now - timestampBuffer < value ∧ value < now + timestampBuffer then
        return decide (getLoginMessage gameKeyId timestamp = message)
      else
        return false

def isGameKeyStaked (app : App) (gameKeyId : Int) : Handler Bool := do
  let owner ← ask (.ownerOfGameKey gameKeyId)
  match owner with
  | some owner => return decide (owner = (ADDRESSES app.config.network).STAKING)
  | none => .throw (BreedingError "Check game key stake issue.. RPC call error")

def consumeBreedingPoint (user : Address) (amount : Int) : Handler User := do
  let userObject ← Prisma.userFindUnique user
  match userObject with
  | none => .throw .typeError
  | some userObject => do
      Prog.throwIf (userObject.breedingPoint < amount)
        (UnproceesableEntityError "Not enough breeding point")
      Prisma.userUpdate user ((userObject.breedingPoint : Rat) - amount)

end UserService

namespace LandService

def openBreedSlotById (userAddress : Address) (slotId : Int)
    (slot : BreedSlot) : Bool :=
  slot.userAddress = userAddress ∧ slot.isOpen = true ∧ slot.isUsed = false ∧
    slot.id = slotId ∧ slot.deletedAt = none

def findOpenBreedSlotById (userAddress : Address) (slotId : Int) :
    Handler (Option BreedSlot) :=
  Prisma.breedSlotFindFirst (openBreedSlotById userAddress slotId)

/-- Five new slots, of which the first is open. -/
def newSlots (userAddress : Address) (gameKeyId landTokenId : Option Int) :
    List BreedSlotCreate :=
  let slot := fun isOpen : Bool =>
    BreedSlotCreate.mk gameKeyId landTokenId userAddress isOpen
  [slot true, slot false, slot false, slot false, slot false]

def freeLandSlot (userAddress : Address) (gameKeyId : Int)
    (slot : BreedSlot) : Bool :=
  slot.gameKeyId = some gameKeyId ∧ slot.userAddress = userAddress ∧
    slot.landTokenId = none ∧ slot.deletedAt = none

def createFreeLandSlots (userAddress : Address) (gameKeyId : Int) :
    Handler Unit := do
  let count ← Prisma.breedSlotCount (some gameKeyId)
    (freeLandSlot userAddress gameKeyId)
  if 0 < count then
    return ()
  else
    Prisma.breedSlotCreateMany (newSlots userAddress (some gameKeyId) none)

def landSlot (userAddress : Address) (landTokenId : Int)
    (slot : BreedSlot) : Bool :=
  slot.userAddress = userAddress ∧ slot.landTokenId = some landTokenId ∧
    slot.deletedAt = none

def createNewLandSlots (userAddress : Address) (landTokenId : Int) :
    Handler Unit := do
  let count ← Prisma.breedSlotCount none (landSlot userAddress landTokenId)
  if 0 < count then
    return ()
  else
    Prisma.breedSlotCreateMany (newSlots userAddress none (some landTokenId))

end LandService

namespace AdminService

def validateTransaction (app : App) (txHash network : String)
    (type : EventType) : Handler Unit := do
  Prog.throwIf (network ≠ app.config.network.name)
    (BadRequestError "Invalid network")
  let existing ← Prisma.eventServiceLogCount
    fun log => log.txHash = txHash ∧ log.type = type
  Prog.throwIf (0 < existing)
    (UnproceesableEntityError "Already handled this transaction")

end AdminService

namespace BreedService

def getStartSuccessRate (app : App) (maleBudId femaleBudId : Int)
    (gameItemId : Option Int) (slot : BreedSlot) : Handler Rat := do
  let metadatas ← BudService.getMetadatas [maleBudId, femaleBudId]
  let budsBonus := (metadatas.map fun metadata =>
    HashTableService.lookUpBeginningSuccessRate app metadata.thc
      metadata.budSize).sum
  let bonusRate :=
    if slot.type = .INDOOR then budsBonus + app.config.indoorSlotBonusRate
    else budsBonus
  if gameItemId = some GameItem.SUPERWEED_SERUM then do
    let baseSuccessRate ← randomNumber 50 40
    return baseSuccessRate + bonusRate
  else if gameItemId = some GameItem.WEED_DR_PASS then do
    let baseSuccessRate ← randomNumber 80 50
    return baseSuccessRate + bonusRate
  else
    return app.config.baseSuccessRate + bonusRate

def pairInBreeding (maleBudId femaleBudId : Int) (pair : BreedPair) : Bool :=
  pair.status = .PAIRED ∧
    (pair.femaleBudId = femaleBudId ∨ pair.maleBudId = maleBudId)

def findPairInBreeding (maleBudId femaleBudId : Int) : Handler Nat :=
  Prisma.breedPairCount (pairInBreeding maleBudId femaleBudId)

def targeted (gender : BudGender) (parent : Bud) : RandomBudOptions :=
  { defaultOptions with
    targetGender := some gender
    targetName := some parent.name
    targetImage := some parent.image }

/-- The four buds of a level; reading a missing parent throws. -/
def generateLevelBuds (app : App) (maleBud femaleBud : Option Bud) :
    Handler (List Bud) :=
  match maleBud, femaleBud with
  | some maleBud, some femaleBud => do
      let first ← generateRandomBud app (targeted .M maleBud)
      let second ← generateRandomBud app (targeted .F femaleBud)
      let third ← generateRandomBud app (targeted .F femaleBud)
      let fourth ← generateRandomBud app (targeted .M maleBud)
      return [first, second, third, fourth]
  | _, _ => .throw .typeError

def startBreedLevel (app : App) (breedPair : BreedPair)
    (maleBud femaleBud : Option Bud) : Handler Unit := do
  let newLevel := breedPair.currentLevel + 1
  if newLevel > app.config.targetLevel then do
    let _ ← Prisma.breedPairUpdate breedPair.id (.currentLevel newLevel)
    return ()
  else do
    let buds ← generateLevelBuds app maleBud femaleBud
    let breedLevel ← Prisma.breedLevelCreate
      { level := newLevel, pairId := breedPair.id, bonusRate := 0 }
    Prisma.breedBudCreateMany breedLevel.id buds
    let _ ← Prisma.breedPairUpdate breedPair.id (.currentLevel newLevel)
    return ()

def breedTimeElapsed (app : App) (now startDate : Time)
    (gameItemId : Option Int) : Bool :=
  getBreedTime app.config.timePeriod gameItemId * 1000 ≤ now - startDate

structure Evaluation where
  bonusRate : Rat
  maleBud : Option Bud
  femaleBud : Option Bud

/-- The last bud of the given gender, else the one `buds` started with. -/
def lastOfGender (gender : BudGender) (initial : Option BreedBud)
    (buds : List BreedBud) : Option BreedBud :=
  buds.foldl (fun found bud => if bud.gender = gender then some bud else found)
    initial

def evaluationOf (app : App) (buds : List BreedBud) : Evaluation where
  bonusRate :=
    (buds.map fun bud =>
      HashTableService.lookUpBreedRate app bud.thc bud.budSize).sum
  maleBud := (lastOfGender .M buds[0]? buds).map BreedBud.toBud
  femaleBud := (lastOfGender .F buds[1]? buds).map BreedBud.toBud

def currentLevelOf (breedPair : BreedPair) (level : BreedLevel) : Bool :=
  level.pairId = breedPair.id ∧ level.level = breedPair.currentLevel

def chosenBuds (maleBudId femaleBudId levelId : Int) (bud : BreedBud) : Bool :=
  (bud.id = maleBudId ∨ bud.id = femaleBudId) ∧ bud.levelId = levelId

def evaluateBreedLevel (app : App) (breedPair : BreedPair)
    (maleBudId femaleBudId : Int) : Handler Evaluation := do
  let breedLevel ← Prisma.breedLevelFindFirst (currentLevelOf breedPair)
  match breedLevel with
  | none => .throw (NotFoundError "Breed level not found")
  | some breedLevel => do
      Prog.throwIf (breedLevel.bonusRate ≠ 0)
        (UnproceesableEntityError "Breed rate already evaluated")
      let now ← dateNow
      Prog.throwIf
        (breedTimeElapsed app now breedLevel.createdAt breedPair.gameItemId =
          false)
        (UnproceesableEntityError "Breeding time not elapsed")
      let buds ← Prisma.breedBudFindMany
        (chosenBuds maleBudId femaleBudId breedLevel.id)
      Prog.throwIf
        (BudService.checkBudPairGenders
          (buds.map fun bud => (bud.id, bud.gender)) maleBudId femaleBudId =
            false)
        (BadRequestError "Bud pair genders do not match")
      let evaluation := evaluationOf app buds
      let _ ← Prisma.breedLevelUpdate breedLevel.id
        { bonusRate := evaluation.bonusRate
          maleBreedBudId := maleBudId
          femaleBreedBudId := femaleBudId }
      return evaluation

/-- The rows the raw query sums over; it names the last level by its number. -/
def finalizedLevels (pairId : Int) (level : BreedLevel) : Bool :=
  level.pairId = pairId ∧ 1 ≤ level.level ∧ level.level ≤ 5

def finalizeBreeding (app : App) (pair : BreedPair) : Handler (Option Bud) := do
  let bonus ← Prisma.breedLevelSumBonusRate (finalizedLevels pair.id)
  BudService.diceGen1Bud app (pair.rate + bonus)

def checkGameItemBalance (user : Address) (id : Int) (minAmount : Nat) :
    Handler Unit := do
  let balance ← ask (.balanceOfGameItem user id)
  match balance with
  | some balance =>
      Prog.throwIf (balance = 0 ∨ balance < minAmount)
        (UnproceesableEntityError "Not enough balance of chosen game item")
  | none =>
      .throw (BreedingError "Check Game Item balance... RPC call error")

def pairsUsingItem (userAddress : Address) (gameItemId : Int)
    (pair : BreedPair) : Bool :=
  pair.userAddress = userAddress ∧ pair.status = .PAIRED ∧
    pair.gameItemId = some gameItemId

def verifyGameItemPossession (pair : BreedPair) : Handler Unit :=
  match pair.gameItemId with
  | none => return ()
  | some gameItemId =>
      if gameItemId = 0 then
        return ()
      else do
        let minAmount ← Prisma.breedPairCount
          (pairsUsingItem pair.userAddress gameItemId)
        Prog.throwIf (minAmount = 0)
          (BreedingError "Incorrect game item count")
        checkGameItemBalance pair.userAddress gameItemId minAmount

end BreedService

end BudBreeding.Backend
