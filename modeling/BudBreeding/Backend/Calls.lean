import BudBreeding.Backend.Settings
import BudBreeding.Backend.Statement

namespace BudBreeding.Backend

open Program

/-! Errors (`utils/errors.ts`) and the awaited calls as the handlers write them. -/

structure HttpException where
  status : Nat
  code : String
  message : String
  deriving DecidableEq, Repr

inductive Failure where
  | http (error : HttpException)
  /-- A request the global `ValidationPipe` turns down. -/
  | validation
  | prisma (error : PrismaError)
  /-- A property read of `null` or `undefined`. -/
  | typeError
  /-- A value an `ethers` function refuses. -/
  | invalidArgument
  deriving DecidableEq, Repr

def BadRequestError (message : String) : Failure :=
  .http ⟨400, "BadRequest", message⟩

def ConflictRequestError (message : String) : Failure :=
  .http ⟨409, "Conflict", message⟩

def NotFoundError (message : String) : Failure :=
  .http ⟨404, "NotFound", message⟩

def UnproceesableEntityError (message : String) : Failure :=
  .http ⟨422, "UnprocessableEntity", message⟩

def BreedingError (message : String) : Failure :=
  .http ⟨500, "BreedingError", message⟩

abbrev Handler (α : Type) := Prog Query.Answer Failure α

abbrev ask (query : Query) : Handler query.Answer :=
  Prog.call query

/-- A rejected Prisma promise throws where it is awaited. -/
def settle {α : Type} : Except PrismaError α → Handler α
  | .ok value => .pure value
  | .error error => .throw (.prisma error)

namespace Prisma

def userFindUnique (address : Address) : Handler (Option User) :=
  ask (.userFindUnique address)

def userUpdate (address : Address) (breedingPoint : Rat) : Handler User :=
  ask (.userUpdate address breedingPoint) >>= settle

def userUpsert (address : Address) (signature : String) (gameKeyId : Int) :
    Handler User :=
  ask (.userUpsert address signature gameKeyId) >>= settle

def breedPairFindFirst (filter : BreedPair → Bool) :
    Handler (Option BreedPair) :=
  ask (.breedPairFindFirst filter)

def breedPairFindMany (filter : BreedPair → Bool) : Handler (List BreedPair) :=
  ask (.breedPairFindMany filter)

def breedPairCount (filter : BreedPair → Bool) : Handler Nat :=
  ask (.breedPairCount filter)

def breedPairCreate (data : BreedPairCreate) : Handler BreedPair :=
  ask (.breedPairCreate data) >>= settle

def breedPairUpdate (id : Int) (data : BreedPairUpdate) : Handler BreedPair :=
  ask (.breedPairUpdate id data) >>= settle

def breedPairUpdateMany (filter : BreedPair → Bool) (data : BreedPairUpdate) :
    Handler Unit :=
  ask (.breedPairUpdateMany filter data)

def breedLevelFindFirst (filter : BreedLevel → Bool) :
    Handler (Option BreedLevel) :=
  ask (.breedLevelFindFirst filter)

def breedLevelCreate (data : BreedLevelCreate) : Handler BreedLevel :=
  ask (.breedLevelCreate data) >>= settle

def breedLevelUpdate (id : Int) (data : BreedLevelUpdate) :
    Handler BreedLevel :=
  ask (.breedLevelUpdate id data) >>= settle

def breedLevelSumBonusRate (filter : BreedLevel → Bool) : Handler Rat :=
  ask (.breedLevelSumBonusRate filter)

def breedBudFindMany (filter : BreedBud → Bool) : Handler (List BreedBud) :=
  ask (.breedBudFindMany filter)

def breedBudCreateMany (levelId : Int) (buds : List Bud) : Handler Unit :=
  ask (.breedBudCreateMany levelId buds)

def breedSlotFindFirst (filter : BreedSlot → Bool) :
    Handler (Option BreedSlot) :=
  ask (.breedSlotFindFirst filter)

def breedSlotFindMany (filter : BreedSlot → Bool) : Handler (List BreedSlot) :=
  ask (.breedSlotFindMany filter)

/-- The `where` of a count names the game key of the slots, or none. -/
def breedSlotCount (gameKeyId : Option Int) (filter : BreedSlot → Bool) :
    Handler Nat :=
  ask (.breedSlotCount gameKeyId filter) >>= settle

def breedSlotCreateMany (data : List BreedSlotCreate) : Handler Unit :=
  ask (.breedSlotCreateMany data) >>= settle

def breedSlotUpdate (id : Int) (data : BreedSlotUpdate) : Handler BreedSlot :=
  ask (.breedSlotUpdate id data) >>= settle

def breedSlotUpdateMany (filter : BreedSlot → Bool) (data : BreedSlotUpdate) :
    Handler Unit :=
  ask (.breedSlotUpdateMany filter data)

def eventServiceLogCount (filter : EventServiceLog → Bool) : Handler Nat :=
  ask (.eventServiceLogCount filter)

def eventServiceLogCreate (data : EventServiceLogCreate) : Handler Unit :=
  ask (.eventServiceLogCreate data) >>= settle

def gen1BudFindFirst (filter : Gen1Bud → Bool) : Handler (Option Gen1Bud) :=
  ask (.gen1BudFindFirst filter)

def gen1BudCount (filter : Gen1Bud → Bool) : Handler Nat :=
  ask (.gen1BudCount filter)

def gen1BudCreate (data : Gen1BudCreate) : Handler Gen1Bud :=
  ask (.gen1BudCreate data)

def gen1BudUpdateSignature (id : Int) (signature : Option String) :
    Handler Gen1Bud :=
  ask (.gen1BudUpdateSignature id signature) >>= settle

def gen1BudUpdateName (id : Int) (name : String) : Handler Gen1Bud :=
  ask (.gen1BudUpdateName id name) >>= settle

end Prisma

/-- `Date.now()` and `new Date()`. -/
def dateNow : Handler Time :=
  ask .dateNow

/-- `randomNumber` of `utils/number.ts`. -/
def randomNumber (max min : Int) : Handler Int := do
  let random : Draw ← ask .mathRandom
  return ⌊random.val * (max - min : Int)⌋ + min

/-- `winRandomChance` of `utils/number.ts`. -/
def winRandomChance (chance : Rat) : Handler Bool := do
  if chance = 100 then
    return true
  else if 0 < chance ∧ chance < 100 then do
    let random ← randomNumber 100 0
    return decide ((random : Rat) ≤ chance)
  else
    return false

/-- `signMintRequest` of `utils/onchain/sign.ts`: `none` when no key is
configured or when signing fails. -/
def signMintRequest (address : Address) (typeString : MintType)
    (tokenId : Int) (amount : Rat) (timestamp : Time) :
    Handler (Option String) :=
  ask (.signMessage ⟨address, typeString, tokenId, amount, timestamp⟩)

/-- `verifyMessage` of `ethers`, which throws on a malformed signature. -/
def verifyMessage (message signature : String) : Handler Address := do
  let recovered : Option Address ←
    ask (.verifyMessage message signature)
  match recovered with
  | some address => return address
  | none => .throw .invalidArgument

end BudBreeding.Backend
