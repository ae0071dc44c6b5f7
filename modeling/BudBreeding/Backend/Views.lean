import BudBreeding.Backend.Dtos
import BudBreeding.Backend.Controllers
import BudBreeding.Data.OuterJoin

namespace BudBreeding.Backend

open Data

/-! The endpoints that show users what is theirs. -/

namespace UserController

/-- The columns that `getUser` selects. -/
structure UserData where
  address : Address
  breedingPoint : Int
  gameKeyId : Option Int
  deriving DecidableEq, Repr

def getUser (db : Db) (req : Req) : Except Failure UserData :=
  match db.user.find req.user with
  | none => .error (NotFoundError "User not found.")
  | some user => .ok
      { address := user.address
        breedingPoint := user.breedingPoint
        gameKeyId := user.gameKeyId }

end UserController

namespace LandController

def slotOfUser (req : Req) (slot : BreedSlot) : Bool :=
  slot.userAddress = req.user ∧ slot.deletedAt = none ∧
      slot.gameKeyId = some req.gameKeyId ∨
    slot.userAddress = req.user ∧ slot.deletedAt = none ∧
      slot.gameKeyId = none ∧ slot.landTokenId ≠ none

def getUserSlots (oracle : Oracle) (db : Db) (req : Req) : List BreedSlot :=
  oracle.arrange (db.breedSlot.rows.filter (slotOfUser req))

end LandController

namespace BreedController

/-- How many pairs are breeding with each item, `none` for those without one. -/
def getCurrentInBreedingItem (oracle : Oracle) (db : Db) (req : Req) :
    List (Option Int × Nat) :=
  oracle.arrange (countBy BreedPair.gameItemId
    (db.breedPair.rows.filter fun pair =>
      pair.status = .PAIRED ∧ pair.userAddress = req.user))

end BreedController

namespace BudController

def getGen1Buds (oracle : Oracle) (db : Db) (req : Req) (budId : Option Int) :
    List Gen1Bud :=
  oracle.arrange (db.gen1Bud.rows.filter fun bud =>
    budId.all (fun id => bud.id = id) ∧ bud.minterAddress = req.user)

end BudController

namespace StatsService

structure BPDeposit where
  txHash : String
  blockNumber : Int
  amount : Option Rat
  deriving DecidableEq, Repr

/-- `JSON.parse(data)?.amount / 100 || null`: neither `NaN` nor 0 is shown. -/
def amountOf : EventData → Option Rat
  | .breedingPoint amount _ => if amount / 100 = 0 then none else some (amount / 100)
  | .burn _ _ _ => none

def getBPDepositHistory (oracle : Oracle) (db : Db) (address : Address) :
    List BPDeposit :=
  (oracle.arrange (db.eventServiceLog.rows.filter fun log =>
    log.address = address ∧ log.type = .DEPOSIT_BP)).map fun record =>
      { txHash := record.txHash
        blockNumber := record.blockNumber
        amount := amountOf record.data }

end StatsService

/-- The endpoints whose answer is about the user who asks. -/
inductive View where
  | getUser
  | getUserSlots
  | getPairs (pairId : Option Int)
  | getCurrentInBreedingItem
  | getGen1Buds (budId : Option Int)
  | getHistory
  deriving DecidableEq, Repr

abbrev View.Shown : View → Type
  | .getUser => Except Failure UserController.UserData
  | .getUserSlots => List BreedSlot
  | .getPairs _ => List BreedPairDto
  | .getCurrentInBreedingItem => List (Option Int × Nat)
  | .getGen1Buds _ => List Gen1Bud
  | .getHistory => List StatsService.BPDeposit

/-- Whether a view is about the pairs and the slots of the user. -/
def View.OfPairs : View → Prop
  | .getUserSlots | .getPairs _ | .getCurrentInBreedingItem => True
  | .getUser | .getGen1Buds _ | .getHistory => False

/-- The oracle stands for the clock and for the order of the rows. -/
def display (app : App) (oracle : Oracle) (db : Db) (req : Req) :
    (view : View) → view.Shown
  | .getUser => UserController.getUser db req
  | .getUserSlots => LandController.getUserSlots oracle db req
  | .getPairs pairId => BreedController.getPairs app oracle db req.user pairId
  | .getCurrentInBreedingItem =>
      BreedController.getCurrentInBreedingItem oracle db req
  | .getGen1Buds budId => BudController.getGen1Buds oracle db req budId
  | .getHistory => StatsService.getBPDepositHistory oracle db req.user

end BudBreeding.Backend
