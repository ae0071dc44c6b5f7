import BudBreeding.Backend.Controllers

namespace BudBreeding.Backend

open Program

/-! The server as a whole: its requests and how they are handled. -/

inductive Request where
  | login (body : LoginDto)
  | convertBp2High (req : Req) (body : ConvertBPDto)
  | openSlot (req : Req) (body : OpenSlotDto)
  | convertIndoor (req : Req) (body : OpenSlotDto)
  | purchaseLand (req : Req)
  | invalidatePair (req : Req) (body : InvalidBreedPairDto)
  | createPair (req : Req) (body : CreateBreedPairDto)
  | levelBreedingUp (req : Req) (body : BreedUpDto)
  | cancelBreeding (req : Req) (body : BreedCancelDto)
  | finalizeBreeding (req : Req) (body : BreedFinalizeDto)
  | renameGen1Buds (req : Req) (body : RenameGen1BudDto)
  | invalidateBreedingPairByBudId (body : InvalidateBreedingDto)
  | invalidSlotsForGameKey (body : InvalidateSlotsDto)
  | addBreedingPoint (body : BreedingPointDto)
  | withdrawBreedingPoint (body : BreedingPointDto)
  | burnGen0Buds (body : BurnGen0Buds)
  deriving DecidableEq, Repr

inductive Response where
  | token (token : AccessToken)
  | conversion (conversion : UserController.SignedConversion)
  | slot (slot : BreedSlot)
  | purchase (purchase : LandController.Purchase)
  | invalidated (text : Option String)
  | pair (pair : BreedPair)
  | status (status : BonusRateStatus)
  | done
  | reward (reward : Option BreedController.Gen1Reward)
  | gen1Bud (bud : Option Gen1Bud)
  | success (success : Bool)
  deriving DecidableEq, Repr

/-- The global `ValidationPipe` runs before the handler. -/
def validated {α : Type} (valid : Bool) (handler : Handler α) : Handler α := do
  Prog.throwIf (valid = false) .validation
  handler

def handle (app : App) : Request → Handler Response
  | .login body =>
      validated body.valid (.token <$> UserController.login app body)
  | .convertBp2High req body =>
      validated body.valid
        (.conversion <$> UserController.convertBp2High req body)
  | .openSlot req body => .slot <$> LandController.openSlot app req body
  | .convertIndoor req body =>
      .slot <$> LandController.convertIndoor app req body
  | .purchaseLand req => .purchase <$> LandController.purchaseLand app req
  | .invalidatePair req body =>
      .invalidated <$> BreedController.invalidatePair req body
  | .createPair req body =>
      validated body.valid (.pair <$> BreedController.createPair app req body)
  | .levelBreedingUp req body =>
      .status <$> BreedController.levelBreedingUp app req body
  | .cancelBreeding req body =>
      (fun _ => .done) <$> BreedController.cancelBreeding req body
  | .finalizeBreeding req body =>
      .reward <$> BreedController.finalizeBreeding app req body
  | .renameGen1Buds req body =>
      validated body.valid
        ((fun bud => .gen1Bud (some bud)) <$>
          BudController.renameGen1Buds app req body)
  | .invalidateBreedingPairByBudId body =>
      validated body.valid
        (.invalidated <$> AdminController.invalidateBreedingPairByBudId body)
  | .invalidSlotsForGameKey body =>
      validated body.valid
        (.invalidated <$> AdminController.invalidSlotsForGameKey app body)
  | .addBreedingPoint body =>
      validated body.valid
        (.success <$> AdminController.addBreedingPoint app body)
  | .withdrawBreedingPoint body =>
      validated body.valid
        (.success <$> AdminController.withdrawBreedingPoint app body)
  | .burnGen0Buds body =>
      validated body.valid
        (.gen1Bud <$> AdminController.burnGen0Buds app body)

structure Exchange where
  request : Request
  response : Except Failure Response
  deriving DecidableEq

/-- One request handled from beginning to end, with no other one in between. -/
def Handles (app : App) (admitted : Oracle → Prop) (db : Db)
    (exchange : Exchange) (after : Db) : Prop :=
  (surroundings admitted).Runs (handle app exchange.request) db
    exchange.response after

end BudBreeding.Backend
