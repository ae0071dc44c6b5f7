import BudBreeding.Backend.Dtos
import BudBreeding.Backend.Controllers
import BudBreeding.Backend.Api
import BudBreeding.Backend.Rules

namespace BudBreeding.Backend

open Program

/-! The items of the shop, which are signed for whoever asks, but for the farmer
pass. -/

structure PurchaseGameItemDto where
  amount : Rat
  deriving DecidableEq, Repr

def PurchaseGameItemDto.valid (body : PurchaseGameItemDto) : Bool :=
  1 ≤ body.amount ∧ body.amount ≤ 3

namespace LandController

structure SignedItem where
  signature : Option String
  amount : Rat
  timestamp : Time
  deriving DecidableEq, Repr

def signGameItem (item : Int) (req : Req) (body : PurchaseGameItemDto) :
    Handler SignedItem := do
  let timestamp ← dateNow
  let signature ← signMintRequest req.user .GameItem item body.amount timestamp
  return ⟨signature, body.amount, timestamp⟩

def purchaseRollPaper (req : Req) (body : PurchaseGameItemDto) :
    Handler SignedItem :=
  validated body.valid (signGameItem GameItem.ROLLING_PAPER req body)

def purchaseHoodie (req : Req) (body : PurchaseGameItemDto) :
    Handler SignedItem :=
  validated body.valid (signGameItem GameItem.HOODIE req body)

def purchaseWeedDrPass (req : Req) (body : PurchaseGameItemDto) :
    Handler SignedItem :=
  validated body.valid (signGameItem GameItem.WEED_DR_PASS req body)

def purchaseSuperWeedSerum (req : Req) (body : PurchaseGameItemDto) :
    Handler SignedItem :=
  validated body.valid (signGameItem GameItem.SUPERWEED_SERUM req body)

def completedPair (user : Address) (pair : BreedPair) : Bool :=
  pair.userAddress = user ∧ pair.status = .COMPLETED

def purchaseFarmerPass (req : Req) (body : PurchaseGameItemDto) :
    Handler SignedItem :=
  validated body.valid do
    let completedCount ← ask (.breedPairCount (completedPair req.user))
    Prog.throwIf (completedCount ≤ 3) (UnproceesableEntityError
      "Not completed 4 successful breeding sessions")
    signGameItem GameItem.FARMER_PASS req body

end LandController

variable {admitted : Oracle → Prop} {db : Db}

/-- The signature is the signer's answer to a mint request of the asker. -/
def SignedFor (admitted : Oracle → Prop) (item : Int) (req : Req)
    (signed : LandController.SignedItem) : Prop :=
  1 ≤ signed.amount ∧ signed.amount ≤ 3 ∧ ∃ oracle, admitted oracle ∧
    signed.signature = oracle.signature
      ⟨req.user, .GameItem, item, signed.amount, signed.timestamp⟩

theorem reads_signGameItem (item : Int) (req : Req) {body : PurchaseGameItemDto}
    (valid : body.valid = true) :
    (surroundings admitted).Reads (LandController.signGameItem item req body)
      (SignedFor admitted item req) db := by
  obtain ⟨least, most⟩ := of_decide_eq_true valid
  refine (returns_ask .dateNow rfl).reads.bind fun timestamp _ => ?_
  refine (returns_ask (.signMessage _) rfl).reads.bind ?_
  rintro signature ⟨oracle, allowed, rfl⟩
  exact (World.returns_pure ⟨least, most, oracle, allowed, rfl⟩).reads

theorem reads_purchaseFarmerPass (req : Req) (body : PurchaseGameItemDto) :
    (surroundings admitted).Reads (LandController.purchaseFarmerPass req body)
      (fun signed => SignedFor admitted GameItem.FARMER_PASS req signed ∧
        4 ≤ db.breedPair.rows.countP (LandController.completedPair req.user))
      db := by
  refine World.reads_throwIf.bind fun _ accepted => ?_
  refine (returns_breedPairCount _).reads.bind ?_
  rintro completedCount rfl
  refine World.reads_throwIf.bind fun _ enough => ?_
  refine (reads_signGameItem _ _ (Bool.eq_true_of_not_eq_false accepted)).mono ?_
  exact fun signed granted => ⟨granted, Nat.lt_of_not_le enough⟩

end BudBreeding.Backend
