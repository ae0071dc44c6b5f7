import BudBreeding.Backend.Usage
import BudBreeding.Backend.Shop
import BudBreeding.Access.GiftCards

namespace BudBreeding.Access

open Program Backend

/-! The calls of `signMintRequest`, and what they have it sign. -/

def getGiftCardTypeId : GiftAmount → Int
  | .USD50 => 0
  | .USD100 => 1
  | .USD200 => 2
  | .USD420 => 3
  | .USD1000 => 4
  | .USD5000 => 5
  | .USD10000 => 6

def getGiftCardSupply : GiftAmount → Nat
  | .USD100 => 200
  | .USD200 => 65
  | .USD420 => 22
  | .USD1000 => 10
  | _ => 0

/-- The calls of `signMintRequest`, with the values they take from elsewhere. -/
inductive Endpoint where
  | issueGen1BudMint (minter : Address) (gen1BudId : Int) (createdAt : Time)
  | issueGitCardMint (minter : Address) (value : GiftAmount) (createdAt : Time)
  | purchaseRollPaper (user : Address) (amount : Rat) (timestamp : Time)
  | purchaseHoodie (user : Address) (amount : Rat) (timestamp : Time)
  | purchaseWeedDrPass (user : Address) (amount : Rat) (timestamp : Time)
  | purchaseFarmerPass (user : Address) (amount : Rat) (timestamp : Time)
  | purchaseSuperWeedSerum (user : Address) (amount : Rat) (timestamp : Time)
  | convertBp2High (user : Address) (amount : Rat) (timestamp : Time)
  deriving DecidableEq, Repr

def Endpoint.request : Endpoint → MintRequest
  | .issueGen1BudMint minter gen1BudId createdAt =>
      ⟨minter, .Gen1Bud, gen1BudId, 1, createdAt⟩
  | .issueGitCardMint minter value createdAt =>
      ⟨minter, .Ticket, getGiftCardTypeId value, 1, createdAt⟩
  | .purchaseRollPaper user amount timestamp =>
      ⟨user, .GameItem, GameItem.ROLLING_PAPER, amount, timestamp⟩
  | .purchaseHoodie user amount timestamp =>
      ⟨user, .GameItem, GameItem.HOODIE, amount, timestamp⟩
  | .purchaseWeedDrPass user amount timestamp =>
      ⟨user, .GameItem, GameItem.WEED_DR_PASS, amount, timestamp⟩
  | .purchaseFarmerPass user amount timestamp =>
      ⟨user, .GameItem, GameItem.FARMER_PASS, amount, timestamp⟩
  | .purchaseSuperWeedSerum user amount timestamp =>
      ⟨user, .GameItem, GameItem.SUPERWEED_SERUM, amount, timestamp⟩
  | .convertBp2High user amount timestamp =>
      ⟨user, .ConvertBP2HIGH, 0, amount * 100, timestamp⟩

/-- What `issueGitCardMint` asks of the table of the cards and of the signer. -/
inductive CardQuery where
  | giftCardCount (value : GiftAmount)
  | giftCardCreate (value : GiftAmount) (minterAddress : Address)
      (pairId : Option Int)
  | signMessage (request : MintRequest)
  | giftCardUpdate (id : Int) (signature : Option String)

/-- The column of the signature refuses `null`. -/
def CardQuery.Answer : CardQuery → Type
  | .giftCardCount _ => Nat
  | .giftCardCreate _ _ _ => GiftCard
  | .signMessage _ => Option String
  | .giftCardUpdate _ _ => Except PrismaError GiftCard

namespace GiftCardService

/-- `none` is the response to an amount that is unknown or sold out. -/
def issueGitCardMint (minter : Address) (value : GiftAmount) (pairId : Option Int) :
    Prog CardQuery.Answer PrismaError (Option GiftCard) := do
  let tokenId := getGiftCardTypeId value
  if tokenId < 0 then
    return none
  else do
    let supply := getGiftCardSupply value
    let count : Nat ← Prog.call (CardQuery.giftCardCount value)
    if supply ≤ count then
      return none
    else do
      let card : GiftCard ←
        Prog.call (CardQuery.giftCardCreate value minter pairId)
      let signature : Option String ← Prog.call
        (CardQuery.signMessage ⟨minter, .Ticket, tokenId, 1, card.createdAt⟩)
      let updated : Except PrismaError GiftCard ←
        Prog.call (CardQuery.giftCardUpdate card.id signature)
      some <$> Prog.ofExcept updated

end GiftCardService

/-- The code that calls `signMintRequest`, with what it is called with. -/
inductive Caller where
  | issueGen1BudMint (minter : Address) (bud : Bud) (pairId : Option Int)
  | issueGitCardMint (minter : Address) (value : GiftAmount) (pairId : Option Int)
  | purchaseRollPaper (req : Req) (body : PurchaseGameItemDto)
  | purchaseHoodie (req : Req) (body : PurchaseGameItemDto)
  | purchaseWeedDrPass (req : Req) (body : PurchaseGameItemDto)
  | purchaseFarmerPass (req : Req) (body : PurchaseGameItemDto)
  | purchaseSuperWeedSerum (req : Req) (body : PurchaseGameItemDto)
  | convertBp2High (req : Req) (body : ConvertBPDto)

/-- Some answers lead the code to have the request signed. -/
def Caller.HasSigned (request : MintRequest) : Caller → Prop
  | .issueGen1BudMint minter bud pairId =>
      (BudService.issueGen1BudMint minter bud pairId).Asks (.signMessage request)
  | .issueGitCardMint minter value pairId =>
      (GiftCardService.issueGitCardMint minter value pairId).Asks
        (.signMessage request)
  | .purchaseRollPaper req body =>
      (LandController.purchaseRollPaper req body).Asks (.signMessage request)
  | .purchaseHoodie req body =>
      (LandController.purchaseHoodie req body).Asks (.signMessage request)
  | .purchaseWeedDrPass req body =>
      (LandController.purchaseWeedDrPass req body).Asks (.signMessage request)
  | .purchaseFarmerPass req body =>
      (LandController.purchaseFarmerPass req body).Asks (.signMessage request)
  | .purchaseSuperWeedSerum req body =>
      (LandController.purchaseSuperWeedSerum req body).Asks (.signMessage request)
  | .convertBp2High req body =>
      (UserController.convertBp2High req body).Asks (.signMessage request)

/-- The request is one that the endpoint of the same name makes. -/
def Caller.Makes (caller : Caller) (request : MintRequest) : Prop :=
  ∃ endpoint : Endpoint, endpoint.ctorIdx = caller.ctorIdx ∧
    endpoint.request = request

section Callers

variable {made : MintRequest → Prop}

/-- Whatever the query has signed is one of these requests. -/
def Signs (made : MintRequest → Prop) : Query → Prop
  | .signMessage request => made request
  | _ => True

theorem uses_issueGen1BudMint (minter : Address) (bud : Bud) (pairId : Option Int) :
    (BudService.issueGen1BudMint minter bud pairId).Uses
      (Signs (Caller.issueGen1BudMint minter bud pairId).Makes) := by
  refine Prog.uses_bind ((Prog.uses_call _).mpr trivial) fun gen1Bud => ?_
  refine Prog.uses_bind ((Prog.uses_call _).mpr ?_) fun signature => ?_
  · exact ⟨.issueGen1BudMint minter gen1Bud.id gen1Bud.createdAt, rfl, rfl⟩
  · exact Prog.uses_bind ((Prog.uses_call _).mpr trivial) uses_settle

theorem uses_issueGitCardMint (minter : Address) (value : GiftAmount)
    (pairId : Option Int) :
    (GiftCardService.issueGitCardMint minter value pairId).Uses fun query =>
      ∀ request, query = .signMessage request →
        (Caller.issueGitCardMint minter value pairId).Makes request := by
  unfold GiftCardService.issueGitCardMint
  simp only
  split
  · trivial
  refine Prog.uses_bind ((Prog.uses_call _).mpr (by simp)) fun count => ?_
  split
  · trivial
  refine Prog.uses_bind ((Prog.uses_call _).mpr (by simp)) fun card => ?_
  refine Prog.uses_bind ((Prog.uses_call _).mpr ?_) fun signature => ?_
  · intro request same
    cases same
    exact ⟨.issueGitCardMint minter value card.createdAt, rfl, rfl⟩
  · refine Prog.uses_bind ((Prog.uses_call _).mpr (by simp)) fun updated => ?_
    exact Prog.uses_bind (Prog.uses_ofExcept updated) fun _ => Prog.uses_pure _

/-- The items of the shop are signed alike. -/
theorem uses_signGameItem {item : Int} {req : Req} {body : PurchaseGameItemDto}
    (signed : ∀ timestamp, made ⟨req.user, .GameItem, item, body.amount, timestamp⟩) :
    (LandController.signGameItem item req body).Uses (Signs made) := by
  refine Prog.uses_bind ((Prog.uses_call _).mpr trivial) fun timestamp => ?_
  exact Prog.uses_bind ((Prog.uses_call _).mpr (signed timestamp)) fun _ =>
    Prog.uses_pure _

theorem uses_validated {α : Type} {valid : Bool} {handler : Handler α}
    (uses : handler.Uses (Signs made)) :
    (validated valid handler).Uses (Signs made) :=
  Prog.uses_bind (Prog.uses_throwIf _ _) fun _ => uses

theorem uses_purchaseFarmerPass (req : Req) (body : PurchaseGameItemDto) :
    (LandController.purchaseFarmerPass req body).Uses
      (Signs (Caller.purchaseFarmerPass req body).Makes) := by
  refine uses_validated (Prog.uses_bind ((Prog.uses_call _).mpr trivial) ?_)
  intro completedCount
  refine Prog.uses_bind (Prog.uses_throwIf _ _) fun _ => ?_
  exact uses_signGameItem fun timestamp =>
    ⟨.purchaseFarmerPass req.user body.amount timestamp, rfl, rfl⟩

theorem uses_convertBp2High (req : Req) (body : ConvertBPDto) :
    (UserController.convertBp2High req body).Uses
      (Signs (Caller.convertBp2High req body).Makes) := by
  refine Prog.uses_bind ((Prog.uses_call _).mpr trivial) fun user => ?_
  split
  · trivial
  · refine Prog.uses_bind (Prog.uses_throwIf _ _) fun _ => ?_
    refine Prog.uses_bind ((Prog.uses_call _).mpr trivial) fun timestamp => ?_
    refine Prog.uses_bind ((Prog.uses_call _).mpr ?_) fun signature => trivial
    exact ⟨.convertBp2High req.user body.amount timestamp, rfl, rfl⟩

theorem makes_of_purchase {caller : Caller} {item : Int} {req : Req}
    {body : PurchaseGameItemDto} {request : MintRequest}
    (makes : ∀ timestamp,
      caller.Makes ⟨req.user, .GameItem, item, body.amount, timestamp⟩)
    (signed : (validated body.valid (LandController.signGameItem item req body)).Asks
      (.signMessage request)) : caller.Makes request :=
  (uses_validated (uses_signGameItem makes)).of_asks signed

theorem Caller.makes_of_hasSigned {caller : Caller} {request : MintRequest}
    (signed : caller.HasSigned request) : caller.Makes request := by
  cases caller with
  | issueGen1BudMint minter bud pairId =>
      exact (uses_issueGen1BudMint minter bud pairId).of_asks signed
  | issueGitCardMint minter value pairId =>
      exact (uses_issueGitCardMint minter value pairId).of_asks signed request rfl
  | purchaseRollPaper req body =>
      exact makes_of_purchase (fun timestamp =>
        ⟨.purchaseRollPaper req.user body.amount timestamp, rfl, rfl⟩) signed
  | purchaseHoodie req body =>
      exact makes_of_purchase (fun timestamp =>
        ⟨.purchaseHoodie req.user body.amount timestamp, rfl, rfl⟩) signed
  | purchaseWeedDrPass req body =>
      exact makes_of_purchase (fun timestamp =>
        ⟨.purchaseWeedDrPass req.user body.amount timestamp, rfl, rfl⟩) signed
  | purchaseFarmerPass req body =>
      exact (uses_purchaseFarmerPass req body).of_asks signed
  | purchaseSuperWeedSerum req body =>
      exact makes_of_purchase (fun timestamp =>
        ⟨.purchaseSuperWeedSerum req.user body.amount timestamp, rfl, rfl⟩) signed
  | convertBp2High req body => exact (uses_convertBp2High req body).of_asks signed

end Callers

end BudBreeding.Access
