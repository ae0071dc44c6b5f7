import BudBreeding.Program.Recall
import BudBreeding.Backend.SignIn
import BudBreeding.Concurrency.Terms
import BudBreeding.Lifecycle.Odds

namespace BudBreeding.Mediation

open Data Program Backend

/-! The grounds of every write: what a request must have asked, and been answered,
before it may change a table or have something signed. -/

abbrev Past := List (Asked Query.Answer)

/-- The request has asked the query and was answered so. -/
def Knows (past : Past) (query : Query) (answer : query.Answer) : Prop :=
  ⟨query, answer⟩ ∈ past

def drawOf : Asked Query.Answer → Option Draw
  | ⟨.mathRandom, draw⟩ => some draw
  | _ => none

/-- The first number the request has drawn. -/
def firstDraw (past : Past) : Option Draw :=
  (past.filterMap drawOf).head?

section Facts

variable (app : App) (past : Past)

/-- The price was taken from a balance that covered it. -/
def Paid (user : Address) (price : Int) : Prop :=
  ∃ row paid, Knows past (.userFindUnique user) (some row) ∧
    price ≤ row.breedingPoint ∧
    Knows past (.userUpdate user ((row.breedingPoint : Rat) - price)) (.ok paid)

structure SignedIn (body : LoginDto) : Prop where
  fresh : ∃ now, Knows past .dateNow now ∧
    MessageAccepted now body.gameKeyId body.message
  signer : ∃ signer,
    Knows past (.verifyMessage body.message body.signature) (some signer) ∧
      signer.toLower = body.address.toLower

/-- The chain named the holder as the owner of both buds. -/
def OwnsBuds (holder : Address) (maleBudId femaleBudId : Int) : Prop :=
  ∃ owners, Knows past (.ownerOfBuds [maleBudId, femaleBudId]) (some owners) ∧
    owners[0]? = some holder ∧ owners[1]? = some holder

/-- The metadata showed revealed buds of the right genders. -/
def Matched (maleBudId femaleBudId : Int) : Prop :=
  ∃ response, Knows past (.budsOfMetadataApi [maleBudId, femaleBudId]) response ∧
    (∀ bud ∈ response.getD [], bud.revealed = true) ∧
    BudService.checkBudPairGenders
      ((response.getD []).map fun bud => (bud.id, bud.gender)) maleBudId
        femaleBudId = true

def NotBreeding (maleBudId femaleBudId : Int) : Prop :=
  Knows past
    (.breedPairCount (BreedService.pairInBreeding maleBudId femaleBudId))
    (0 : Nat)

/-- The chain showed enough of the item. -/
def HoldsItem (user : Address) (item : Int) (least : Nat) : Prop :=
  ∃ balance, Knows past (.balanceOfGameItem user item) (some balance) ∧
    0 < balance ∧ least ≤ balance

/-- The balance of its item covers all pairs of the user that use it. -/
def ItemCovered (pair : BreedPair) : Prop :=
  ∀ item, pair.gameItemId = some item → item ≠ 0 → ∃ count : Nat,
    Knows past (.breedPairCount
      (BreedService.pairsUsingItem pair.userAddress item)) count ∧
    HoldsItem past pair.userAddress item count

def FoundPair (user : Address) (pairId : Int) (pair : BreedPair) : Prop :=
  Knows past (.breedPairFindFirst (BreedController.ownPair user pairId))
    (some pair)

/-- The level of the pair has had its breed time, and its choice of buds was
evaluated as it stands in the update. -/
def Evaluable (pair : BreedPair) (maleBudId femaleBudId : Int)
    (level : BreedLevel) (data : BreedLevelUpdate) : Prop :=
  Knows past (.breedLevelFindFirst (BreedService.currentLevelOf pair))
      (some level) ∧
    level.bonusRate = 0 ∧
    (∃ now, Knows past .dateNow now ∧ BreedService.breedTimeElapsed app now
      level.createdAt pair.gameItemId = true) ∧
    ∃ buds, Knows past (.breedBudFindMany
        (BreedService.chosenBuds maleBudId femaleBudId level.id)) buds ∧
      BudService.checkBudPairGenders (buds.map fun bud => (bud.id, bud.gender))
        maleBudId femaleBudId = true ∧
      data = ⟨(BreedService.evaluationOf app buds).bonusRate, maleBudId,
        femaleBudId⟩

/-- The evaluation was stored. -/
def Evaluated (pair : BreedPair) (maleBudId femaleBudId : Int) : Prop :=
  ∃ level data row, Evaluable app past pair maleBudId femaleBudId level data ∧
    Knows past (.breedLevelUpdate level.id data) (.ok row)

/-- What `levelBreedingUp` has checked and taken before it evaluates a level. -/
structure Climbs (req : Req) (body : BreedUpDto) (pair : BreedPair) : Prop where
  found : FoundPair past req.user body.pairId pair
  within : pair.currentLevel ≤ app.config.targetLevel
  item : ItemCovered past pair
  buds : OwnsBuds past pair.userAddress pair.maleBudId pair.femaleBudId
  paid : Paid past req.user app.config.breedingPointPerLevel

/-- What `finalizeBreeding` has checked before it evaluates the last level. -/
structure Finishes (req : Req) (body : BreedFinalizeDto) (pair : BreedPair) :
    Prop where
  found : FoundPair past req.user body.pairId pair
  reached : app.config.targetLevel ≤ pair.currentLevel

/-- The first number drawn wins at the rate. -/
def Won (rate : Rat) : Prop :=
  rate = 100 ∨ ∃ draw, firstDraw past = some draw ∧
    Lifecycle.wins rate draw = true

/-- The rate of the dice that ends a breeding. -/
def FinalRate (pair : BreedPair) (rate : Rat) : Prop :=
  ∃ bonus : Rat, Knows past
    (.breedLevelSumBonusRate (BreedService.finalizedLevels pair.id)) bonus ∧
      rate = pair.rate + bonus

structure NewTransaction (body : AdminDtoBase) (type : EventType) : Prop where
  network : body.network = app.config.network.name
  unhandled : Knows past (.eventServiceLogCount
    fun log => log.txHash = body.txHash ∧ log.type = type) (0 : Nat)
  known : ∃ row, Knows past (.userFindUnique body.address) (some row)

/-- What `burnGen0Buds` has checked before the dice. -/
structure Burns (body : BurnGen0Buds) : Prop where
  new : NewTransaction app past body.toAdminDtoBase .BURN_GEN0
  burned : OwnsBuds past (ADDRESSES app.config.network).BUD_BURN body.maleBudId
    body.femaleBudId
  matched : Matched past body.maleBudId body.femaleBudId
  free : NotBreeding past body.maleBudId body.femaleBudId

end Facts

/-! What is known stays known. -/

section Later

variable {app : App} {past later : Past} (onward : past <+: later)

include onward

theorem Knows.kept {query : Query} {answer : query.Answer}
    (knows : Knows past query answer) : Knows later query answer :=
  onward.subset knows

theorem Paid.kept {user : Address} {price : Int} (paid : Paid past user price) :
    Paid later user price := by
  obtain ⟨row, updated, found, covered, charged⟩ := paid
  exact ⟨row, updated, found.kept onward, covered, charged.kept onward⟩

theorem SignedIn.kept {body : LoginDto} (signedIn : SignedIn past body) :
    SignedIn later body := by
  obtain ⟨⟨now, clock, accepted⟩, signer, recovered, same⟩ := signedIn
  exact ⟨⟨now, clock.kept onward, accepted⟩, signer, recovered.kept onward,
    same⟩

theorem OwnsBuds.kept {holder : Address} {maleBudId femaleBudId : Int}
    (owns : OwnsBuds past holder maleBudId femaleBudId) :
    OwnsBuds later holder maleBudId femaleBudId := by
  obtain ⟨owners, named, both⟩ := owns
  exact ⟨owners, named.kept onward, both⟩

theorem Matched.kept {maleBudId femaleBudId : Int}
    (matched : Matched past maleBudId femaleBudId) :
    Matched later maleBudId femaleBudId := by
  obtain ⟨response, shown, checked⟩ := matched
  exact ⟨response, shown.kept onward, checked⟩

theorem HoldsItem.kept {user : Address} {item : Int} {least : Nat}
    (holds : HoldsItem past user item least) :
    HoldsItem later user item least := by
  obtain ⟨balance, shown, enough⟩ := holds
  exact ⟨balance, shown.kept onward, enough⟩

theorem ItemCovered.kept {pair : BreedPair} (covered : ItemCovered past pair) :
    ItemCovered later pair := by
  intro item uses present
  obtain ⟨count, counted, holds⟩ := covered item uses present
  exact ⟨count, counted.kept onward, holds.kept onward⟩

theorem Evaluable.kept {pair : BreedPair} {maleBudId femaleBudId : Int}
    {level : BreedLevel} {data : BreedLevelUpdate}
    (evaluable : Evaluable app past pair maleBudId femaleBudId level data) :
    Evaluable app later pair maleBudId femaleBudId level data := by
  obtain ⟨found, blank, ⟨now, clock, elapsed⟩, buds, chosen, gendered⟩ :=
    evaluable
  exact ⟨found.kept onward, blank, ⟨now, clock.kept onward, elapsed⟩, buds,
    chosen.kept onward, gendered⟩

theorem Evaluated.kept {pair : BreedPair} {maleBudId femaleBudId : Int}
    (evaluated : Evaluated app past pair maleBudId femaleBudId) :
    Evaluated app later pair maleBudId femaleBudId := by
  obtain ⟨level, data, row, evaluable, stored⟩ := evaluated
  exact ⟨level, data, row, evaluable.kept onward, stored.kept onward⟩

theorem Climbs.kept {req : Req} {body : BreedUpDto} {pair : BreedPair}
    (climbs : Climbs app past req body pair) :
    Climbs app later req body pair where
  found := Knows.kept onward climbs.found
  within := climbs.within
  item := climbs.item.kept onward
  buds := climbs.buds.kept onward
  paid := climbs.paid.kept onward

theorem Finishes.kept {req : Req} {body : BreedFinalizeDto} {pair : BreedPair}
    (finishes : Finishes app past req body pair) :
    Finishes app later req body pair :=
  ⟨Knows.kept onward finishes.found, finishes.reached⟩

theorem firstDraw_later {draw : Draw} (drawn : firstDraw past = some draw) :
    firstDraw later = some draw := by
  obtain ⟨extra, rfl⟩ := onward
  rw [firstDraw, List.filterMap_append, List.head?_append]
  exact Option.or_eq_some_iff.mpr (.inl drawn)

theorem Won.kept {rate : Rat} (won : Won past rate) : Won later rate := by
  refine won.imp_right ?_
  rintro ⟨draw, drawn, wins⟩
  exact ⟨draw, firstDraw_later onward drawn, wins⟩

theorem FinalRate.kept {pair : BreedPair} {rate : Rat}
    (final : FinalRate past pair rate) : FinalRate later pair rate := by
  obtain ⟨bonus, summed, same⟩ := final
  exact ⟨bonus, summed.kept onward, same⟩

theorem NewTransaction.kept {body : AdminDtoBase} {type : EventType}
    (new : NewTransaction app past body type) :
    NewTransaction app later body type := by
  obtain ⟨network, unhandled, row, known⟩ := new
  exact ⟨network, unhandled.kept onward, row, known.kept onward⟩

theorem Burns.kept {body : BurnGen0Buds} (burns : Burns app past body) :
    Burns app later body where
  new := burns.new.kept onward
  burned := burns.burned.kept onward
  matched := burns.matched.kept onward
  free := Knows.kept onward burns.free

end Later

/-- The traits of a bred bud: the drawn numbers stay below their bounds. -/
def Sized (bud : Bud) : Prop :=
  1 ≤ bud.thc ∧ bud.thc < 22 ∧ 1 ≤ bud.budSize ∧ bud.budSize < 20

/-- The traits of a Gen1 bud, of which the sizes go with the rate. -/
structure Awarded (app : App) (rate : Rat) (bud : Bud) : Prop where
  look : ∃ choice ∈ app.tables.budNames.toList,
    bud.name = choice.name ∧ bud.image = choice.gen1Video
  size : ⟨bud.thc, bud.budSize⟩ ∈
    (HashTableService.getMatchingGen1Rate app rate).toList

section Grounds

variable (app : App) (request : Request) (past : Past)

/-- The user a request charges, and the price. -/
def price : Request → Option (Address × Int)
  | .openSlot req _ => some (req.user, app.config.breedingPointToOpenSlot)
  | .convertIndoor req _ =>
      some (req.user, app.config.breedingPointToCovertIndoor)
  | .purchaseLand req => some (req.user, app.config.landPrice)
  | .levelBreedingUp req _ => some (req.user, app.config.breedingPointPerLevel)
  | _ => none

/-- The log row of a deposit or of a withdrawal, with the balance that was read. -/
def pointLog (body : BreedingPointDto) (type : EventType) (row : User) :
    EventServiceLogCreate where
  address := body.address
  txHash := body.txHash
  blockNumber := body.block
  type := type
  data := .breedingPoint body.amount row.breedingPoint

/-- A balance is charged by what it covers, or moved by a transaction of the chain
that is new; a deposit has been logged before. -/
def BalanceGrounds (address : Address) (value : Rat) : Prop :=
  ∃ row, Knows past (.userFindUnique address) (some row) ∧
    ((∃ amount, price app request = some (address, amount) ∧
        amount ≤ row.breedingPoint ∧ value = row.breedingPoint - amount) ∨
      (∃ body, request = .addBreedingPoint body ∧ body.address = address ∧
        NewTransaction app past body.toAdminDtoBase .DEPOSIT_BP ∧
        Knows past (.eventServiceLogCreate (pointLog body .DEPOSIT_BP row))
          (.ok ()) ∧
        value = row.breedingPoint + body.amount / 100) ∨
      ∃ body, request = .withdrawBreedingPoint body ∧ body.address = address ∧
        1 ≤ body.amount ∧
        NewTransaction app past body.toAdminDtoBase .WITHDRAW_BP ∧
        value = row.breedingPoint - body.amount / 100)

def PairGrounds (data : BreedPairCreate) : Prop :=
  ∃ req body slot, request = .createPair req body ∧
    data = ⟨req.user, req.gameKeyId, body.maleBudId, body.femaleBudId, data.rate,
      .PAIRED, body.slotId, body.gameItemId⟩ ∧
    OwnsBuds past req.user body.maleBudId body.femaleBudId ∧
    Matched past body.maleBudId body.femaleBudId ∧
    NotBreeding past body.maleBudId body.femaleBudId ∧
    (∀ item, body.gameItemId = some item → item ≠ 0 →
      HoldsItem past req.user item 1) ∧
    Knows past (.breedSlotFindFirst
      (LandService.openBreedSlotById req.user body.slotId)) (some slot) ∧
    BreedController.otherKeysSlot slot req.gameKeyId = false

def StatusGrounds (id : Int) (status : BreedPairStatus) : Prop :=
  (∃ req body pair, request = .cancelBreeding req body ∧
    FoundPair past req.user body.pairId pair ∧ id = pair.id ∧
    status = .CANCELED) ∨
  ∃ req body pair rate, request = .finalizeBreeding req body ∧
    Finishes app past req body pair ∧ id = body.pairId ∧
    Evaluated app past pair body.maleBudId body.femaleBudId ∧
    FinalRate past pair rate ∧
    (status = .COMPLETED ∧ Won past rate ∨ status = .FAILED)

/-- A level is the first one of a new pair, or the next one of a pair whose user has
paid for it and had the level before it evaluated. -/
def LevelGrounds (pairId number : Int) : Prop :=
  (∃ req body data pair, request = .createPair req body ∧
    Knows past (.breedPairCreate data) (.ok pair) ∧ pairId = pair.id ∧
    number = pair.currentLevel + 1) ∨
  ∃ req body pair, request = .levelBreedingUp req body ∧
    Climbs app past req body pair ∧
    Evaluated app past pair body.maleBudId body.femaleBudId ∧
    pairId = pair.id ∧ number = pair.currentLevel + 1

def EvaluationGrounds (id : Int) (data : BreedLevelUpdate) : Prop :=
  ∃ pair level, id = level.id ∧
    ((∃ req body, request = .levelBreedingUp req body ∧
        Climbs app past req body pair ∧
        Evaluable app past pair body.maleBudId body.femaleBudId level data) ∨
      ∃ req body, request = .finalizeBreeding req body ∧
        Finishes app past req body pair ∧
        Evaluable app past pair body.maleBudId body.femaleBudId level data)

/-- New slots come with a login to a key that has none, or with a land that is paid
for. -/
def LandGrounds (data : List BreedSlotCreate) : Prop :=
  (∃ body, request = .login body ∧ SignedIn past body ∧
    Knows past (.breedSlotCount (some body.gameKeyId)
      (LandService.freeLandSlot body.address body.gameKeyId)) (.ok 0) ∧
    data = LandService.newSlots body.address (some body.gameKeyId) none) ∨
  ∃ req landTokenId, request = .purchaseLand req ∧
    Paid past req.user app.config.landPrice ∧
    Knows past .dateNow landTokenId ∧
    Knows past (.breedSlotCount none
      (LandService.landSlot req.user landTokenId)) (.ok 0) ∧
    data = LandService.newSlots req.user none (some landTokenId)

/-- A slot is opened for points or for a breeding that was won. -/
def OpeningGrounds (id : Int) : Prop :=
  (∃ req body, request = .openSlot req body ∧ id = body.slotId ∧
    Paid past req.user app.config.breedingPointToOpenSlot) ∨
  ∃ req body closed slot, request = .finalizeBreeding req body ∧
    Knows past (.breedPairUpdate body.pairId (.status .COMPLETED))
      (.ok closed) ∧
    Knows past (.breedSlotFindFirst (BreedController.closedSlot req.user))
      (some slot) ∧ id = slot.id

/-- A slot is turned indoor for points or with a farmer pass. -/
def IndoorGrounds (id : Int) : Prop :=
  (∃ req body, request = .convertIndoor req body ∧ id = body.slotId ∧
    Paid past req.user app.config.breedingPointToCovertIndoor) ∨
  ∃ req body slot, request = .createPair req body ∧
    HoldsItem past req.user GameItem.FARMER_PASS 1 ∧
    Knows past (.breedSlotFindFirst
      (LandService.openBreedSlotById req.user body.slotId)) (some slot) ∧
    id = slot.id

/-- A slot is used by the pair that was created on it, and is free again once the
breeding is canceled or evaluated to its end. -/
def UseGrounds (id : Int) (used : Bool) : Prop :=
  (∃ req body data pair, request = .createPair req body ∧
    Knows past (.breedPairCreate data) (.ok pair) ∧ id = body.slotId ∧
    used = true) ∨
  (∃ req body pair canceled, request = .cancelBreeding req body ∧
    FoundPair past req.user body.pairId pair ∧
    Knows past (.breedPairUpdate pair.id (.status .CANCELED)) (.ok canceled) ∧
    id = pair.slotId ∧ used = false) ∨
  ∃ req body pair, request = .finalizeBreeding req body ∧
    Finishes app past req body pair ∧
    Evaluated app past pair body.maleBudId body.femaleBudId ∧
    id = pair.slotId ∧ used = false

/-- Pairs and slots are taken from their users when the chain shows another owner of
their buds or of their key. -/
def SeizureGrounds : Prop :=
  (∃ req body, request = .invalidatePair req body ∧
    OwnsBuds past req.user body.maleBudId body.femaleBudId) ∨
  (∃ body owners, request = .invalidateBreedingPairByBudId body ∧
    Knows past (.ownerOfBuds [body.budId]) (some owners) ∧
    owners[0]? = some body.owner) ∨
  ∃ body, request = .invalidSlotsForGameKey body ∧
    (body.option = 201 ∨
      Knows past (.ownerOfGameKey body.gameKeyId) (some body.owner))

theorem SeizureGrounds.kept {request : Request} {past later : Past}
    (seizes : SeizureGrounds request past) (onward : past <+: later) :
    SeizureGrounds request later := by
  rcases seizes with ⟨req, body, asks, owns⟩ | ⟨body, owners, asks, named, owner⟩ |
    ⟨body, asks, asked | named⟩
  · exact .inl ⟨req, body, asks, owns.kept onward⟩
  · exact .inr (.inl ⟨body, owners, asks, named.kept onward, owner⟩)
  · exact .inr (.inr ⟨body, asks, .inl asked⟩)
  · exact .inr (.inr ⟨body, asks, .inr (named.kept onward)⟩)

/-- Every Gen1 bud is the prize of a dice that was won, at the end of a breeding or
for buds that were burned. -/
def PrizeGrounds (data : Gen1BudCreate) : Prop :=
  (∃ req body pair closed rate, request = .finalizeBreeding req body ∧
    Finishes app past req body pair ∧ FinalRate past pair rate ∧
    Knows past (.breedPairUpdate body.pairId (.status .COMPLETED))
      (.ok closed) ∧
    Won past rate ∧ Awarded app rate data.bud ∧ data.pairId = some pair.id ∧
    data.minterAddress = req.user) ∨
  ∃ body, request = .burnGen0Buds body ∧ Burns app past body ∧
    Won past app.config.burnSuccessRate ∧
    Awarded app app.config.burnSuccessRate data.bud ∧ data.pairId = none ∧
    data.minterAddress = body.address

/-- A bud is named by its minter, in time, with a name that nothing bears. -/
def NameGrounds (id : Int) (name : String) : Prop :=
  ∃ req body bud now, request = .renameGen1Buds req body ∧ id = body.budId ∧
    name = BudController.trim body.name ∧
    Knows past (.gen1BudFindFirst
      fun bud => bud.id = body.budId ∧ bud.minterAddress = req.user)
      (some bud) ∧
    Knows past .dateNow now ∧
    now ≤ bud.createdAt + app.config.renameAllowedTime ∧
    Knows past (.gen1BudCount
      fun bud => BudController.sqlTrim bud.name = BudController.trim body.name)
      (0 : Nat) ∧
    Knows past (.checkBudNameApi body.name) (some true)

/-- A mint is signed for a bud that was stored, or for points that the balance
covers. -/
def SigningGrounds (mint : MintRequest) : Prop :=
  (∃ data bud, Knows past (.gen1BudCreate data) bud ∧
    mint = Concurrency.mintRequest bud) ∨
  ∃ req body row now, request = .convertBp2High req body ∧
    Knows past (.userFindUnique req.user) (some row) ∧
    body.amount ≤ row.breedingPoint ∧ Knows past .dateNow now ∧
    mint = ⟨req.user, .ConvertBP2HIGH, 0, body.amount * 100, now⟩

/-- A transaction of the chain is logged by the admin request that it is new to. -/
def LogGrounds (data : EventServiceLogCreate) : Prop :=
  (∃ body type row, (request = .addBreedingPoint body ∧ type = .DEPOSIT_BP ∨
      request = .withdrawBreedingPoint body ∧ type = .WITHDRAW_BP) ∧
    1 ≤ body.amount ∧ NewTransaction app past body.toAdminDtoBase type ∧
    Knows past (.userFindUnique body.address) (some row) ∧
    data = pointLog body type row) ∨
  ∃ body budId, request = .burnGen0Buds body ∧ Burns app past body ∧
    data = ⟨body.address, body.txHash, body.block, .BURN_GEN0,
      .burn body.maleBudId body.femaleBudId budId⟩

/-- What a request must know before it asks a query. -/
def Grounded : Query → Prop
  | .userUpdate address value => BalanceGrounds app request past address value
  | .userUpsert address signature gameKeyId =>
      ∃ body, request = .login body ∧ SignedIn past body ∧
        address = body.address ∧ signature = body.signature ∧
        gameKeyId = body.gameKeyId
  | .breedPairCreate data => PairGrounds request past data
  | .breedPairUpdate id (.status status) =>
      StatusGrounds app request past id status
  | .breedPairUpdate id (.currentLevel value) =>
      LevelGrounds app request past id value
  | .breedPairUpdateMany _ data =>
      data = .status .FAILED ∧ SeizureGrounds request past
  | .breedLevelCreate data => LevelGrounds app request past data.pairId data.level
  | .breedLevelUpdate id data => EvaluationGrounds app request past id data
  | .breedBudCreateMany levelId buds =>
      (∀ bud ∈ buds, Sized bud) ∧ ∃ data level,
        Knows past (.breedLevelCreate data) (.ok level) ∧ levelId = level.id
  | .breedSlotCreateMany data => LandGrounds app request past data
  | .breedSlotUpdate id (.isOpen _) => OpeningGrounds app request past id
  | .breedSlotUpdate id (.type _) => IndoorGrounds app request past id
  | .breedSlotUpdate id (.isUsed used) => UseGrounds app request past id used
  | .breedSlotUpdate _ (.deletedAt _) => False
  | .breedSlotUpdateMany _ _ => SeizureGrounds request past
  | .eventServiceLogCreate data => LogGrounds app request past data
  | .gen1BudCreate data => PrizeGrounds app request past data
  | .gen1BudUpdateSignature id signature =>
      ∃ data bud, Knows past (.gen1BudCreate data) bud ∧ id = bud.id ∧
        Knows past (.signMessage (Concurrency.mintRequest bud)) signature
  | .gen1BudUpdateName id name => NameGrounds app request past id name
  | .signMessage mint => SigningGrounds request past mint
  | _ => True

end Grounds

end BudBreeding.Mediation
