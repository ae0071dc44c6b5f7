import BudBreeding.Backend.Rules

namespace BudBreeding.Backend

open Program

/-! Which tables and which outside services each part of a handler asks. -/

inductive Resource where
  | table (name : TableName)
  | clock
  | dice
  | chain
  | api
  | wallet
  deriving DecidableEq, Repr

namespace Query

def resource : Query → Resource
  | .userFindUnique _ => .table .user
  | .userUpdate _ _ => .table .user
  | .userUpsert _ _ _ => .table .user
  | .breedPairFindFirst _ => .table .breedPair
  | .breedPairFindMany _ => .table .breedPair
  | .breedPairCount _ => .table .breedPair
  | .breedPairCreate _ => .table .breedPair
  | .breedPairUpdate _ _ => .table .breedPair
  | .breedPairUpdateMany _ _ => .table .breedPair
  | .breedLevelFindFirst _ => .table .breedLevel
  | .breedLevelCreate _ => .table .breedLevel
  | .breedLevelUpdate _ _ => .table .breedLevel
  | .breedLevelSumBonusRate _ => .table .breedLevel
  | .breedBudFindMany _ => .table .breedBud
  | .breedBudCreateMany _ _ => .table .breedBud
  | .breedSlotFindFirst _ => .table .breedSlot
  | .breedSlotFindMany _ => .table .breedSlot
  | .breedSlotCount _ _ => .table .breedSlot
  | .breedSlotCreateMany _ => .table .breedSlot
  | .breedSlotUpdate _ _ => .table .breedSlot
  | .breedSlotUpdateMany _ _ => .table .breedSlot
  | .eventServiceLogCount _ => .table .eventServiceLog
  | .eventServiceLogCreate _ => .table .eventServiceLog
  | .gen1BudFindFirst _ => .table .gen1Bud
  | .gen1BudCount _ => .table .gen1Bud
  | .gen1BudCreate _ => .table .gen1Bud
  | .gen1BudUpdateSignature _ _ => .table .gen1Bud
  | .gen1BudUpdateName _ _ => .table .gen1Bud
  | .dateNow => .clock
  | .mathRandom => .dice
  | .ownerOfBuds _ => .chain
  | .ownerOfGameKey _ => .chain
  | .balanceOfGameItem _ _ => .chain
  | .budsOfMetadataApi _ => .api
  | .signMessage _ => .wallet
  | .verifyMessage _ _ => .wallet
  | .checkBudNameApi _ => .api

def Within (resources : List Resource) (query : Query) : Prop :=
  query.resource ∈ resources

theorem Within.mono {fewer more : List Resource} {query : Query}
    (within : query.Within fewer) (included : fewer ⊆ more) :
    query.Within more :=
  included within

end Query

@[simp] theorem uses_settle {α : Type} {permitted : Query → Prop}
    (outcome : Except PrismaError α) : (settle outcome).Uses permitted := by
  cases outcome <;> trivial

section Dice

@[simp] theorem uses_randomNumber (max min : Int) :
    (randomNumber max min).Uses (Query.Within [.dice]) := by
  simp [randomNumber, Query.Within, Query.resource]

@[simp] theorem uses_winRandomChance (chance : Rat) :
    (winRandomChance chance).Uses (Query.Within [.dice]) := by
  unfold winRandomChance
  split
  · simp
  · split <;> simp

@[simp] theorem uses_randomElement {α : Type} (choices : Choices α) :
    (randomElement choices).Uses (Query.Within [.dice]) := by
  refine Prog.uses_bind (uses_randomNumber _ _) fun index => ?_
  split <;> simp

@[simp] theorem uses_lookUpGen1Bud (app : App) (rate : Rat) :
    (HashTableService.lookUpGen1Bud app rate).Uses (Query.Within [.dice]) := by
  refine Prog.uses_bind (uses_randomNumber _ _) fun index => ?_
  split <;> simp

@[simp] theorem uses_generateRandomBud (app : App) (options : RandomBudOptions) :
    (generateRandomBud app options).Uses (Query.Within [.dice]) := by
  refine Prog.uses_bind (uses_randomElement _) fun nameAndImage => ?_
  refine Prog.uses_bind (uses_randomNumber _ _) fun thc => ?_
  refine Prog.uses_bind (uses_randomNumber _ _) fun budSize => ?_
  refine Prog.uses_bind (uses_randomElement _) fun shine => ?_
  refine Prog.uses_bind (uses_randomElement _) fun gender => ?_
  exact Prog.uses_bind (uses_randomElement _) fun color => Prog.uses_pure _

@[simp] theorem uses_diceGen1Bud (app : App) (rate : Rat) :
    (BudService.diceGen1Bud app rate).Uses (Query.Within [.dice]) := by
  refine Prog.uses_bind (uses_winRandomChance _) fun success => ?_
  split <;> simp

@[simp] theorem uses_generateLevelBuds (app : App)
    (maleBud femaleBud : Option Bud) :
    (BreedService.generateLevelBuds app maleBud femaleBud).Uses
      (Query.Within [.dice]) := by
  unfold BreedService.generateLevelBuds
  split
  · refine Prog.uses_bind (uses_generateRandomBud _ _) fun first => ?_
    refine Prog.uses_bind (uses_generateRandomBud _ _) fun second => ?_
    refine Prog.uses_bind (uses_generateRandomBud _ _) fun third => ?_
    exact Prog.uses_bind (uses_generateRandomBud _ _) fun fourth =>
      Prog.uses_pure _
  · trivial

end Dice

section Checks

theorem uses_verifyBudPairs (address : Address) (maleBudId femaleBudId : Int)
    (checkMetadata : Bool) :
    (BudService.verifyBudPairs address maleBudId femaleBudId
      checkMetadata).Uses (Query.Within [.chain, .api]) := by
  have owners : (BudService.ownersOf [maleBudId, femaleBudId]).Uses
      (Query.Within [.chain, .api]) := by
    refine Prog.uses_bind ?_ fun owners => ?_
    · simp [Query.Within, Query.resource]
    · split <;> simp
  refine Prog.uses_bind (Prog.uses_throwIf _ _) fun _ => ?_
  refine Prog.uses_bind (Prog.uses_throwIf _ _) fun _ => ?_
  refine Prog.uses_bind owners fun _ => ?_
  refine Prog.uses_bind (Prog.uses_throwIf _ _) fun _ => ?_
  split
  · refine Prog.uses_bind ?_ fun metadatas => ?_
    · simp [BudService.getMetadatas, Query.Within, Query.resource]
    · refine Prog.uses_bind (Prog.uses_throwIf _ _) fun _ => ?_
      exact Prog.uses_bind (Prog.uses_throwIf _ _) fun _ => Prog.uses_pure _
  · simp

theorem uses_checkGameItemBalance (user : Address) (id : Int)
    (minAmount : Nat) :
    (BreedService.checkGameItemBalance user id minAmount).Uses
      (Query.Within [.chain]) := by
  refine Prog.uses_bind ?_ fun balance => ?_
  · simp [Query.Within, Query.resource]
  · split <;> simp

theorem uses_checkGameItem (user : Address) (gameItemId : Option Int) :
    (BreedController.checkGameItem user gameItemId).Uses
      (Query.Within [.chain]) := by
  unfold BreedController.checkGameItem
  split
  · simp
  · split
    · simp
    · exact uses_checkGameItemBalance _ _ _

theorem uses_verifyGameItemPossession (pair : BreedPair) :
    (BreedService.verifyGameItemPossession pair).Uses
      (Query.Within [.chain, .table .breedPair]) := by
  unfold BreedService.verifyGameItemPossession
  split
  · simp
  · split
    · simp
    · refine Prog.uses_bind ?_ fun minAmount => ?_
      · simp [Prisma.breedPairCount, Query.Within, Query.resource]
      · refine Prog.uses_bind (Prog.uses_throwIf _ _) fun _ => ?_
        refine (uses_checkGameItemBalance _ _ _).mono fun query within => ?_
        exact within.mono (by simp)

theorem uses_getStartSuccessRate (app : App) (maleBudId femaleBudId : Int)
    (gameItemId : Option Int) (slot : BreedSlot) :
    (BreedService.getStartSuccessRate app maleBudId femaleBudId gameItemId
      slot).Uses (Query.Within [.api, .dice]) := by
  have drawn (max min : Int) :
      (randomNumber max min).Uses (Query.Within [.api, .dice]) :=
    (uses_randomNumber max min).mono fun _ within => within.mono (by simp)
  refine Prog.uses_bind ?_ fun metadatas => ?_
  · simp [BudService.getMetadatas, Query.Within, Query.resource]
  · simp only
    split
    · simp [drawn]
    · split <;> simp [drawn]

theorem uses_validateTransaction {permitted : Query → Prop}
    (counts : ∀ filter, permitted (.eventServiceLogCount filter)) (app : App)
    (txHash network : String) (type : EventType) :
    (AdminService.validateTransaction app txHash network type).Uses
      permitted := by
  simp [AdminService.validateTransaction, Prisma.eventServiceLogCount, counts]

end Checks

section Writes

theorem uses_createNewLandSlots (userAddress : Address) (landTokenId : Int) :
    (LandService.createNewLandSlots userAddress landTokenId).Uses
      (Query.Within [.table .breedSlot]) := by
  refine Prog.uses_bind ?_ fun count => ?_
  · exact Prog.uses_bind (by simp [Query.Within, Query.resource]) uses_settle
  · split
    · simp
    · exact Prog.uses_bind (by simp [Query.Within, Query.resource]) uses_settle

theorem uses_upgradeSlot {permitted : Query → Prop}
    (updates : ∀ id value, permitted (.breedSlotUpdate id (.type value)))
    (body : CreateBreedPairDto) (slot : BreedSlot) :
    (BreedController.upgradeSlot body slot).Uses permitted := by
  unfold BreedController.upgradeSlot
  split
  · simp [Prisma.breedSlotUpdate, updates]
  · simp

theorem uses_openNextSlot (user : Address) :
    (BreedController.openNextSlot user).Uses
      (Query.Within [.table .breedSlot]) := by
  refine Prog.uses_bind ?_ fun slot => ?_
  · simp [Prisma.breedSlotFindFirst, Query.Within, Query.resource]
  · split
    · simp
    · simp [Prisma.breedSlotUpdate, Query.Within, Query.resource]

theorem uses_evaluateBreedLevel (app : App) (pair : BreedPair)
    (maleBudId femaleBudId : Int) :
    (BreedService.evaluateBreedLevel app pair maleBudId femaleBudId).Uses
      (Query.Within [.clock, .table .breedLevel, .table .breedBud]) := by
  refine Prog.uses_bind ?_ fun level => ?_
  · simp [Prisma.breedLevelFindFirst, Query.Within, Query.resource]
  · split
    · simp
    · refine Prog.uses_bind (Prog.uses_throwIf _ _) fun _ => ?_
      refine Prog.uses_bind ?_ fun now => ?_
      · simp [dateNow, Query.Within, Query.resource]
      refine Prog.uses_bind (Prog.uses_throwIf _ _) fun _ => ?_
      refine Prog.uses_bind ?_ fun buds => ?_
      · simp [Prisma.breedBudFindMany, Query.Within, Query.resource]
      refine Prog.uses_bind (Prog.uses_throwIf _ _) fun _ => ?_
      simp [Prisma.breedLevelUpdate, Query.Within, Query.resource]

theorem uses_finalizeBreeding (app : App) (pair : BreedPair) :
    (BreedService.finalizeBreeding app pair).Uses
      (Query.Within [.dice, .table .breedLevel]) := by
  refine Prog.uses_bind ?_ fun bonus => ?_
  · simp [Prisma.breedLevelSumBonusRate, Query.Within, Query.resource]
  · exact (uses_diceGen1Bud _ _).mono fun _ within => within.mono (by simp)

/-- Besides the new level, `startBreedLevel` moves the level counter only. -/
theorem uses_startBreedLevel {permitted : Query → Prop}
    (within : ∀ query : Query,
      query.Within [.dice, .table .breedLevel, .table .breedBud] →
        permitted query)
    (counters : ∀ id value, permitted (.breedPairUpdate id (.currentLevel value)))
    (app : App) (pair : BreedPair) (maleBud femaleBud : Option Bud) :
    (BreedService.startBreedLevel app pair maleBud femaleBud).Uses
      permitted := by
  have moved : (Prisma.breedPairUpdate pair.id
      (.currentLevel (pair.currentLevel + 1))).Uses permitted := by
    simp [Prisma.breedPairUpdate, counters]
  have buds : (BreedService.generateLevelBuds app maleBud femaleBud).Uses
      permitted :=
    (uses_generateLevelBuds _ _ _).mono fun query drawn =>
      within query (drawn.mono (by simp))
  unfold BreedService.startBreedLevel
  simp only
  split
  · simp [moved]
  · refine Prog.uses_bind buds fun buds => ?_
    refine Prog.uses_bind ?_ fun level => ?_
    · have created (data : BreedLevelCreate) :
          permitted (.breedLevelCreate data) :=
        within _ (by simp [Query.Within, Query.resource])
      simp [Prisma.breedLevelCreate, created]
    · have created (levelId : Int) (bred : List Bud) :
          permitted (.breedBudCreateMany levelId bred) :=
        within _ (by simp [Query.Within, Query.resource])
      simp [Prisma.breedBudCreateMany, created, moved]

end Writes

end BudBreeding.Backend
