import BudBreeding.Program.Discipline
import BudBreeding.Backend.Interleavings
import BudBreeding.Lifecycle.Structure
import BudBreeding.Concurrency.Evolution

namespace BudBreeding.Concurrency

open Data Program Backend

/-! The terms on which the requests of the server share its database. -/

/-- The user on whose behalf a request writes; `invalidatePair` fails the pairs
of whoever has them. -/
def subject : Request → Option Address
  | .login body => some body.address
  | .convertBp2High req _ => some req.user
  | .openSlot req _ => some req.user
  | .convertIndoor req _ => some req.user
  | .purchaseLand req => some req.user
  | .invalidatePair _ _ => none
  | .createPair req _ => some req.user
  | .levelBreedingUp req _ => some req.user
  | .cancelBreeding req _ => some req.user
  | .finalizeBreeding req _ => some req.user
  | .renameGen1Buds req _ => some req.user
  | .invalidateBreedingPairByBudId body => some body.prevOwner
  | .invalidSlotsForGameKey body => some body.prevOwner
  | .addBreedingPoint body => some body.address
  | .withdrawBreedingPoint body => some body.address
  | .burnGen0Buds body => some body.address

/-- What a request has begun and not ended: a level whose buds are missing, a
level that the counter of its pair does not reach, a bud that is not signed, a
signature that is not stored. -/
inductive Work where
  | idle
  | raising (pairId number levelId : Int)
  | raised (pairId number : Int)
  | issuing (bud : Gen1Bud)
  | signed (id : Int) (signature : Option String)

namespace Work

def advance : Work → (query : Query) → query.Answer → Work
  | .idle, .breedLevelCreate data, .ok level =>
      .raising data.pairId data.level level.id
  | .raising pairId number _, .breedBudCreateMany _ _, _ =>
      .raised pairId number
  | .raised _ _, .breedPairUpdate _ (.currentLevel _), _ => .idle
  | .idle, .gen1BudCreate _, bud => .issuing bud
  | .issuing bud, .signMessage _, signature => .signed bud.id signature
  | .signed _ _, .gen1BudUpdateSignature _ _, _ => .idle
  | work, _, _ => work

/-- The pair to which the request is adding a level. -/
def climber : Work → Option Int
  | .raising pairId _ _ => some pairId
  | .raised pairId _ => some pairId
  | _ => none

/-- The token that the request is about to sign. -/
def token : Work → Option Int
  | .issuing bud => some bud.id
  | _ => none

end Work

structure Stage where
  subject : Option Address
  work : Work

/-- The request that `issueGen1BudMint` has signed for a bud. -/
def mintRequest (bud : Gen1Bud) : MintRequest :=
  ⟨bud.minterAddress, .Gen1Bud, bud.id, 1, bud.createdAt⟩

section Permissions

variable (app : App) (db : Db) (holder : Option Address)

def HoldsPair (id : Int) : Prop :=
  ∃ pair ∈ db.breedPair.rows, pair.id = id ∧ holder = some pair.userAddress

def HoldsSlot (id : Int) : Prop :=
  ∃ slot ∈ db.breedSlot.rows, slot.id = id ∧ holder = some slot.userAddress

def HoldsBud (id : Int) : Prop :=
  ∃ bud ∈ db.gen1Bud.rows, bud.id = id ∧ holder = some bud.minterAddress

/-- Level `number` of the pair has been evaluated. -/
def LevelRecorded (pairId number : Int) : Prop :=
  ∃ level ∈ db.breedLevel.rows, level.pairId = pairId ∧ level.level = number ∧
    level.maleBreedBudId ≠ none

/-- The evaluation of a level with one of its male and one of its female buds. -/
def Chosen (levelId : Int) (data : BreedLevelUpdate) : Prop :=
  ∃ male ∈ Lifecycle.budsOf db levelId, ∃ female ∈ Lifecycle.budsOf db levelId,
    male.gender = .M ∧ female.gender = .F ∧ data.maleBreedBudId = male.id ∧
      data.femaleBreedBudId = female.id ∧
      data.bonusRate = Lifecycle.breedRate app male + Lifecycle.breedRate app female

/-- Level `number` is the next one for a pair of the holder. -/
structure MayRaise (pairId number : Int) : Prop where
  begun : 1 ≤ number
  bounded : number ≤ app.config.targetLevel
  held : ∃ pair ∈ db.breedPair.rows, pair.id = pairId ∧
    holder = some pair.userAddress ∧ number ≤ pair.currentLevel + 1
  climbed : number = 1 ∨ LevelRecorded db pairId (number - 1)

/-- The update takes the slot forward only. -/
def Forward : BreedSlotUpdate → Prop
  | .type value => value = .INDOOR
  | .isUsed _ => True
  | .isOpen value => value = true
  | .deletedAt _ => True

/-- The counter moves to a level that was added, or past the last one. -/
def MayCount (work : Work) (id value : Int) : Prop :=
  work = .raised id value ∨ work = .idle ∧
    value = app.config.targetLevel + 1 ∧
      LevelRecorded db id app.config.targetLevel

/-- A bud is signed once it is stored; other requests are signed for the holder. -/
def MaySign (work : Work) (request : MintRequest) : Prop :=
  (∃ bud, work = .issuing bud ∧ request = mintRequest bud) ∨
    work = .idle ∧ request.typeString ≠ .Gen1Bud ∧
      holder = some request.address

end Permissions

/-- The queries a request may ask at a stage of its work, and with which values. -/
def permits (app : App) (stage : Stage) (query : Query) (db : Db) : Prop :=
  match query with
  | .userUpdate address _ => stage.subject = some address
  | .userUpsert address _ _ => stage.subject = some address
  | .breedPairCreate data =>
      stage.subject = some data.userAddress ∧
        HoldsSlot db stage.subject data.slotId
  | .breedPairUpdate id (.status status) =>
      status ≠ .PAIRED ∧ HoldsPair db stage.subject id
  | .breedPairUpdate id (.currentLevel value) =>
      HoldsPair db stage.subject id ∧ MayCount app db stage.work id value
  | .breedPairUpdateMany filter data =>
      (∃ status, status ≠ .PAIRED ∧ data = .status status) ∧
        ∀ pair ∈ db.breedPair.rows, filter pair = true →
          stage.subject = some pair.userAddress ∨ stage.subject = none
  | .breedLevelCreate data =>
      stage.work = .idle ∧ data.bonusRate = 0 ∧
        MayRaise app db stage.subject data.pairId data.level
  | .breedLevelUpdate id data =>
      Chosen app db id data ∧ ∃ level ∈ db.breedLevel.rows, level.id = id ∧
        ∃ pair ∈ db.breedPair.rows, pair.id = level.pairId ∧
          stage.subject = some pair.userAddress ∧
          level.level ≤ pair.currentLevel
  | .breedBudCreateMany levelId buds =>
      buds.map Bud.gender = [.M, .F, .F, .M] ∧
        ∃ pairId number, stage.work = .raising pairId number levelId ∧
          HoldsPair db stage.subject pairId
  | .breedSlotCreateMany data =>
      ∀ slot ∈ data, stage.subject = some slot.userAddress
  | .breedSlotUpdate id data =>
      Forward data ∧ HoldsSlot db stage.subject id
  | .breedSlotUpdateMany filter data =>
      Forward data ∧ ∀ slot ∈ db.breedSlot.rows, filter slot = true →
        stage.subject = some slot.userAddress ∨ stage.subject = none
  | .eventServiceLogCreate data => stage.subject = some data.address
  | .gen1BudCreate data =>
      stage.work = .idle ∧ stage.subject = some data.minterAddress ∧
        data.signature = ""
  | .gen1BudUpdateSignature id signature =>
      stage.work = .signed id signature ∧ HoldsBud db stage.subject id
  | .gen1BudUpdateName id _ => HoldsBud db stage.subject id
  | .signMessage request => MaySign stage.subject stage.work request
  | _ => True

/-- What every request may assume of the pairs: the slot of a pair belongs to the
owner of the pair. -/
structure Lodged (db : Db) : Prop where
  slots : ∀ pair ∈ db.breedPair.rows,
    HoldsSlot db (some pair.userAddress) pair.slotId
  counters : ∀ pair ∈ db.breedPair.rows, 0 ≤ pair.currentLevel

def discipline (app : App) : Discipline Query.Answer Stage Db where
  advance stage query answer :=
    { stage with work := stage.work.advance query answer }
  assumes _ := Lodged
  permits := permits app
  evolves := Evolves
  refl := .refl
  trans := .trans

/-- The stage of a request that has not started. -/
def outset (request : Request) : Stage :=
  ⟨subject request, .idle⟩

/-- A request ends with nothing left undone. -/
def ended {α : Type} (stage : Stage) (_ : Db) (_ : Except Failure α) : Prop :=
  stage.work = .idle

end BudBreeding.Concurrency
