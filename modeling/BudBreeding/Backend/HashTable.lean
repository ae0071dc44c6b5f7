import BudBreeding.Backend.Calls

namespace BudBreeding.Backend

open Program

/-! `hash-table.service.ts`, `utils/bud.ts` and `utils/breed.ts`. -/

namespace HashTableService

def lookUp (table : List (Int × List (Int × Rat))) (thcId budSize : Int) :
    Option Rat :=
  (table.lookup thcId).bind fun sizes => sizes.lookup budSize

def lookUpBreedRate (app : App) (thcId budSize : Int) : Rat :=
  (lookUp app.tables.hashTable thcId budSize).getD 0

def lookUpBeginningSuccessRate (app : App) (thcId budSize : Int) : Rat :=
  (lookUp app.tables.hashTableBegin thcId budSize).getD 0

/-- The group of the least key at or above `rate`, else that of the last key. -/
def getMatchingGen1Rate (app : App) (rate : Rat) : Choices ThcAndBudSize :=
  let groups := app.tables.hashTableGen1.toList
  match groups.find? fun group => rate ≤ group.1 with
  | some group => group.2
  | none => (groups.getLast (List.cons_ne_nil _ _)).2

def lookUpGen1Bud (app : App) (rate : Rat) : Handler ThcAndBudSize := do
  let group := (getMatchingGen1Rate app rate).toList
  let index ← randomNumber (group.length - 1) 0
  match group[index.toNat]? with
  | some randomGroup => return randomGroup
  | none => .throw .typeError

end HashTableService

structure RandomBudOptions where
  maxThc : Int
  maxBudSize : Int
  targetGender : Option BudGender
  targetName : Option String
  targetImage : Option String
  gen1 : Bool

def defaultOptions : RandomBudOptions where
  maxThc := 22
  maxBudSize := 20
  targetGender := none
  targetName := none
  targetImage := none
  gen1 := false

/-- `array[randomNumber(array.length)]`. -/
def randomElement {α : Type} (choices : Choices α) : Handler α := do
  let index ← randomNumber choices.toList.length 0
  match choices.toList[index.toNat]? with
  | some element => return element
  | none => .throw .typeError

/-- A nonempty string replaces what was drawn, as `if (targetName)` does. -/
def override (target : Option String) (drawn : String) : String :=
  match target with
  | some text => if text = "" then drawn else text
  | none => drawn

def generateRandomBud (app : App) (options : RandomBudOptions) :
    Handler Bud := do
  let nameAndImage ← randomElement app.tables.budNames
  let thc ← randomNumber options.maxThc 1
  let budSize ← randomNumber options.maxBudSize 1
  let shine ← randomElement ⟨BudShine.Yes, [.No]⟩
  let gender ← randomElement ⟨BudGender.M, [.F]⟩
  let color ← randomElement ⟨BudColor.Light, [.Medium, .Dark]⟩
  return {
    name := override options.targetName nameAndImage.name
    image := override options.targetImage
      (if options.gen1 then nameAndImage.gen1Video else nameAndImage.image)
    thc := thc
    budSize := budSize
    gender := options.targetGender.getD gender
    shine := shine
    color := color }

inductive BonusRateStatus where
  | positive
  | neutral
  | negative
  deriving DecidableEq, Repr

def getBonusRateStatus (rate : Rat) : BonusRateStatus :=
  if rate = 0 then .neutral else if 0 < rate then .positive else .negative

def getBreedTime (baseTime : Int) (gameItemId : Option Int) : Int :=
  if gameItemId = some GameItem.FARMER_PASS then
    1 * baseTime / 2
  else if gameItemId = some GameItem.SUPERWEED_SERUM then
    4 * baseTime / 5
  else
    baseTime

end BudBreeding.Backend
