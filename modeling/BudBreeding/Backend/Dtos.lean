import Mathlib.Data.List.Sort
import BudBreeding.Backend.Services

namespace BudBreeding.Backend

/-! The objects of `breed.dto.ts` that show pairs to their users, and the endpoints
that build them. -/

structure BreedBudDto extends Bud where
  id : Int
  createdAt : Time
  levelId : Int
  deriving DecidableEq, Repr

structure BreedLevelDto where
  id : Int
  pairId : Int
  level : Int
  createdAt : Time
  endAt : Option Time
  bonusRate : Option Rat
  buds : Option (List BreedBudDto)
  maleBreedBudId : Option Int
  femaleBreedBudId : Option Int
  deriving DecidableEq, Repr

structure BreedPairDto where
  id : Int
  maleBudId : Int
  femaleBudId : Int
  rate : Rat
  createdAt : Time
  userAddress : Address
  currentLevel : Int
  status : BreedPairStatus
  levels : Option (List BreedLevelDto)
  slotId : Int
  gameKeyId : Int
  gameItemId : Option Int
  deriving DecidableEq, Repr

/-- A level as a query with `include` returns it. -/
structure LoadedLevel extends BreedLevel where
  buds : Option (List BreedBud)

structure LoadedPair extends BreedPair where
  levels : Option (List LoadedLevel)

def BreedBudDto.build (bud : BreedBud) : BreedBudDto where
  toBud := bud.toBud
  id := bud.id
  createdAt := bud.createdAt
  levelId := bud.levelId

/-- A breed time of zero is falsy: the level then never ends. -/
def BreedLevelDto.build (now : Time) (breedTime : Int) (level : LoadedLevel) :
    BreedLevelDto :=
  let endAt :=
    if breedTime = 0 then none else some (level.createdAt + breedTime * 1000)
  let isBreedTimeElapsed := endAt.any fun endAt => endAt ≤ now
  { id := level.id
    pairId := level.pairId
    level := level.level
    createdAt := level.createdAt
    endAt := endAt
    bonusRate := if isBreedTimeElapsed then some level.bonusRate else none
    buds :=
      if isBreedTimeElapsed then
        level.buds.map fun buds => buds.map BreedBudDto.build
      else none
    maleBreedBudId := level.maleBreedBudId
    femaleBreedBudId := level.femaleBreedBudId }

def BreedPairDto.build (now : Time) (breedTime : Int) (pair : LoadedPair) :
    BreedPairDto where
  id := pair.id
  maleBudId := pair.maleBudId
  femaleBudId := pair.femaleBudId
  rate := pair.rate
  createdAt := pair.createdAt
  userAddress := pair.userAddress
  currentLevel := pair.currentLevel
  status := pair.status
  levels := pair.levels.map fun levels =>
    levels.map (BreedLevelDto.build now (getBreedTime breedTime pair.gameItemId))
  slotId := pair.slotId
  gameKeyId := pair.gameKeyId
  gameItemId := pair.gameItemId

namespace BreedController

/-- `include: { buds: true }`. -/
def loadLevel (oracle : Oracle) (db : Db) (level : BreedLevel) : LoadedLevel where
  toBreedLevel := level
  buds := some (oracle.arrange
    (db.breedBud.rows.filter fun bud => bud.levelId = level.id))

/-- `include: { levels: .. }`, ordered by the number of the level. -/
def loadPair (oracle : Oracle) (db : Db) (pair : BreedPair) : LoadedPair where
  toBreedPair := pair
  levels := some (((oracle.arrange (db.breedLevel.rows.filter fun level =>
    level.pairId = pair.id)).insertionSort fun first second =>
      first.level ≤ second.level).map (loadLevel oracle db))

def pairOfUser (user : Address) (pairId : Option Int) (pair : BreedPair) : Bool :=
  pair.userAddress = user ∧ pairId.all fun id => pair.id = id

/-- The oracle stands for the clock and for the order of the rows. -/
def getPairs (app : App) (oracle : Oracle) (db : Db) (user : Address)
    (pairId : Option Int) : List BreedPairDto :=
  (oracle.arrange (db.breedPair.rows.filter (pairOfUser user pairId))).map
    fun pair => BreedPairDto.build oracle.now app.config.timePeriod
      (loadPair oracle db pair)

end BreedController

end BudBreeding.Backend
