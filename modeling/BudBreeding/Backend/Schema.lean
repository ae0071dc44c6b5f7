import Mathlib.Data.Rat.Defs
import BudBreeding.Data.Table

namespace BudBreeding.Backend

open Data

/-! The database tables of `prisma/schema.prisma`. -/

abbrev Address := String

/-- Milliseconds since the epoch. -/
abbrev Time := Int

inductive BreedPairStatus where
  | PAIRED
  | COMPLETED
  | CANCELED
  | FAILED
  deriving DecidableEq, Repr

inductive BreedSlotType where
  | INDOOR
  | OUTDOOR
  deriving DecidableEq, Repr

inductive BudGender where
  | M
  | F
  deriving DecidableEq, Repr

inductive BudColor where
  | Light
  | Medium
  | Dark
  deriving DecidableEq, Repr

inductive BudShine where
  | Yes
  | No
  deriving DecidableEq, Repr

inductive EventType where
  | BURN_GEN0
  | MINT_LAND
  | DEPOSIT_BP
  | WITHDRAW_BP
  deriving DecidableEq, Repr

structure User where
  address : Address
  signature : String
  gameKeyId : Option Int
  breedingPoint : Int
  deriving DecidableEq, Repr

structure BreedPair where
  id : Int
  maleBudId : Int
  femaleBudId : Int
  rate : Rat
  createdAt : Time
  userAddress : Address
  currentLevel : Int
  status : BreedPairStatus
  slotId : Int
  gameKeyId : Int
  gameItemId : Option Int
  deriving DecidableEq, Repr

structure BreedLevel where
  id : Int
  pairId : Int
  level : Int
  createdAt : Time
  bonusRate : Rat
  maleBreedBudId : Option Int
  femaleBreedBudId : Option Int
  deriving DecidableEq, Repr

/-- The traits shared by every kind of bud (`Bud` of `types.ts`). -/
structure Bud where
  name : String
  image : String
  thc : Int
  budSize : Int
  gender : BudGender
  shine : BudShine
  color : BudColor
  deriving DecidableEq, Repr

structure BudWithId extends Bud where
  id : Int
  revealed : Bool
  deriving DecidableEq, Repr

structure BreedBud extends Bud where
  id : Int
  createdAt : Time
  levelId : Int
  deriving DecidableEq, Repr

structure BreedSlot where
  id : Int
  isOpen : Bool
  isUsed : Bool
  type : BreedSlotType
  gameKeyId : Option Int
  landTokenId : Option Int
  userAddress : Address
  deletedAt : Option Time
  deriving DecidableEq, Repr

/-- What `JSON.stringify` puts into the `data` column of an event log row. -/
inductive EventData where
  | breedingPoint (amount : Rat) (balance : Int)
  | burn (maleBudId femaleBudId : Int) (budId : Option Int)
  deriving DecidableEq, Repr

structure EventServiceLog where
  id : Int
  address : Address
  txHash : String
  blockNumber : Int
  type : EventType
  data : EventData
  deriving DecidableEq, Repr

structure Gen1Bud extends Bud where
  id : Int
  createdAt : Time
  minterAddress : Address
  signature : String
  pairId : Option Int
  deriving DecidableEq, Repr

structure Db where
  user : Table User User.address
  breedPair : Serial BreedPair BreedPair.id
  breedLevel : Serial BreedLevel BreedLevel.id
  breedBud : Serial BreedBud BreedBud.id
  breedSlot : Serial BreedSlot BreedSlot.id
  eventServiceLog : Serial EventServiceLog EventServiceLog.id
  gen1Bud : Serial Gen1Bud Gen1Bud.id

def Db.empty : Db where
  user := .empty
  breedPair := .empty
  breedLevel := .empty
  breedBud := .empty
  breedSlot := .empty
  eventServiceLog := .empty
  gen1Bud := .empty

/-- Values a PostgreSQL `INTEGER` column accepts: everything else makes the
statement that writes it fail. -/
def toIntColumn (value : Rat) : Option Int :=
  if value.den = 1 ∧ -2147483648 ≤ value.num ∧ value.num ≤ 2147483647 then
    some value.num
  else
    none

theorem toIntColumn_eq_some {value : Rat} {column : Int}
    (accepted : toIntColumn value = some column) : value = column := by
  unfold toIntColumn at accepted
  split at accepted
  · next holds =>
      cases accepted
      exact (Rat.den_eq_one_iff value).mp holds.1 |>.symm
  · cases accepted

theorem le_of_toIntColumn {value : Rat} {column : Int}
    (accepted : toIntColumn value = some column) : column ≤ 2147483647 := by
  unfold toIntColumn at accepted
  split at accepted
  · next holds =>
      cases accepted
      exact holds.2.2
  · cases accepted

theorem toIntColumn_intCast {value : Int} (nonnegative : 0 ≤ value)
    (bounded : value ≤ 2147483647) : toIntColumn (value : Rat) = some value := by
  unfold toIntColumn
  rw [if_pos]
  · rw [Rat.num_intCast]
  · rw [Rat.num_intCast, Rat.den_intCast]
    omega

/-- Integers an `INTEGER` column holds; a statement that names another one fails. -/
def fitsIntColumn (value : Int) : Bool :=
  -2147483648 ≤ value ∧ value ≤ 2147483647

end BudBreeding.Backend
