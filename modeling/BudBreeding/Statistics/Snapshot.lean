import Mathlib.Algebra.Order.Ring.Rat
import BudBreeding.Backend.Statement
import BudBreeding.Data.OuterJoin
import BudBreeding.Statistics.Schema

namespace BudBreeding.Statistics

open Data Backend Program

/-! `snapshotBreeding` of `stats.service.ts`. -/

inductive Column where
  | totalSuccess
  | totalFailure
  | totalCancels
  | totalHours
  | bpForBreeding
  | bpForLandUpgrade
  | burnedBuds
  deriving DecidableEq, Repr

namespace Stats

def get (row : Stats) : Column → Option Int
  | .totalSuccess => row.totalSuccess
  | .totalFailure => row.totalFailure
  | .totalCancels => row.totalCancels
  | .totalHours => row.totalHours
  | .bpForBreeding => row.bpForBreeding
  | .bpForLandUpgrade => row.bpForLandUpgrade
  | .burnedBuds => row.burnedBuds

def set (row : Stats) (value : Int) : Column → Stats
  | .totalSuccess => { row with totalSuccess := some value }
  | .totalFailure => { row with totalFailure := some value }
  | .totalCancels => { row with totalCancels := some value }
  | .totalHours => { row with totalHours := some value }
  | .bpForBreeding => { row with bpForBreeding := some value }
  | .bpForLandUpgrade => { row with bpForLandUpgrade := some value }
  | .burnedBuds => { row with burnedBuds := some value }

def blank (address : Address) (now : Time) (id : Int) : Stats where
  id := id
  address := address
  totalSuccess := none
  totalFailure := none
  totalCancels := none
  totalHours := none
  bpForBreeding := none
  bpForLandUpgrade := none
  burnedBuds := none
  createdAt := now
  updatedAt := now

variable (row : Stats) (value : Int) (column : Column)

@[simp] theorem set_id : (row.set value column).id = row.id := by
  cases column <;> rfl

@[simp] theorem set_address : (row.set value column).address = row.address := by
  cases column <;> rfl

theorem get_set :
    (row.set value column).get = Function.update row.get column (some value) := by
  funext other
  cases column <;> cases other <;> rfl

@[simp] theorem get_blank (address : Address) (now : Time) (id : Int) :
    (blank address now id).get = Sheet.blank := by
  funext column
  cases column <;> rfl

end Stats

/-! What an `INSERT` casts its values to. -/

/-- `VARCHAR(42)`: only spaces are cut off. -/
def toVarChar (text : String) : Option Address :=
  if text.length ≤ 42 then some text
  else if (text.toList.drop 42).all (fun letter => letter = ' ') then
    some (String.ofList (text.toList.take 42))
  else none

/-- `NUMERIC` values are rounded half away from zero. -/
def roundNumeric (value : Rat) : Int :=
  if value < 0 then -(-value + 1 / 2).floor else (value + 1 / 2).floor

def toInteger (value : Rat) : Option Int := integer (roundNumeric value)

/-- One row of an `INSERT ... ON CONFLICT ("address") DO UPDATE`. -/
def conflictUpdate (now : Time) (column : Column) (address : Address)
    (value : Int) : Upsert Stats.id Stats.address where
  value := address
  create id := (Stats.blank address now id).set value column
  update row := { row.set value column with updatedAt := now }
  create_id := by
    intro id
    exact Stats.set_id _ _ _
  create_key := by
    intro id
    exact Stats.set_address _ _ _
  update_id := by
    intro row
    exact Stats.set_id _ _ _
  update_key := by
    intro row
    exact Stats.set_address _ _ _

@[simp] theorem conflictUpdate_value (now : Time) (column : Column)
    (address : Address) (value : Int) :
    (conflictUpdate now column address value).value = address := rfl

def insertRow (now : Time) (column : Column)
    (onConflict : Option Int → Int → Option Int) (table : StatsTable)
    (entry : Address × Int) : Option StatsTable :=
  let value := (table.lookup entry.1).elim (some entry.2)
    fun row => onConflict (row.get column) entry.2
  value.map fun value => table.upsert (conflictUpdate now column entry.1 value)

/-- What an `INSERT` takes from a selected row. -/
def proposedRow (row : Address × Option Rat) : Option (Address × Int) := do
  let address ← toVarChar row.1
  let value ← row.2.bind toInteger
  some (address, value)

/-- `INSERT INTO "Stats" SELECT ...`: the selected rows come in any order, and no row
may be met twice by one statement. -/
def insertSelection (oracle : Oracle) (column : Column)
    (onConflict : Option Int → Int → Option Int)
    (selection : List (Address × Option Rat)) (table : StatsTable) :
    Option StatsTable := do
  let entries ← (oracle.arrange selection).mapM proposedRow
  if (entries.map Prod.fst).Nodup then
    entries.foldlM (insertRow oracle.now column onConflict) table
  else none

/-! The conflict clauses: the value is overwritten, or added to. -/

def overwrite (_ : Option Int) (value : Int) : Option Int := some value

def addTo (old : Option Int) (value : Int) : Option Int :=
  integer (old.getD 0 + value)

/-! The `SELECT ... GROUP BY` of each statement. -/

def groupBy {α : Type} (address : α → Address) (aggregate : List α → Option Rat)
    (rows : List α) : List (Address × Option Rat) :=
  (groups address rows).map fun group => (group.1, aggregate group.2)

def count {α : Type} (rows : List α) : Option Rat := some rows.length

def countTimes {α : Type} (factor : Rat) (rows : List α) : Option Rat :=
  some (rows.length * factor)

def sum {α : Type} (expression : α → Option Rat) (rows : List α) : Option Rat :=
  (rows.mapM expression).map List.sum

def bpSpent (pair : BreedPair) : Option Rat :=
  (integer (pair.currentLevel * 15)).map fun points : Int => (points : Rat)

/-- `2022-06-06 00:00:00`. -/
def shortBreedings : Time := 1654473600000

def hoursPerLevel (pair : BreedPair) : Int :=
  if pair.createdAt < shortBreedings then 48 else 24

def itemRate (pair : BreedPair) : Rat :=
  if pair.gameItemId = some 4 then 0.5
  else if pair.gameItemId = some 3 then 0.8
  else 1

def hoursSpent (pair : BreedPair) : Option Rat :=
  (integer (pair.currentLevel * hoursPerLevel pair)).map fun hours : Int =>
    hours * itemRate pair

def selection (db : Db) : Column → List (Address × Option Rat)
  | .totalSuccess =>
      groupBy BreedPair.userAddress count
        (db.breedPair.rows.filter fun pair => pair.status = .COMPLETED)
  | .totalFailure =>
      groupBy BreedPair.userAddress count
        (db.breedPair.rows.filter fun pair =>
          pair.status = .FAILED ∧ pair.currentLevel = 5)
  | .totalCancels =>
      groupBy BreedPair.userAddress count
        (db.breedPair.rows.filter fun pair => pair.status = .CANCELED)
  | .totalHours => groupBy BreedPair.userAddress (sum hoursSpent) db.breedPair.rows
  | .bpForBreeding => groupBy BreedPair.userAddress (sum bpSpent) db.breedPair.rows
  | .bpForLandUpgrade =>
      groupBy BreedSlot.userAddress (countTimes 69)
        (db.breedSlot.rows.filter fun slot => slot.type = .INDOOR)
  | .burnedBuds =>
      groupBy EventServiceLog.address (countTimes 2)
        (db.eventServiceLog.rows.filter fun log => log.type = .BURN_GEN0)

/-! The statements themselves. -/

def snapshotSpentBPsForBreeding (oracle : Oracle) (db : Db) :
    StatsTable → Option StatsTable :=
  insertSelection oracle .bpForBreeding addTo (selection db .bpForBreeding)

def snapshotSpentBpsForLandUpgrade (oracle : Oracle) (db : Db) :
    StatsTable → Option StatsTable :=
  insertSelection oracle .bpForLandUpgrade overwrite (selection db .bpForLandUpgrade)

def snapshotSuccessfulBreedings (oracle : Oracle) (db : Db) :
    StatsTable → Option StatsTable :=
  insertSelection oracle .totalSuccess overwrite (selection db .totalSuccess)

def snapshotBurnedG0Buds (oracle : Oracle) (db : Db) :
    StatsTable → Option StatsTable :=
  insertSelection oracle .burnedBuds overwrite (selection db .burnedBuds)

def snapshotFailedBreedings (oracle : Oracle) (db : Db) :
    StatsTable → Option StatsTable :=
  insertSelection oracle .totalFailure overwrite (selection db .totalFailure)

def snapshotCanceledBreedings (oracle : Oracle) (db : Db) :
    StatsTable → Option StatsTable :=
  insertSelection oracle .totalCancels overwrite (selection db .totalCancels)

def snapshotTotalBreedingHours (oracle : Oracle) (db : Db) :
    StatsTable → Option StatsTable :=
  insertSelection oracle .totalHours overwrite (selection db .totalHours)

def snapshot : Column → Oracle → Db → StatsTable → Option StatsTable
  | .totalSuccess => snapshotSuccessfulBreedings
  | .totalFailure => snapshotFailedBreedings
  | .totalCancels => snapshotCanceledBreedings
  | .totalHours => snapshotTotalBreedingHours
  | .bpForBreeding => snapshotSpentBPsForBreeding
  | .bpForLandUpgrade => snapshotSpentBpsForLandUpgrade
  | .burnedBuds => snapshotBurnedG0Buds

inductive Statement where
  | truncate
  | snapshot (column : Column)
  deriving DecidableEq, Repr

/-- The answer is whether the statement succeeds; one that fails changes no row. -/
def statistics (db : Db) : World (fun _ : Statement => Bool) Oracle StatsTable where
  exec := fun oracle statement table =>
    match statement with
    | .truncate => (true, table.truncate)
    | .snapshot column =>
        match snapshot column oracle db table with
        | none => (false, table)
        | some next => (true, next)
  allows := fun _ _ => True

/-- An awaited statement, whose error stops the caller. -/
def execute (statement : Statement) : Prog (fun _ : Statement => Bool) Unit Unit := do
  let succeeded ← Prog.call statement
  Prog.throwIf (succeeded = false) ()

def snapshotBreeding : Prog (fun _ : Statement => Bool) Unit Unit := do
  execute .truncate
  execute (.snapshot .totalSuccess)
  execute (.snapshot .totalFailure)
  execute (.snapshot .totalCancels)
  execute (.snapshot .totalHours)
  execute (.snapshot .bpForBreeding)
  execute (.snapshot .bpForLandUpgrade)
  execute (.snapshot .burnedBuds)

end BudBreeding.Statistics
