import BudBreeding.Backend.Usage
import BudBreeding.Backend.Runs

namespace BudBreeding.Backend

open Data Program

/-! Requests that are handled at the same time, one awaited call at a time. -/

abbrev Server (ι : Type) := Pool ι Query.Answer Failure Response Db

abbrev ServerStep (ι : Type) := Transition (Server ι) (Event ι Query.Answer)

def serving {ι : Type} (app : App) (requests : ι → Request) (db : Db) :
    Server ι :=
  ⟨db, fun thread => handle app (requests thread)⟩

variable {ι : Type} [DecidableEq ι]

abbrev Interleaving (app : App) (admitted : Oracle → Prop)
    (requests : ι → Request) (db : Db) (steps : List (ServerStep ι))
    (final : Server ι) : Prop :=
  History (Pool.Next (surroundings admitted)) (serving app requests db) steps
    final

/-- Handling requests at the same time as a schedule says, each call with its
own oracle. -/
def interleave (app : App) (requests : ι → Request)
    (schedule : List (ι × Oracle)) (db : Db) :
    List (ServerStep ι) × Server ι :=
  Pool.play (surroundings fun _ => True) schedule (serving app requests db)

theorem interleaving_of_schedule (app : App) (requests : ι → Request)
    (schedule : List (ι × Oracle)) (db : Db) :
    Interleaving app (fun _ => True) requests db
      (interleave app requests schedule db).1
      (interleave app requests schedule db).2 :=
  Pool.history_play (fun _ _ _ => trivial) .nil

def turns (count : Nat) (now : Time) : List (Bool × Oracle) :=
  ((List.replicate count [true, false]).flatten).map
    fun thread => (thread, .agreeable "alice" now)

def inOrder (count : Nat) (now : Time) : List (Bool × Oracle) :=
  (List.replicate count true ++ List.replicate count false).map
    fun thread => (thread, .agreeable "alice" now)

section Rules

variable {μ : Type} {protocol : Protocol Query.Answer μ} {stage : μ}
  {admitted : Oracle → Prop} {finish : μ → Except Failure Response → Prop}

theorem follows_validated {valid : Bool} {handler : Handler Response}
    (refused : finish stage (.error .validation))
    (handled : valid = true →
      protocol.Follows (surroundings admitted) finish stage handler) :
    protocol.Follows (surroundings admitted) finish stage
      (validated valid handler) := by
  apply Protocol.follows_throwIf_bind
  · exact fun _ => refused
  · exact fun passed => handled (Bool.eq_true_of_not_eq_false passed)

end Rules

end BudBreeding.Backend
