import Mathlib.Tactic.Linarith
import BudBreeding.Backend.Dtos
import BudBreeding.Backend.Runs

namespace BudBreeding.Lifecycle

open Data Program Backend

/-! What the API shows of a level before and after its breed time. -/

section Levels

variable {app : App} {now : Time} {gameItemId : Option Int} {level : LoadedLevel}

end Levels

section Views

variable {app : App} {oracle : Oracle} {db other : Db} {pair : BreedPair}

def loadRows (oracle : Oracle) (levels : List BreedLevel) (buds : List BreedBud)
    (pair : BreedPair) : List LoadedLevel :=
  ((oracle.arrange (levels.filter fun level => level.pairId = pair.id)).insertionSort
    fun first second => first.level ≤ second.level).map fun level =>
      ⟨level, some (oracle.arrange (buds.filter fun bud => bud.levelId = level.id))⟩

end Views

end BudBreeding.Lifecycle
