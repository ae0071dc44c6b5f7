import BudBreeding.Backend.Rules
import BudBreeding.Data.Persistence

namespace BudBreeding.Concurrency

open Data Backend

/-! What becomes of the rows of the database, however the requests that write to
them are interleaved. -/

/-- A pair keeps its columns but the counter, which never falls, and the status,
which never becomes `PAIRED` again. -/
structure PairLater (before after : BreedPair) : Prop where
  kept : after = { before with
    currentLevel := after.currentLevel, status := after.status }
  climbing : before.currentLevel ≤ after.currentLevel
  paired : after.status = .PAIRED → before.status = .PAIRED

/-- A level keeps its columns but those of its evaluation, which is never taken
back. -/
structure LevelLater (before after : BreedLevel) : Prop where
  kept : after = { before with
    bonusRate := after.bonusRate
    maleBreedBudId := after.maleBreedBudId
    femaleBreedBudId := after.femaleBreedBudId }
  recorded : before.maleBreedBudId ≠ none → after.maleBreedBudId ≠ none

/-- A slot is never closed, turned outdoor or brought back. -/
structure SlotLater (before after : BreedSlot) : Prop where
  kept : after = { before with
    isOpen := after.isOpen
    isUsed := after.isUsed
    type := after.type
    deletedAt := after.deletedAt }
  opened : before.isOpen = true → after.isOpen = true
  indoor : before.type = .INDOOR → after.type = .INDOOR
  deleted : before.deletedAt ≠ none → after.deletedAt ≠ none

/-- A bud keeps its columns but its name and its signature. -/
def Gen1Later (before after : Gen1Bud) : Prop :=
  after = { before with name := after.name, signature := after.signature }

def UserLater (before after : User) : Prop :=
  after.address = before.address

namespace PairLater

theorem refl (pair : BreedPair) : PairLater pair pair :=
  ⟨rfl, le_rfl, id⟩

theorem trans {first second third : BreedPair} (left : PairLater first second)
    (right : PairLater second third) : PairLater first third where
  kept := by rw [right.kept, left.kept]
  climbing := left.climbing.trans right.climbing
  paired := left.paired ∘ right.paired

variable {before after : BreedPair} (later : PairLater before after)

include later

theorem id : after.id = before.id := by rw [later.kept]

theorem userAddress : after.userAddress = before.userAddress := by
  rw [later.kept]

theorem slotId : after.slotId = before.slotId := by rw [later.kept]

end PairLater

namespace LevelLater

theorem refl (level : BreedLevel) : LevelLater level level :=
  ⟨rfl, id⟩

theorem trans {first second third : BreedLevel} (left : LevelLater first second)
    (right : LevelLater second third) : LevelLater first third where
  kept := by rw [right.kept, left.kept]
  recorded := right.recorded ∘ left.recorded

variable {before after : BreedLevel} (later : LevelLater before after)

include later

theorem id : after.id = before.id := by rw [later.kept]

theorem pairId : after.pairId = before.pairId := by rw [later.kept]

theorem level : after.level = before.level := by rw [later.kept]

end LevelLater

namespace SlotLater

theorem refl (slot : BreedSlot) : SlotLater slot slot :=
  ⟨rfl, id, id, id⟩

theorem trans {first second third : BreedSlot} (left : SlotLater first second)
    (right : SlotLater second third) : SlotLater first third where
  kept := by rw [right.kept, left.kept]
  opened := right.opened ∘ left.opened
  indoor := right.indoor ∘ left.indoor
  deleted := right.deleted ∘ left.deleted

variable {before after : BreedSlot} (later : SlotLater before after)

include later

theorem id : after.id = before.id := by rw [later.kept]

theorem userAddress : after.userAddress = before.userAddress := by
  rw [later.kept]

end SlotLater

namespace Gen1Later

theorem refl (bud : Gen1Bud) : Gen1Later bud bud := rfl

theorem trans {first second third : Gen1Bud} (left : Gen1Later first second)
    (right : Gen1Later second third) : Gen1Later first third := by
  rw [Gen1Later, right, left]

variable {before after : Gen1Bud} (later : Gen1Later before after)

include later

theorem id : after.id = before.id := by rw [later]

theorem minterAddress : after.minterAddress = before.minterAddress := by
  rw [later]

theorem createdAt : after.createdAt = before.createdAt := by rw [later]

end Gen1Later

namespace UserLater

theorem refl (user : User) : UserLater user user := rfl

theorem trans {first second third : User} (left : UserLater first second)
    (right : UserLater second third) : UserLater first third :=
  Eq.trans right left

end UserLater

/-- Nothing is ever deleted, and every row changes as its table allows. -/
structure Evolves (before after : Db) : Prop where
  user : Persists UserLater before.user.rows after.user.rows
  breedPair : Persists PairLater before.breedPair.rows after.breedPair.rows
  breedLevel : Persists LevelLater before.breedLevel.rows after.breedLevel.rows
  breedBud : before.breedBud.rows ⊆ after.breedBud.rows
  breedSlot : Persists SlotLater before.breedSlot.rows after.breedSlot.rows
  eventServiceLog : before.eventServiceLog.rows ⊆ after.eventServiceLog.rows
  gen1Bud : Persists Gen1Later before.gen1Bud.rows after.gen1Bud.rows

namespace Evolves

theorem refl (db : Db) : Evolves db db where
  user := .refl UserLater.refl _
  breedPair := .refl PairLater.refl _
  breedLevel := .refl LevelLater.refl _
  breedBud := List.Subset.refl _
  breedSlot := .refl SlotLater.refl _
  eventServiceLog := List.Subset.refl _
  gen1Bud := .refl Gen1Later.refl _

theorem trans {first second third : Db} (left : Evolves first second)
    (right : Evolves second third) : Evolves first third where
  user := left.user.trans UserLater.trans right.user
  breedPair := left.breedPair.trans PairLater.trans right.breedPair
  breedLevel := left.breedLevel.trans LevelLater.trans right.breedLevel
  breedBud := List.Subset.trans left.breedBud right.breedBud
  breedSlot := left.breedSlot.trans SlotLater.trans right.breedSlot
  eventServiceLog :=
    List.Subset.trans left.eventServiceLog right.eventServiceLog
  gen1Bud := left.gen1Bud.trans Gen1Later.trans right.gen1Bud

end Evolves

end BudBreeding.Concurrency
