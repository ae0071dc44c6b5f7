import BudBreeding.Backend.Runs
import BudBreeding.Data.Batches

namespace BudBreeding.Occupancy

open Data Program Backend

/-! The slots of a user come in batches: the free land of a game key, and each
purchased land. -/

inductive Batch where
  | freeLand (userAddress : Address) (gameKeyId : Int)
  | land (userAddress : Address) (landTokenId : Int)
  deriving DecidableEq, Repr

/-- The batch a slot belongs to, unless it has been deleted. -/
def batchOf (slot : BreedSlot) : Option Batch :=
  if slot.deletedAt = none then
    match slot.landTokenId with
    | some landTokenId => some (.land slot.userAddress landTokenId)
    | none => slot.gameKeyId.map (.freeLand slot.userAddress)
  else
    none

theorem batchOf_eq_freeLand {slot : BreedSlot} {userAddress : Address}
    {gameKeyId : Int} :
    batchOf slot = some (.freeLand userAddress gameKeyId) ↔
      LandService.freeLandSlot userAddress gameKeyId slot = true := by
  unfold batchOf LandService.freeLandSlot
  rw [decide_eq_true_iff]
  cases slot.deletedAt with
  | some time => simp
  | none => cases slot.landTokenId <;> simp [and_comm]

theorem batchOf_eq_land {slot : BreedSlot} {userAddress : Address} {landTokenId : Int} :
    batchOf slot = some (.land userAddress landTokenId) ↔
      LandService.landSlot userAddress landTokenId slot = true := by
  unfold batchOf LandService.landSlot
  rw [decide_eq_true_iff]
  cases slot.deletedAt with
  | some time => simp
  | none => cases slot.landTokenId <;> simp

theorem batchOf_flagged {data : BreedSlotUpdate}
    (kept : ∀ slot, batchOf (data.apply slot) = batchOf slot) (filter : BreedSlot → Bool)
    (slot : BreedSlot) :
    batchOf (if filter slot then data.apply slot else slot) = batchOf slot := by
  split
  · exact kept slot
  · rfl

section NewSlots

variable {userAddress : Address} {gameKeyId landTokenId : Option Int} {id : Int}

theorem deed_of_mem_numbered {slot : BreedSlot}
    (member : slot ∈ Serial.numbered BreedSlotCreate.row id
      (LandService.newSlots userAddress gameKeyId landTokenId)) :
    slot.deletedAt = none ∧ slot.userAddress = userAddress ∧
      slot.gameKeyId = gameKeyId ∧ slot.landTokenId = landTokenId := by
  obtain ⟨data, listed, position, rfl⟩ := Serial.of_mem_numbered member
  simp only [LandService.newSlots, List.mem_cons, List.not_mem_nil, or_false] at listed
  rcases listed with rfl | rfl | rfl | rfl | rfl
  all_goals exact ⟨rfl, rfl, rfl, rfl⟩

theorem batchOf_numbered {batch : Batch}
    (named : ∀ slot : BreedSlot, slot.deletedAt = none → slot.userAddress = userAddress →
      slot.gameKeyId = gameKeyId → slot.landTokenId = landTokenId →
      batchOf slot = some batch) (id : Int) :
    ∀ slot ∈ Serial.numbered BreedSlotCreate.row id
      (LandService.newSlots userAddress gameKeyId landTokenId),
      batchOf slot = some batch := by
  intro slot member
  obtain ⟨live, owned, keyed, landed⟩ := deed_of_mem_numbered member
  exact named slot live owned keyed landed

end NewSlots

/-- Whole batches, and no slot of a purchased land that has a game key. -/
structure InBatches (db : Db) : Prop where
  whole : Whole 5 batchOf BreedSlot.isOpen db.breedSlot.rows
  keyless : ∀ slot ∈ db.breedSlot.rows, slot.landTokenId ≠ none → slot.gameKeyId = none

namespace InBatches

variable {db after : Db}

theorem empty : InBatches .empty where
  whole := .nil
  keyless := by
    intro slot member
    cases member

theorem congr (batched : InBatches db) (same : after.breedSlot = db.breedSlot) :
    InBatches after := by
  constructor
  · rw [same]
    exact batched.whole
  · rw [same]
    exact batched.keyless

theorem update {filter : BreedSlot → Bool} {data : BreedSlotUpdate}
    {kept : Batch → Bool} (batched : InBatches db)
    (moved : ∀ slot ∈ db.breedSlot.rows,
      batchOf (if filter slot then data.apply slot else slot) = (batchOf slot).filter kept)
    (still : ∀ slot : BreedSlot, slot.isOpen = true → (data.apply slot).isOpen = true) :
    InBatches (db.updateBreedSlot filter data) where
  whole := by
    apply batched.whole.map moved
    intro slot member opened
    split
    · exact still slot opened
    · exact opened
  keyless := by
    intro slot member landed
    cases Serial.of_mem_modify member with
    | inl rewritten =>
        obtain ⟨old, present, -, rfl⟩ := rewritten
        rw [data.apply_landTokenId] at landed
        rw [data.apply_gameKeyId]
        exact batched.keyless old present landed
    | inr spared => exact batched.keyless slot spared.1 landed

theorem updateFlags {data : BreedSlotUpdate} (batched : InBatches db)
    (kept : ∀ slot, batchOf (data.apply slot) = batchOf slot)
    (still : ∀ slot : BreedSlot, slot.isOpen = true → (data.apply slot).isOpen = true)
    (filter : BreedSlot → Bool) : InBatches (db.updateBreedSlot filter data) := by
  refine @update db filter data (fun _ => true) batched ?_ still
  intro slot _
  rw [batchOf_flagged kept]
  cases batchOf slot <;> rfl

theorem updateUsed (batched : InBatches db) (filter : BreedSlot → Bool) (used : Bool) :
    InBatches (db.updateBreedSlot filter (.isUsed used)) := by
  apply batched.updateFlags
  · intro slot
    rfl
  · intro slot opened
    exact opened

theorem updateType (batched : InBatches db) (filter : BreedSlot → Bool)
    (type : BreedSlotType) : InBatches (db.updateBreedSlot filter (.type type)) := by
  apply batched.updateFlags
  · intro slot
    rfl
  · intro slot opened
    exact opened

theorem openSlots (batched : InBatches db) (filter : BreedSlot → Bool) :
    InBatches (db.updateBreedSlot filter (.isOpen true)) := by
  apply batched.updateFlags
  · intro slot
    rfl
  · intro slot opened
    rfl

theorem addSlots {batch : Batch} {userAddress : Address}
    {gameKeyId landTokenId : Option Int} {existing : BreedSlot → Bool}
    (batched : InBatches db)
    (filtered : ∀ slot, existing slot = true ↔ batchOf slot = some batch)
    (named : ∀ slot : BreedSlot, slot.deletedAt = none → slot.userAddress = userAddress →
      slot.gameKeyId = gameKeyId → slot.landTokenId = landTokenId →
      batchOf slot = some batch)
    (keyless : landTokenId ≠ none → gameKeyId = none) :
    InBatches (db.addSlots existing
      (LandService.newSlots userAddress gameKeyId landTokenId)) := by
  unfold Db.addSlots
  split
  · exact batched
  · next absent =>
    have vacant : batchSize batchOf db.breedSlot.rows batch = 0 := by
      have same : db.breedSlot.rows.countP existing =
          batchSize batchOf db.breedSlot.rows batch := by
        apply List.countP_congr
        intro slot _
        rw [filtered, decide_eq_true_iff]
      rw [← same]
      exact Nat.eq_zero_of_not_pos absent
    constructor
    · rw [Db.rows_createBreedSlots]
      apply batched.whole.append vacant (batchOf_numbered named _)
      · rfl
      · exact ⟨_, List.mem_cons_self, rfl⟩
    · rw [Db.rows_createBreedSlots]
      intro slot member
      cases List.mem_append.mp member with
      | inl old => exact batched.keyless slot old
      | inr new =>
          obtain ⟨-, -, keyed, landed⟩ := deed_of_mem_numbered new
          rw [keyed, landed]
          exact keyless

theorem batchOf_deleted {prevOwner : Address} {gameKeyId : Int} {slots : List BreedSlot}
    (batched : InBatches db)
    (selected : slots.Perm (db.breedSlot.rows.filter
      (AdminController.keySlot prevOwner gameKeyId)))
    (deletedAt : Time) :
    ∀ slot ∈ db.breedSlot.rows,
      batchOf (if decide (slot.id ∈ slots.map BreedSlot.id) then
          BreedSlotUpdate.apply (.deletedAt deletedAt) slot else slot) =
        (batchOf slot).filter fun batch => batch ≠ .freeLand prevOwner gameKeyId := by
  intro slot member
  have named : slot.id ∈ slots.map BreedSlot.id ↔
      slot.userAddress = prevOwner ∧ slot.gameKeyId = some gameKeyId := by
    rw [Table.key_mem_selected selected member, AdminController.keySlot,
      decide_eq_true_iff]
  split
  · next chosen =>
    obtain ⟨owned, keyed⟩ := named.mp (of_decide_eq_true chosen)
    have free : slot.landTokenId = none := by
      by_contra landed
      rw [batched.keyless slot member landed] at keyed
      cases keyed
    have gone : batchOf (BreedSlotUpdate.apply (.deletedAt deletedAt) slot) = none :=
      rfl
    rw [gone, batchOf, free, keyed, owned]
    split
    · rw [Option.map_some, Option.filter_some_neg]
      apply decide_eq_false
      exact not_not.mpr rfl
    · rfl
  · next spared =>
    have other := mt named.mpr fun chosen => spared (decide_eq_true chosen)
    cases its : batchOf slot with
    | none => rfl
    | some batch =>
        symm
        apply Option.filter_eq_some_iff.mpr
        refine ⟨rfl, decide_eq_true ?_⟩
        intro same
        rw [same] at its
        have filtered := of_decide_eq_true (batchOf_eq_freeLand.mp its)
        exact other ⟨filtered.2.1, filtered.1⟩

/-- The free land of a game key goes as a whole. -/
theorem deleteSlots {prevOwner : Address} {gameKeyId : Int} {slots : List BreedSlot}
    {deletedAt : Time} (batched : InBatches db)
    (selected : slots.Perm (db.breedSlot.rows.filter
      (AdminController.keySlot prevOwner gameKeyId))) :
    InBatches (db.deleteSlots slots deletedAt) := by
  have deleted : InBatches (db.updateBreedSlot
      (fun slot => slot.id ∈ slots.map BreedSlot.id) (.deletedAt deletedAt)) := by
    apply batched.update (batched.batchOf_deleted selected deletedAt)
    intro slot opened
    exact opened
  exact deleted.congr rfl

theorem upgradeSlot (batched : InBatches db) (body : CreateBreedPairDto)
    (slot : BreedSlot) : InBatches (db.upgradeSlot body slot) := by
  unfold Db.upgradeSlot
  split
  · exact batched.updateType _ _
  · exact batched

theorem levelStarted {app : App} {pair : BreedPair} (batched : InBatches db)
    (started : LevelStarted app db pair after) : InBatches after :=
  batched.congr started.breedSlot

theorem insertPair (batched : InBatches db) (data : BreedPairCreate) (now : Time) :
    InBatches (db.insertPair data now) := by
  have created : InBatches (db.createBreedPair data now) := batched.congr rfl
  exact created.updateUsed _ true

theorem nextSlotOpened {user : Address} (batched : InBatches db)
    (next : db.NextSlotOpened user after) : InBatches after := by
  cases next with
  | inl kept =>
      rw [kept.2]
      exact batched
  | inr opened =>
      obtain ⟨slot, -, -, rfl⟩ := opened
      exact batched.openSlots _

theorem closePair (batched : InBatches db) (pair : BreedPair)
    (status : BreedPairStatus) : InBatches (db.closePair pair status) := by
  have freed := batched.updateUsed (fun slot => slot.id = pair.slotId) false
  exact freed.congr rfl

theorem failPairs (batched : InBatches db) (pairs : List BreedPair) :
    InBatches (db.failPairs pairs) := by
  have failed : InBatches (db.updateBreedPair
      (fun pair => pair.id ∈ pairs.map BreedPair.id) (.status .FAILED)) :=
    batched.congr rfl
  exact failed.updateUsed _ false

theorem freeLand (batched : InBatches db) (userAddress : Address) (gameKeyId : Int) :
    InBatches (db.addSlots (LandService.freeLandSlot userAddress gameKeyId)
      (LandService.newSlots userAddress (some gameKeyId) none)) := by
  apply batched.addSlots
  · intro slot
    exact batchOf_eq_freeLand.symm
  · intro slot live owned keyed landed
    exact batchOf_eq_freeLand.mpr (decide_eq_true ⟨keyed, owned, landed, live⟩)
  · intro landed
    exact absurd rfl landed

theorem land (batched : InBatches db) (userAddress : Address) (landTokenId : Int) :
    InBatches (db.addSlots (LandService.landSlot userAddress landTokenId)
      (LandService.newSlots userAddress none (some landTokenId))) := by
  apply batched.addSlots
  · intro slot
    exact batchOf_eq_land.symm
  · intro slot live owned keyed landed
    exact batchOf_eq_land.mpr (decide_eq_true ⟨owned, landed, live⟩)
  · intro _
    rfl

theorem outcome {app : App} {admitted : Oracle → Prop} {request : Request}
    {response : Except Failure Response} (batched : InBatches db)
    (outcome : Outcome app admitted db request response after) : InBatches after := by
  cases outcome with
  | @loggedIn body =>
      exact (batched.freeLand body.address body.gameKeyId).congr
        ((Db.sameBut_upsertUser _ _ _ _).breedSlot (by decide))
  | slotOpened listed own closed charged =>
      have paid := batched.congr charged.breedSlot
      exact paid.openSlots _
  | slotConverted listed own outdoor charged =>
      have paid := batched.congr charged.breedSlot
      exact paid.updateType _ _
  | @landPurchased req now paid response charged =>
      have paid := batched.congr charged.breedSlot
      exact paid.land req.user now
  | othersPairsFailed selected => exact batched.failPairs _
  | ownersPairsFailed selected => exact batched.failPairs _
  | keySlotsDeleted deletable selected => exact batched.deleteSlots selected
  | pairRejected granted => exact batched.upgradeSlot _ _
  | levelClashed granted taken samePair sameLevel =>
      exact (batched.upgradeSlot _ _).insertPair _ _
  | pairCreated granted started =>
      exact ((batched.upgradeSlot _ _).insertPair _ _).levelStarted started
  | levelCharged granted charged =>
      exact batched.congr charged.breedSlot
  | levelEvaluated granted charged evaluable taken samePair sameLevel =>
      exact batched.congr charged.breedSlot
  | @leveledUp req body pair paid after level buds granted charged evaluable started =>
      have evaluated : InBatches (paid.evaluateLevel app level buds body.maleBudId
          body.femaleBudId) :=
        batched.congr charged.breedSlot
      exact evaluated.levelStarted started
  | @pairCanceled req body pair response listed own answered =>
      have canceled : InBatches (db.updateBreedPair (fun other => other.id = pair.id)
          (.status .CANCELED)) := batched.congr rfl
      exact canceled.updateUsed _ false
  | @finalizeLost req body pair level buds granted =>
      have evaluated : InBatches (db.evaluateLevel app level buds body.maleBudId
          body.femaleBudId) := batched.congr rfl
      exact evaluated.closePair pair .FAILED
  | @finalizeUnsigned req body pair level buds opened data now error granted next =>
      have evaluated : InBatches (db.evaluateLevel app level buds body.maleBudId
          body.femaleBudId) := batched.congr rfl
      exact ((evaluated.closePair pair .COMPLETED).nextSlotOpened next).congr rfl
  | @finalizeWon req body pair level buds opened data now signature reward granted next =>
      have evaluated : InBatches (db.evaluateLevel app level buds body.maleBudId
          body.femaleBudId) := batched.congr rfl
      exact ((evaluated.closePair pair .COMPLETED).nextSlotOpened next).congr rfl
  | _ => exact batched.congr rfl

end InBatches

section Runs

variable {app : App} {admitted : Oracle → Prop} {final : Db}
  {steps : List (Transition Db Exchange)}

theorem inBatches_of_run (run : Run app admitted .empty steps final) :
    ∀ db ∈ states .empty steps, InBatches db := by
  refine run.forall_states .empty ?_
  intro step _ batched handles
  exact batched.outcome (outcome_of_handles handles)

def FiveOrNone (filter : BreedSlot → Bool) (db : Db) : Prop :=
  db.breedSlot.rows.countP filter = 0 ∨
    db.breedSlot.rows.countP filter = 5 ∧
      ∃ slot ∈ db.breedSlot.rows, filter slot = true ∧ slot.isOpen = true

theorem InBatches.fiveOrNone {db : Db} {batch : Batch} {filter : BreedSlot → Bool}
    (batched : InBatches db)
    (same : ∀ slot, batchOf slot = some batch ↔ filter slot = true) :
    FiveOrNone filter db := by
  have counted : batchSize batchOf db.breedSlot.rows batch =
      db.breedSlot.rows.countP filter := by
    apply List.countP_congr
    intro slot _
    rw [decide_eq_true_iff, same]
  have whole := batched.whole batch
  rw [counted] at whole
  simp only [same] at whole
  exact whole

/-- Free land and purchased land come five slots at a time, and one of them is open. -/
theorem slots_in_batches (run : Run app admitted .empty steps final) :
    ∀ db ∈ states .empty steps,
      (∀ userAddress gameKeyId,
        FiveOrNone (LandService.freeLandSlot userAddress gameKeyId) db) ∧
      ∀ userAddress landTokenId,
        FiveOrNone (LandService.landSlot userAddress landTokenId) db := by
  intro db reached
  have batched := inBatches_of_run run db reached
  constructor
  · intro userAddress gameKeyId
    exact batched.fiveOrNone fun slot => batchOf_eq_freeLand
  · intro userAddress landTokenId
    exact batched.fiveOrNone fun slot => batchOf_eq_land

theorem slots_in_batches_breeding :
    FiveOrNone (LandService.freeLandSlot "alice" 7)
      (serve (liveApp .goerli) breedingScript .empty).2 := by
  have run := run_of_serve (liveApp .goerli) breedingScript .empty
  exact (slots_in_batches run _ run.final_mem_states).1 "alice" 7

end Runs

end BudBreeding.Occupancy
