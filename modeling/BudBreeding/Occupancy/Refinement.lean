import BudBreeding.Occupancy.Board
import BudBreeding.Backend.Runs

namespace BudBreeding.Occupancy

open Data Program Backend

/-! The pair and slot tables as a board: the pairs still breeding are its couples,
the slots that are not deleted its places. -/

def coupleOf (pair : BreedPair) : Option (Couple Address Int Int) :=
  if pair.status = .PAIRED then
    some ⟨pair.userAddress, pair.slotId, pair.maleBudId, pair.femaleBudId⟩
  else
    none

def placeOf (slot : BreedSlot) : Option (Place Address) :=
  if slot.deletedAt = none then
    some ⟨slot.userAddress, slot.isOpen, slot.isUsed⟩
  else
    none

def board (db : Db) : Board Int Address Int Int where
  couples := fun id => (db.breedPair.find id).bind coupleOf
  places := fun key => (db.breedSlot.find key).bind placeOf

variable {db after : Db}

theorem board_couples {id : Int} {couple : Couple Address Int Int} :
    (board db).couples id = some couple ↔
      ∃ pair ∈ db.breedPair.rows, pair.id = id ∧ pair.status = .PAIRED ∧
        couple = ⟨pair.userAddress, pair.slotId, pair.maleBudId,
          pair.femaleBudId⟩ := by
  simp only [board, Option.bind_eq_some_iff, Table.find_eq_some, coupleOf,
    Option.ite_none_right_eq_some, Option.some.injEq]
  constructor
  · intro given
    obtain ⟨pair, ⟨member, same⟩, paired, rfl⟩ := given
    exact ⟨pair, member, same, paired, rfl⟩
  · intro given
    obtain ⟨pair, member, same, paired, rfl⟩ := given
    exact ⟨pair, ⟨member, same⟩, paired, rfl⟩

theorem board_places {key : Int} {place : Place Address} :
    (board db).places key = some place ↔
      ∃ slot ∈ db.breedSlot.rows, slot.id = key ∧ slot.deletedAt = none ∧
        place = ⟨slot.userAddress, slot.isOpen, slot.isUsed⟩ := by
  simp only [board, Option.bind_eq_some_iff, Table.find_eq_some, placeOf,
    Option.ite_none_right_eq_some, Option.some.injEq]
  constructor
  · intro given
    obtain ⟨slot, ⟨member, same⟩, live, rfl⟩ := given
    exact ⟨slot, member, same, live, rfl⟩
  · intro given
    obtain ⟨slot, member, same, live, rfl⟩ := given
    exact ⟨slot, ⟨member, same⟩, live, rfl⟩

/-! What each write does to the board. -/

theorem board_congr (pairs : after.breedPair = db.breedPair)
    (slots : after.breedSlot = db.breedSlot) : board after = board db := by
  simp only [board, pairs, slots]

theorem board_of_user (same : Db.SameBut (some .user) db after) :
    board after = board db :=
  board_congr (same.breedPair (by decide)) (same.breedSlot (by decide))

theorem board_currentLevel (filter : BreedPair → Bool) (level : Int) :
    board (db.updateBreedPair filter (.currentLevel level)) = board db := by
  apply Board.ext
  · intro id
    simp only [board, Db.updateBreedPair, Serial.find_modify]
    cases db.breedPair.find id with
    | none => rfl
    | some pair =>
        simp only [Option.map_some, Option.bind_some]
        split <;> rfl
  · exact fun key => rfl

theorem board_slotType (filter : BreedSlot → Bool) (type : BreedSlotType) :
    board (db.updateBreedSlot filter (.type type)) = board db := by
  apply Board.ext
  · exact fun id => rfl
  · intro key
    simp only [board, Db.updateBreedSlot, Serial.find_modify]
    cases db.breedSlot.find key with
    | none => rfl
    | some slot =>
        simp only [Option.map_some, Option.bind_some]
        split <;> rfl

theorem board_openSlotById (slotId : Int) :
    board (db.openSlotById slotId) = (board db).unlock slotId := by
  apply Board.ext
  · exact fun id => rfl
  · intro key
    simp only [board, Db.openSlotById, Db.updateBreedSlot, Serial.find_modify,
      Board.unlock]
    by_cases same : key = slotId
    · subst key
      rw [Function.update_self]
      cases found : db.breedSlot.find slotId with
      | none => rfl
      | some slot =>
          have identified := (Table.find_eq_some.mp found).2
          simp only [Option.map_some, Option.bind_some, identified,
            decide_true, if_true, BreedSlotUpdate.apply, placeOf]
          split <;> rfl
    · rw [Function.update_of_ne same]
      cases found : db.breedSlot.find key with
      | none => rfl
      | some slot =>
          have identified := (Table.find_eq_some.mp found).2
          simp [identified, same]

theorem board_moveOut (db : Db) (leaving freed : Int → Bool)
    {status : BreedPairStatus} (ended : status ≠ .PAIRED) :
    board ((db.updateBreedPair (fun pair => leaving pair.id)
      (.status status)).updateBreedSlot (fun slot => freed slot.id)
        (.isUsed false)) = (board db).moveOut leaving freed := by
  apply Board.ext
  · intro id
    simp only [board, Db.updateBreedPair, Db.updateBreedSlot,
      Serial.find_modify, Board.moveOut]
    cases found : db.breedPair.find id with
    | none => simp
    | some pair =>
        have identified := (Table.find_eq_some.mp found).2
        simp only [Option.map_some, Option.bind_some, identified]
        split
        · simp [BreedPairUpdate.apply, coupleOf, ended]
        · rfl
  · intro key
    simp only [board, Db.updateBreedPair, Db.updateBreedSlot,
      Serial.find_modify, Board.moveOut]
    cases found : db.breedSlot.find key with
    | none => rfl
    | some slot =>
        have identified := (Table.find_eq_some.mp found).2
        simp only [Option.map_some, Option.bind_some, identified]
        cases freed key with
        | true =>
            simp only [if_true, BreedSlotUpdate.apply, placeOf]
            split <;> rfl
        | false => simp only [Bool.false_eq_true, if_false, Option.map_id']

theorem board_demolish (lost : Int → Bool) (deletedAt : Time) :
    board ((db.updateBreedSlot (fun slot => lost slot.id)
      (.deletedAt deletedAt)).updateBreedPair (fun pair => lost pair.slotId)
        (.status .FAILED)) = (board db).demolish lost := by
  apply Board.ext
  · intro id
    simp only [board, Db.updateBreedPair, Db.updateBreedSlot,
      Serial.find_modify, Board.demolish]
    cases found : db.breedPair.find id with
    | none => rfl
    | some pair =>
        simp only [Option.map_some, Option.bind_some]
        cases gone : lost pair.slotId with
        | true =>
            simp only [if_true, BreedPairUpdate.apply, coupleOf]
            by_cases paired : pair.status = .PAIRED <;>
              simp [paired, gone, Option.filter]
        | false =>
            simp only [coupleOf]
            by_cases paired : pair.status = .PAIRED <;>
              simp [paired, gone, Option.filter]
  · intro key
    simp only [board, Db.updateBreedPair, Db.updateBreedSlot,
      Serial.find_modify, Board.demolish]
    cases found : db.breedSlot.find key with
    | none => simp
    | some slot =>
        have identified := (Table.find_eq_some.mp found).2
        simp only [Option.map_some, Option.bind_some, identified]
        cases lost key with
        | true => simp [BreedSlotUpdate.apply, placeOf]
        | false => simp

theorem board_createBreedSlot (data : BreedSlotCreate) :
    board (db.createBreedSlots [data]) =
      (board db).settle db.breedSlot.nextId
        ⟨data.userAddress, data.isOpen, false⟩ := by
  apply Board.ext
  · exact fun id => rfl
  · intro key
    simp only [board, Db.createBreedSlots, Serial.createMany,
      Serial.find_create, Board.settle]
    by_cases same : db.breedSlot.nextId = key
    · subst same
      rw [if_pos rfl, Function.update_self]
      rfl
    · rw [if_neg same, Function.update_of_ne (Ne.symm same)]

theorem moves_createBreedSlots {fit : Int → Int → Prop}
    (slots : List BreedSlotCreate) :
    Board.Moves fit (board db) (board (db.createBreedSlots slots)) := by
  induction slots generalizing db with
  | nil => exact .refl
  | cons data rest induction =>
      refine .head ?_ (@induction (db.createBreedSlots [data]))
      rw [board_createBreedSlot]
      exact .settle (by simp [board, Serial.find_nextId]) rfl

theorem board_insertPair {data : BreedPairCreate} {now : Time}
    (paired : data.status = .PAIRED) :
    board (db.insertPair data now) =
      (board db).moveIn db.breedPair.nextId
        ⟨data.userAddress, data.slotId, data.maleBudId, data.femaleBudId⟩ := by
  apply Board.ext
  · intro id
    simp only [board, Db.insertPair, Db.createBreedPair, Db.updateBreedSlot,
      Serial.find_create, Board.moveIn]
    by_cases same : db.breedPair.nextId = id
    · subst same
      rw [if_pos rfl, Function.update_self]
      simp [coupleOf, BreedPairCreate.row, paired]
    · rw [if_neg same, Function.update_of_ne (Ne.symm same)]
  · intro key
    simp only [board, Db.insertPair, Db.createBreedPair, Db.updateBreedSlot,
      Serial.find_modify, Board.moveIn]
    by_cases same : key = data.slotId
    · subst key
      rw [Function.update_self]
      cases found : db.breedSlot.find data.slotId with
      | none => rfl
      | some slot =>
          have identified := (Table.find_eq_some.mp found).2
          simp only [Option.map_some, Option.bind_some, identified,
            decide_true, if_true, BreedSlotUpdate.apply, placeOf]
          split <;> rfl
    · rw [Function.update_of_ne same]
      cases found : db.breedSlot.find key with
      | none => rfl
      | some slot =>
          have identified := (Table.find_eq_some.mp found).2
          simp [identified, same]

theorem exact_of_paired {pairs : List BreedPair}
    (active : ∀ pair ∈ pairs,
      pair ∈ db.breedPair.rows ∧ pair.status = .PAIRED) (key : Int) :
    decide (key ∈ pairs.map BreedPair.slotId) = true ↔
      ∃ id couple, decide (id ∈ pairs.map BreedPair.id) = true ∧
        (board db).couples id = some couple ∧ couple.place = key := by
  simp only [decide_eq_true_eq, List.mem_map]
  constructor
  · intro given
    obtain ⟨pair, chosen, rfl⟩ := given
    obtain ⟨member, paired⟩ := active pair chosen
    exact ⟨pair.id, _, ⟨pair, chosen, rfl⟩,
      board_couples.mpr ⟨pair, member, rfl, paired, rfl⟩, rfl⟩
  · intro given
    obtain ⟨id, couple, ⟨pair, chosen, rfl⟩, housed, rfl⟩ := given
    obtain ⟨other, member, same, -, rfl⟩ := board_couples.mp housed
    obtain rfl := db.breedPair.eq_of_key_eq member (active pair chosen).1 same
    exact ⟨other, chosen, rfl⟩

section Moves

variable {fit : Int → Int → Prop}

theorem moves_of_eq (same : board after = board db) :
    Board.Moves fit (board db) (board after) := by
  rw [same]

theorem moves_failPairs {pairs : List BreedPair} {filter : BreedPair → Bool}
    (selected : pairs.Perm (db.breedPair.rows.filter filter))
    (paired : ∀ pair, filter pair = true → pair.status = .PAIRED) :
    Board.Moves fit (board db) (board (db.failPairs pairs)) := by
  refine .single ?_
  have left : board (db.failPairs pairs) = _ := board_moveOut db
    (fun id => decide (id ∈ pairs.map BreedPair.id))
    (fun key => decide (key ∈ pairs.map BreedPair.slotId)) (by decide)
  rw [left]
  refine .moveOut (exact_of_paired fun pair chosen => ?_)
  obtain ⟨member, passed⟩ := List.mem_filter.mp (selected.mem_iff.mp chosen)
  exact ⟨member, paired pair passed⟩

theorem step_closePair {pair : BreedPair} (member : pair ∈ db.breedPair.rows)
    (paired : pair.status = .PAIRED) {status : BreedPairStatus}
    (ended : status ≠ .PAIRED) :
    Board.Step fit (board db) (board (db.closePair pair status)) := by
  have left : board (db.closePair pair status) = _ := board_moveOut db
    (fun id => decide (id = pair.id)) (fun key => decide (key = pair.slotId))
    ended
  rw [left]
  refine .moveOut fun key => ?_
  have active : ∀ other ∈ [pair],
      other ∈ db.breedPair.rows ∧ other.status = .PAIRED := by
    simpa using ⟨member, paired⟩
  simpa using exact_of_paired active key

theorem moves_addSlots {existing : BreedSlot → Bool}
    {slots : List BreedSlotCreate} :
    Board.Moves fit (board db) (board (db.addSlots existing slots)) := by
  unfold Db.addSlots
  split
  · exact .refl
  · exact moves_createBreedSlots slots

theorem board_upgradeSlot (body : CreateBreedPairDto) (slot : BreedSlot) :
    board (db.upgradeSlot body slot) = board db := by
  unfold Db.upgradeSlot
  split
  · exact board_slotType _ _
  · rfl

theorem board_levelStarted {app : App} {pair : BreedPair}
    (started : LevelStarted app db pair after) : board after = board db :=
  (board_congr started.breedPair started.breedSlot).trans (board_currentLevel _ _)

theorem moves_nextSlotOpened {user : Address}
    (next : db.NextSlotOpened user after) :
    Board.Moves fit (board db) (board after) := by
  rcases next with ⟨-, rfl⟩ | ⟨slot, -, -, rfl⟩
  · exact .refl
  · rw [board_openSlotById]
    exact .single (.unlock _)

variable {app : App} {admitted : Oracle → Prop}

/-- Metadata that pass the check make the two buds fit. -/
def Matches (admitted : Oracle → Prop) (fit : Int → Int → Prop) : Prop :=
  ∀ maleBudId femaleBudId metadatas,
    Metadatas admitted maleBudId femaleBudId metadatas →
      fit maleBudId femaleBudId

theorem admits_of_granted (matching : Matches admitted fit) {req : Req}
    {body : CreateBreedPairDto} {slot : BreedSlot}
    {metadatas : List BudWithId}
    (granted : PairGranted admitted db req body slot metadatas) :
    (board db).Admits fit db.breedPair.nextId
      ⟨req.user, body.slotId, body.maleBudId, body.femaleBudId⟩ := by
  obtain ⟨own, isOpen, vacant, same, live⟩ := decide_eq_true_iff.mp granted.free
  refine ⟨by simp [board, Serial.find_nextId], ?_,
    matching _ _ _ granted.metadata, ?_⟩
  · exact ⟨_, board_places.mpr ⟨slot, granted.listed, same, live, rfl⟩, own,
      isOpen, vacant⟩
  · intro other rival active
    obtain ⟨pair, member, -, paired, rfl⟩ := board_couples.mp active
    have apart := of_decide_eq_false (granted.unpaired pair member)
    exact ⟨fun male => apart ⟨paired, .inr male⟩,
      fun female => apart ⟨paired, .inl female⟩⟩

theorem step_insertPair (matching : Matches admitted fit) {req : Req}
    {body : CreateBreedPairDto} {slot : BreedSlot}
    {metadatas : List BudWithId}
    (granted : PairGranted admitted db req body slot metadatas)
    (rate : Rat) (now : Time) :
    Board.Step fit (board db)
      (board ((db.upgradeSlot body slot).insertPair (pairData req body rate)
        now)) := by
  have untouched := db.breedPair_upgradeSlot body slot
  have moved : board ((db.upgradeSlot body slot).insertPair
      (pairData req body rate) now) = _ := board_insertPair rfl
  rw [moved, board_upgradeSlot, untouched]
  exact .moveIn (admits_of_granted matching granted)

theorem moves_finalized {req : Req} {body : BreedFinalizeDto}
    {pair : BreedPair} {level : BreedLevel} {buds : List BreedBud}
    (granted : FinalizeGranted app admitted db req body pair level buds)
    (next : ((db.evaluateLevel app level buds body.maleBudId
      body.femaleBudId).closePair pair .COMPLETED).NextSlotOpened req.user
        after) : Board.Moves fit (board db) (board after) := by
  have listed : pair ∈ (db.evaluateLevel app level buds body.maleBudId
      body.femaleBudId).breedPair.rows := granted.listed
  have left : Board.Step fit _ (board (Db.closePair _ pair .COMPLETED)) :=
    step_closePair listed (paired_of_ownPair granted.own) (by decide)
  exact .head left (moves_nextSlotOpened next)

theorem moves_of_outcome (matching : Matches admitted fit) {request : Request}
    {response : Except Failure Response}
    (outcome : Outcome app admitted db request response after) :
    Board.Moves fit (board db) (board after) := by
  cases outcome with
  | loggedIn =>
      rw [board_of_user (Db.sameBut_upsertUser _ _ _ _)]
      exact moves_addSlots
  | slotOpened listed own closed charged =>
      rw [board_openSlotById, board_of_user charged.sameBut]
      exact .single (.unlock _)
  | slotConverted listed own outdoor charged =>
      rw [board_slotType, board_of_user charged.sameBut]
  | landPurchased charged =>
      rw [← board_of_user charged.sameBut]
      exact moves_addSlots
  | othersPairsFailed selected =>
      exact moves_failPairs selected fun _ passed =>
        (decide_eq_true_iff.mp passed).2.1
  | ownersPairsFailed selected =>
      exact moves_failPairs selected fun _ passed =>
        (decide_eq_true_iff.mp passed).2.1
  | @keySlotsDeleted body slots deletedAt text deletable selected =>
      have lost : board (db.deleteSlots slots deletedAt) = _ := board_demolish
        (fun key => decide (key ∈ slots.map BreedSlot.id)) deletedAt
      rw [lost]
      exact .single (.demolish _)
  | pairRejected granted => rw [board_upgradeSlot]
  | levelClashed granted taken samePair sameLevel =>
      exact .single (step_insertPair matching granted _ _)
  | pairCreated granted started =>
      rw [board_levelStarted started]
      exact .single (step_insertPair matching granted _ _)
  | levelCharged granted charged => rw [board_of_user charged.sameBut]
  | levelEvaluated granted charged evaluable taken samePair sameLevel =>
      have same := board_of_user charged.sameBut
      exact moves_of_eq same
  | leveledUp granted charged evaluable started =>
      have same := board_of_user charged.sameBut
      rw [board_levelStarted started]
      exact moves_of_eq same
  | pairCanceled listed own answered =>
      exact .single (step_closePair listed (paired_of_ownPair own) (by decide))
  | finalizeLost granted =>
      exact .single (step_closePair granted.listed
        (paired_of_ownPair granted.own) (by decide))
  | finalizeUnsigned granted next =>
      have won : Board.Moves fit (board db) _ := moves_finalized granted next
      exact won
  | finalizeWon granted next =>
      have won : Board.Moves fit (board db) _ := moves_finalized granted next
      exact won
  | _ => exact .refl

end Moves

end BudBreeding.Occupancy
