import BudBreeding.Backend.Outcomes

namespace BudBreeding.Possession

open Data Program Backend

/-! What the pairs in breeding tie up: the buds of their users and the game items. -/

structure Commitment where
  pairId : Int
  userAddress : Address
  maleBudId : Int
  femaleBudId : Int
  gameItemId : Option Int
  deriving DecidableEq, Repr

def commitment (pair : BreedPair) : Option Commitment :=
  if pair.status = .PAIRED then
    some ⟨pair.id, pair.userAddress, pair.maleBudId, pair.femaleBudId,
      pair.gameItemId⟩
  else
    none

def commitments (db : Db) : List Commitment :=
  db.breedPair.rows.filterMap commitment

theorem commitment_of_paired {pair : BreedPair} (paired : pair.status = .PAIRED) :
    commitment pair = some ⟨pair.id, pair.userAddress, pair.maleBudId,
      pair.femaleBudId, pair.gameItemId⟩ :=
  if_pos paired

theorem mem_commitments {db : Db} {pair : BreedPair}
    (listed : pair ∈ db.breedPair.rows) (paired : pair.status = .PAIRED) :
    ⟨pair.id, pair.userAddress, pair.maleBudId, pair.femaleBudId,
      pair.gameItemId⟩ ∈ commitments db :=
  List.mem_filterMap.mpr ⟨pair, listed, commitment_of_paired paired⟩

theorem exists_of_mem_commitments {db : Db} {entry : Commitment}
    (member : entry ∈ commitments db) :
    ∃ pair ∈ db.breedPair.rows, pair.status = .PAIRED ∧
      entry = ⟨pair.id, pair.userAddress, pair.maleBudId, pair.femaleBudId,
        pair.gameItemId⟩ := by
  obtain ⟨pair, listed, shown⟩ := List.mem_filterMap.mp member
  unfold commitment at shown
  split at shown
  · next paired => exact ⟨pair, listed, paired, (Option.some.inj shown).symm⟩
  · cases shown

section Updates

variable {db after : Db}

theorem commitments_congr (same : after.breedPair = db.breedPair) :
    commitments after = commitments db := by
  unfold commitments
  rw [same]

theorem commitments_updateStatus {status : BreedPairStatus}
    (closing : status ≠ .PAIRED) (filter : BreedPair → Bool) :
    (commitments (db.updateBreedPair filter (.status status))).Sublist
      (commitments db) := by
  apply Serial.filterMap_modify_sublist
  intro pair
  exact .inl (if_neg closing)

theorem commitments_updateLevel (filter : BreedPair → Bool) (level : Int) :
    commitments (db.updateBreedPair filter (.currentLevel level)) =
      commitments db := by
  apply Serial.filterMap_modify
  exact fun pair => rfl

theorem commitments_levelStarted {app : App} {pair : BreedPair}
    (started : LevelStarted app db pair after) :
    commitments after = commitments db :=
  (commitments_congr started.breedPair).trans (commitments_updateLevel _ _)

theorem commitments_failPairs (pairs : List BreedPair) :
    (commitments (db.failPairs pairs)).Sublist (commitments db) :=
  commitments_updateStatus (by decide) _

theorem commitments_closePair {status : BreedPairStatus}
    (closing : status ≠ .PAIRED) (pair : BreedPair) :
    (commitments (db.closePair pair status)).Sublist (commitments db) :=
  commitments_updateStatus closing _

theorem commitments_nextSlotOpened {user : Address}
    (next : db.NextSlotOpened user after) : commitments after = commitments db :=
  commitments_congr next.breedPair

theorem commitments_finalized {app : App} {level : BreedLevel}
    {buds : List BreedBud} {maleBudId femaleBudId : Int} {pair : BreedPair}
    {user : Address}
    (next : ((db.evaluateLevel app level buds maleBudId femaleBudId).closePair pair
      .COMPLETED).NextSlotOpened user after) :
    (commitments after).Sublist (commitments db) := by
  rw [commitments_nextSlotOpened next]
  exact commitments_closePair (by decide) pair

def newCommitment (db : Db) (req : Req) (body : CreateBreedPairDto) :
    Commitment where
  pairId := db.breedPair.nextId
  userAddress := req.user
  maleBudId := body.maleBudId
  femaleBudId := body.femaleBudId
  gameItemId := body.gameItemId

theorem commitments_insertPair (req : Req) (body : CreateBreedPairDto)
    (slot : BreedSlot) (rate : Rat) (now : Time) :
    commitments ((db.upgradeSlot body slot).insertPair (pairData req body rate)
      now) = commitments db ++ [newCommitment db req body] := by
  have same := db.breedPair_upgradeSlot body slot
  change ((db.upgradeSlot body slot).breedPair.rows ++ [_]).filterMap commitment = _
  rw [List.filterMap_append, same]
  rfl

end Updates

/-- Handling a request ends commitments, and only `createPair` adds one. -/
theorem commitments_of_outcome {app : App} {admitted : Oracle → Prop}
    {db after : Db} {request : Request} {response : Except Failure Response}
    (outcome : Outcome app admitted db request response after) :
    (commitments after).Sublist (commitments db) ∨
      ∃ req body slot metadatas, request = .createPair req body ∧
        PairGranted admitted db req body slot metadatas ∧
        commitments after = commitments db ++ [newCommitment db req body] := by
  have same {last : Db} (unchanged : last.breedPair = db.breedPair) :
      (commitments last).Sublist (commitments db) := by
    rw [commitments_congr unchanged]
  cases outcome with
  | loggedIn =>
      left
      apply same
      rw [(Db.sameBut_upsertUser _ _ _ _).breedPair (by decide),
        (Db.sameBut_addSlots _ _ _).breedPair (by decide)]
  | slotOpened listed own closed charged =>
      exact .inl (same charged.breedPair)
  | slotConverted listed own outdoor charged =>
      exact .inl (same charged.breedPair)
  | landPurchased charged =>
      left
      apply same
      rw [(Db.sameBut_addSlots _ _ _).breedPair (by decide),
        charged.breedPair]
  | othersPairsFailed selected => exact .inl (commitments_failPairs _)
  | ownersPairsFailed selected => exact .inl (commitments_failPairs _)
  | keySlotsDeleted deletable selected =>
      exact .inl (commitments_updateStatus (by decide) _)
  | pairRejected granted =>
      exact .inl (same (db.breedPair_upgradeSlot _ _))
  | levelClashed granted taken samePair sameLevel =>
      exact .inr ⟨_, _, _, _, rfl, granted, commitments_insertPair _ _ _ _ _⟩
  | pairCreated granted started =>
      refine .inr ⟨_, _, _, _, rfl, granted, ?_⟩
      rw [commitments_levelStarted started]
      exact commitments_insertPair _ _ _ _ _
  | levelCharged granted charged =>
      exact .inl (same charged.breedPair)
  | levelEvaluated granted charged evaluable taken samePair sameLevel =>
      exact .inl (same charged.breedPair)
  | leveledUp granted charged evaluable started =>
      left
      rw [commitments_levelStarted started]
      exact same charged.breedPair
  | pairCanceled listed own answered =>
      exact .inl (commitments_updateStatus (by decide) _)
  | finalizeLost granted =>
      exact .inl (commitments_closePair (by decide) _)
  | finalizeUnsigned granted next =>
      have closed := commitments_finalized next
      exact .inl closed
  | finalizeWon granted next =>
      have closed := commitments_finalized next
      exact .inl closed
  | deposited accepted unhandled found logged credited => exact .inl (same rfl)
  | _ => exact .inl (same rfl)

end BudBreeding.Possession
