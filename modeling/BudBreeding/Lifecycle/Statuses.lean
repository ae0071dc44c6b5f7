import BudBreeding.Backend.Runs

namespace BudBreeding.Lifecycle

open Data Program Backend

/-! Which requests can change the status of a pair that is no longer breeding. -/

/-- Pairs that are completed, canceled or failed before stay so. -/
def StatusesKept (before after : Db) : Prop :=
  ∀ pair ∈ before.breedPair.rows, pair.status ≠ .PAIRED →
    ∃ later ∈ after.breedPair.rows,
      later.id = pair.id ∧ later.status = pair.status

instance (before after : Db) : Decidable (StatusesKept before after) :=
  inferInstanceAs (Decidable (∀ pair ∈ before.breedPair.rows,
    pair.status ≠ .PAIRED → ∃ later ∈ after.breedPair.rows,
      later.id = pair.id ∧ later.status = pair.status))

namespace StatusesKept

theorem refl (db : Db) : StatusesKept db db :=
  fun pair member _ => ⟨pair, member, rfl, rfl⟩

theorem trans {first second third : Db} (left : StatusesKept first second)
    (right : StatusesKept second third) : StatusesKept first third := by
  intro pair member closed
  obtain ⟨middle, present, same, status⟩ := left pair member closed
  obtain ⟨last, found, sameAgain, statusAgain⟩ :=
    right middle present (by rw [status]; exact closed)
  exact ⟨last, found, sameAgain.trans same, statusAgain.trans status⟩

theorem of_breedPair {before after : Db}
    (same : after.breedPair = before.breedPair) :
    StatusesKept before after := by
  intro pair member _
  exact ⟨pair, by rw [same]; exact member, rfl, rfl⟩

theorem createBreedPair (db : Db) (data : BreedPairCreate) (now : Time) :
    StatusesKept db (db.createBreedPair data now) :=
  fun pair member _ => ⟨pair, List.mem_append_left _ member, rfl, rfl⟩

theorem updateBreedPair {db : Db} {filter : BreedPair → Bool}
    {data : BreedPairUpdate}
    (unaffected : ∀ pair ∈ db.breedPair.rows, pair.status ≠ .PAIRED →
      filter pair = true → (data.apply pair).status = pair.status) :
    StatusesKept db (db.updateBreedPair filter data) := by
  intro pair member closed
  refine ⟨_, Serial.mem_modify.mpr ⟨pair, member, rfl⟩, ?_, ?_⟩
  · split
    · exact data.apply_id pair
    · rfl
  · split
    · next selected => exact unaffected pair member closed selected
    · rfl

theorem updatePaired {db : Db} {pair : BreedPair}
    (member : pair ∈ db.breedPair.rows) (paired : pair.status = .PAIRED)
    (data : BreedPairUpdate) :
    StatusesKept db
      (db.updateBreedPair (fun other => other.id = pair.id) data) := by
  refine updateBreedPair fun other present closed selected => ?_
  have same := db.breedPair.eq_of_key_eq present member
    (decide_eq_true_iff.mp selected)
  exact absurd (same ▸ paired) closed

theorem failPairs {db : Db} {pairs : List BreedPair} {filter : BreedPair → Bool}
    (selected : pairs.Perm (db.breedPair.rows.filter filter))
    (paired : ∀ pair, filter pair = true → pair.status = .PAIRED) :
    StatusesKept db (db.failPairs pairs) := by
  refine updateBreedPair fun other present closed listed => ?_
  have passed := (Table.key_mem_selected selected present).mp (of_decide_eq_true listed)
  exact absurd (paired other passed) closed

theorem levelStarted {app : App} {db after : Db} {pair : BreedPair}
    (started : LevelStarted app db pair after) : StatusesKept db after :=
  (updateBreedPair fun _ _ _ _ => rfl).trans (.of_breedPair started.breedPair)

theorem pairCreated {app : App} {db after : Db} {body : CreateBreedPairDto}
    {slot : BreedSlot} {data : BreedPairCreate} {now : Time} {pair : BreedPair}
    (started : LevelStarted app ((db.upgradeSlot body slot).insertPair data now)
      pair after) : StatusesKept db after := by
  have upgraded : StatusesKept db (db.upgradeSlot body slot) :=
    .of_breedPair (db.breedPair_upgradeSlot body slot)
  have inserted : StatusesKept (db.upgradeSlot body slot)
      ((db.upgradeSlot body slot).insertPair data now) :=
    createBreedPair _ data now
  exact (upgraded.trans inserted).trans (levelStarted started)

end StatusesKept

/-- An `invalidSlotsForGameKey` that passes its checks although a completed or
canceled pair was bred on one of the slots of the key. -/
def OverwritesStatus (app : App) (admitted : Oracle → Prop) (db : Db) :
    Request → Prop
  | .invalidSlotsForGameKey body =>
      SlotsDeletable app admitted body ∧
        ∃ pair ∈ db.breedPair.rows,
          (pair.status = .COMPLETED ∨ pair.status = .CANCELED) ∧
          ∃ slot ∈ db.breedSlot.rows,
            AdminController.keySlot body.prevOwner body.gameKeyId slot = true ∧
              slot.id = pair.slotId
  | _ => False

theorem deleteSlots_statusesKept {app : App} {admitted : Oracle → Prop}
    {db : Db} {body : InvalidateSlotsDto} {slots : List BreedSlot}
    (selected : slots.Perm (db.breedSlot.rows.filter
      (AdminController.keySlot body.prevOwner body.gameKeyId)))
    (deletable : SlotsDeletable app admitted body)
    (careful : ¬ OverwritesStatus app admitted db
      (.invalidSlotsForGameKey body)) (deletedAt : Time) :
    StatusesKept db (db.deleteSlots slots deletedAt) := by
  refine StatusesKept.updateBreedPair fun pair present closed listed => ?_
  obtain ⟨slot, chosen, same⟩ := List.mem_map.mp (decide_eq_true_iff.mp listed)
  obtain ⟨member, keyed⟩ := List.mem_filter.mp (selected.mem_iff.mp chosen)
  cases status : pair.status with
  | PAIRED => exact absurd status closed
  | FAILED => rfl
  | COMPLETED =>
      exact absurd ⟨deletable, pair, present, .inl status, slot, member, keyed,
        same⟩ careful
  | CANCELED =>
      exact absurd ⟨deletable, pair, present, .inr status, slot, member, keyed,
        same⟩ careful

theorem statusesKept_of_outcome {app : App} {admitted : Oracle → Prop}
    {db after : Db} {request : Request} {response : Except Failure Response}
    (outcome : Outcome app admitted db request response after)
    (careful : ¬ OverwritesStatus app admitted db request) :
    StatusesKept db after := by
  cases outcome with
  | othersPairsFailed selected =>
      exact .failPairs selected fun _ passed =>
        (decide_eq_true_iff.mp passed).2.1
  | ownersPairsFailed selected =>
      exact .failPairs selected fun _ passed =>
        (decide_eq_true_iff.mp passed).2.1
  | keySlotsDeleted deletable selected =>
      exact deleteSlots_statusesKept selected deletable careful _
  | @pairRejected _ body slot =>
      exact .of_breedPair
        (db.breedPair_upgradeSlot body slot)
  | @levelClashed req body slot _ rate now =>
      have upgraded : StatusesKept db (db.upgradeSlot body slot) :=
        .of_breedPair (db.breedPair_upgradeSlot body slot)
      exact upgraded.trans (.createBreedPair _ (pairData req body rate) now)
  | pairCreated granted started => exact .pairCreated started
  | leveledUp granted charged evaluable started =>
      refine .trans ?_ (.levelStarted started)
      exact .of_breedPair charged.breedPair
  | pairCanceled listed own answered =>
      exact .updatePaired listed (paired_of_ownPair own) _
  | finalizeLost granted =>
      exact .updatePaired granted.listed (paired_of_ownPair granted.own) _
  | finalizeUnsigned granted next =>
      have closed := StatusesKept.updatePaired granted.listed
        (paired_of_ownPair granted.own) (.status .COMPLETED)
      exact closed.trans (.of_breedPair next.breedPair)
  | finalizeWon granted next =>
      have closed := StatusesKept.updatePaired granted.listed
        (paired_of_ownPair granted.own) (.status .COMPLETED)
      exact closed.trans (.of_breedPair next.breedPair)
  | loggedIn =>
      refine .trans (.of_breedPair ?_) (.of_breedPair
        ((Db.sameBut_upsertUser _ _ _ _).breedPair (by decide)))
      exact (Db.sameBut_addSlots _ _ _).breedPair (by decide)
  | slotOpened listed own closed charged =>
      exact .of_breedPair charged.breedPair
  | slotConverted listed own outdoor charged =>
      exact .of_breedPair charged.breedPair
  | landPurchased charged =>
      refine .trans (.of_breedPair ?_) (.of_breedPair
        ((Db.sameBut_addSlots _ _ _).breedPair (by decide)))
      exact charged.breedPair
  | levelCharged granted charged =>
      exact .of_breedPair charged.breedPair
  | levelEvaluated granted charged evaluable taken samePair sameLevel =>
      exact .of_breedPair charged.breedPair
  | _ => exact .of_breedPair rfl

private theorem not_statusesKept_deleteSlots {db : Db} {pair : BreedPair}
    {slots : List BreedSlot} (present : pair ∈ db.breedPair.rows)
    (closed : pair.status = .COMPLETED ∨ pair.status = .CANCELED)
    (listed : pair.slotId ∈ slots.map BreedSlot.id) (deletedAt : Time) :
    ¬ StatusesKept db (db.deleteSlots slots deletedAt) := by
  intro kept
  obtain ⟨later, found, same, status⟩ := kept pair present (by
    rcases closed with completed | canceled
    · simp [completed]
    · simp [canceled])
  rcases Serial.of_mem_modify found with ⟨old, -, -, rfl⟩ | ⟨member, passed⟩
  · rcases closed with completed | canceled
    · exact nomatch status.trans completed
    · exact nomatch status.trans canceled
  · obtain rfl := db.breedPair.eq_of_key_eq member present same
    exact absurd listed (of_decide_eq_false passed)

/-- The condition is exact: a request that meets it can change the status. -/
theorem exists_overwritten {app : App} {admitted : Oracle → Prop} {db : Db}
    {body : InvalidateSlotsDto}
    (overwrites : OverwritesStatus app admitted db
      (.invalidSlotsForGameKey body)) :
    ∃ response after,
      Handles app admitted db ⟨.invalidSlotsForGameKey body, response⟩ after ∧
        ¬ StatusesKept db after := by
  obtain ⟨deletable, pair, present, closed, slot, member, keyed, same⟩ :=
    overwrites
  obtain ⟨oracle, allowed, confirmed⟩ := deletable.confirmed
  refine ⟨_, _, handles_run app allowed _ db, ?_⟩
  have selecting : (surroundings (Eq oracle)).Ensures
      (do
        let slots ← Prisma.breedSlotFindMany
          (AdminController.keySlot body.prevOwner body.gameKeyId)
        if slots.length = 0 then
          return none
        else do
          let deletedAt ← dateNow
          Prisma.breedSlotUpdateMany
            (fun slot => slot.id ∈ slots.map BreedSlot.id)
            (.deletedAt deletedAt)
          Prisma.breedPairUpdateMany
            (fun pair => pair.slotId ∈ slots.map BreedSlot.id)
            (.status .FAILED)
          return some (invalidated slots.length "slot"))
      (fun _ after => ¬ StatusesKept db after) db := by
    refine (returns_breedSlotFindMany _).ensures_bind fun slots selected => ?_
    have chosen : slot ∈ slots :=
      selected.mem_iff.mpr (List.mem_filter.mpr ⟨member, keyed⟩)
    rw [if_neg (List.length_pos_of_mem chosen).ne']
    refine (returns_ask .dateNow rfl).ensures_bind fun deletedAt _ => ?_
    refine ensures_breedSlotUpdateMany (ensures_breedPairUpdateMany ?_)
    refine World.ensures_pure.mpr (not_statusesKept_deleteSlots present closed
      (List.mem_map.mpr ⟨slot, chosen, same⟩) deletedAt)
  have every : (surroundings (Eq oracle)).Ensures
      (handle app (.invalidSlotsForGameKey body))
      (fun _ after => ¬ StatusesKept db after) db := by
    simp only [handle, validated, World.ensures_bind, World.ensures_throwIf,
      World.ensures_map, AdminController.invalidSlotsForGameKey]
    refine ⟨fun refused => absurd refused (by simp [deletable.accepted]),
      fun _ => ?_⟩
    rw [if_neg deletable.unstaked, if_neg deletable.unstaking]
    rcases confirmed with forced | owned
    · rw [if_neg (not_not.mpr forced)]
      exact selecting
    · split
      · rw [World.ensures_bind, BudService.isGameKeyOwner]
        refine (returns_ask (.ownerOfGameKey _) rfl).ensures_bind ?_
        intro owner given
        obtain ⟨same, rfl, rfl⟩ := given
        simp only [exec, owned, ne_eq, not_true_eq_false, World.ensures_throwIf,
          false_imp_iff, true_and]
        exact fun _ => selecting
      · exact selecting
  exact ensured_of_run every

theorem statuses_final {app : App} {admitted : Oracle → Prop}
    {start final : Db} {steps : List (Transition Db Exchange)}
    (run : Run app admitted start steps final)
    (careful : ∀ step ∈ steps,
      ¬ OverwritesStatus app admitted step.source step.label.request) :
    (states start steps).Pairwise StatusesKept := by
  refine run.pairwise_states StatusesKept.refl
    (fun _ _ _ => StatusesKept.trans) fun step member => ?_
  obtain ⟨-, -, handles⟩ := run.source_mem_states member
  exact statusesKept_of_outcome (outcome_of_handles handles)
    (careful step member)

/-- A completed breeding, whose slot then changes hands with its game key. -/
def keyTransferScript : List (Request × Oracle) :=
  breedingScript ++
    [(.finalizeBreeding alice ⟨1, 17, 18⟩, .agreeable "alice" (period 5)),
      (.invalidSlotsForGameKey ⟨"alice", "bob", 7, 200⟩,
        .agreeable "bob" (period 5))]

theorem completed_pair_fails :
    Run (liveApp .goerli) (fun _ => True) .empty
        (serve (liveApp .goerli) keyTransferScript .empty).1
        (serve (liveApp .goerli) keyTransferScript .empty).2 ∧
      ¬ (states .empty
        (serve (liveApp .goerli) keyTransferScript .empty).1).Pairwise
          StatusesKept := by
  refine ⟨run_of_serve _ _ _, ?_⟩
  rw [keyTransferScript, serve_breedingScript]
  decide +kernel

/-- A breeding on a land is canceled and one on a slot of the key begun; then the key
changes hands, and the slot of the land is bred on again. -/
def landScript : List (Request × Oracle) :=
  [(.login (loginFrom "alice"), .agreeable "alice" (period 0)),
    (.addBreedingPoint ⟨⟨"alice", "deposit", 1, "goerli"⟩, 100000⟩,
      .agreeable "alice" (period 0)),
    (.purchaseLand alice, .agreeable "alice" (period 0)),
    (.createPair alice ⟨1, 2, 6, none, none⟩, .agreeable "alice" (period 0)),
    (.cancelBreeding alice ⟨1⟩, .agreeable "alice" (period 0)),
    (.createPair alice ⟨1, 2, 1, none, none⟩, .agreeable "alice" (period 0)),
    (.invalidSlotsForGameKey ⟨"alice", "bob", 7, 200⟩, .agreeable "bob" (period 1)),
    (.createPair alice ⟨1, 2, 6, none, none⟩, .agreeable "alice" (period 1))]

theorem statuses_final_canceled :
    (states .empty (serve (liveApp .goerli) landScript .empty).1).Pairwise
        StatusesKept ∧
      (serve (liveApp .goerli) landScript .empty).2.breedPair.rows.map
        BreedPair.status = [.CANCELED, .FAILED, .PAIRED] := by
  have apart : ∀ step ∈ (serve (liveApp .goerli) landScript .empty).1,
      (∀ pair ∈ step.source.breedPair.rows,
        pair.status = .COMPLETED ∨ pair.status = .CANCELED → pair.slotId = 6) ∧
      ∀ slot ∈ step.source.breedSlot.rows, slot.id = 6 → slot.gameKeyId = none := by
    rw [landScript, serve_login (liveApp .goerli) (by decide +kernel) rfl]
    decide +kernel
  constructor
  · refine statuses_final (run_of_serve (liveApp .goerli) landScript .empty) ?_
    intro step member overwrites
    obtain ⟨onLand, keyless⟩ := apart step member
    unfold OverwritesStatus at overwrites
    split at overwrites
    · obtain ⟨-, pair, listed, closed, slot, present, keyed, same⟩ := overwrites
      have none := keyless slot present (same.trans (onLand pair listed closed))
      rw [AdminController.keySlot, none] at keyed
      simp at keyed
    · exact overwrites
  · rw [landScript, serve_login (liveApp .goerli) (by decide +kernel) rfl]
    decide +kernel

end BudBreeding.Lifecycle
