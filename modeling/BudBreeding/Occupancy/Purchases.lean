import BudBreeding.Lifecycle.Timing
import BudBreeding.Occupancy.Batches
import BudBreeding.Statistics.Spending

namespace BudBreeding.Occupancy

open Data Program Backend Lifecycle Statistics

/-! The lands a user pays for, and the slots the user gets for them. -/

/-- How many slots of a purchased land have not been deleted. -/
def landSize (user : Address) (landTokenId : Int) (db : Db) : Nat :=
  batchSize batchOf db.breedSlot.rows (.land user landTokenId)

theorem landSize_eq (user : Address) (landTokenId : Int) (db : Db) :
    landSize user landTokenId db =
      db.breedSlot.rows.countP (LandService.landSlot user landTokenId) := by
  apply List.countP_congr
  intro slot _
  rw [decide_eq_true_iff, batchOf_eq_land]

/-- The purchased lands of a user have the slots they had. -/
def SameLands (user : Address) (db after : Db) : Prop :=
  ∀ landTokenId, landSize user landTokenId after = landSize user landTokenId db

namespace SameLands

variable {user : Address} {db middle after : Db}

theorem congr (same : after.breedSlot = db.breedSlot) : SameLands user db after := by
  intro landTokenId
  rw [landSize, same]
  rfl

theorem trans (first : SameLands user db middle) (second : SameLands user middle after) :
    SameLands user db after := by
  intro landTokenId
  rw [second, first]

theorem update {filter : BreedSlot → Bool} {data : BreedSlotUpdate} {kept : Batch → Bool}
    (moved : ∀ slot ∈ db.breedSlot.rows,
      batchOf (if filter slot then data.apply slot else slot) = (batchOf slot).filter kept)
    (lands : ∀ landTokenId, kept (.land user landTokenId) = true) :
    SameLands user db (db.updateBreedSlot filter data) := by
  intro landTokenId
  apply (batchSize_map moved (.land user landTokenId)).trans
  exact if_pos (lands landTokenId)

theorem updateFlags {data : BreedSlotUpdate}
    (kept : ∀ slot, batchOf (data.apply slot) = batchOf slot)
    (filter : BreedSlot → Bool) : SameLands user db (db.updateBreedSlot filter data) := by
  refine @update user db filter data (fun _ => true) ?_ fun _ => rfl
  intro slot _
  rw [batchOf_flagged kept]
  cases batchOf slot <;> rfl

theorem updateUsed (filter : BreedSlot → Bool) (used : Bool) :
    SameLands user db (db.updateBreedSlot filter (.isUsed used)) :=
  updateFlags (fun _ => rfl) filter

theorem updateType (filter : BreedSlot → Bool) (type : BreedSlotType) :
    SameLands user db (db.updateBreedSlot filter (.type type)) :=
  updateFlags (fun _ => rfl) filter

theorem openSlots (filter : BreedSlot → Bool) :
    SameLands user db (db.updateBreedSlot filter (.isOpen true)) :=
  updateFlags (fun _ => rfl) filter

theorem deleteSlots {prevOwner : Address} {gameKeyId : Int} {slots : List BreedSlot}
    {deletedAt : Time} (batched : InBatches db)
    (selected : slots.Perm (db.breedSlot.rows.filter
      (AdminController.keySlot prevOwner gameKeyId))) :
    SameLands user db (db.deleteSlots slots deletedAt) := by
  have deleted : SameLands user db (db.updateBreedSlot
      (fun slot => slot.id ∈ slots.map BreedSlot.id) (.deletedAt deletedAt)) := by
    apply update (batched.batchOf_deleted selected deletedAt)
    intro landTokenId
    apply decide_eq_true
    intro same
    cases same
  exact deleted.trans (.congr rfl)

end SameLands

theorem landSize_createSlots {db : Db} {user userAddress : Address}
    {gameKeyId landTokenId : Option Int} (id : Int) :
    landSize user id (db.createBreedSlots
        (LandService.newSlots userAddress gameKeyId landTokenId)) =
      landSize user id db + batchSize batchOf
        (Serial.numbered BreedSlotCreate.row db.breedSlot.nextId
          (LandService.newSlots userAddress gameKeyId landTokenId)) (.land user id) := by
  rw [landSize, Db.rows_createBreedSlots, batchSize_append, landSize]

theorem SameLands.addSlots {db : Db} {user userAddress : Address}
    {gameKeyId landTokenId : Option Int} {batch : Batch} {existing : BreedSlot → Bool}
    (named : ∀ slot : BreedSlot, slot.deletedAt = none → slot.userAddress = userAddress →
      slot.gameKeyId = gameKeyId → slot.landTokenId = landTokenId →
      batchOf slot = some batch)
    (apart : ∀ id, batch ≠ .land user id) :
    SameLands user db (db.addSlots existing
      (LandService.newSlots userAddress gameKeyId landTokenId)) := by
  unfold Db.addSlots
  split
  · exact .congr rfl
  · intro id
    rw [landSize_createSlots, batchSize_of_none (batchOf_numbered named _) (apart id),
      Nat.add_zero]

theorem SameLands.freeLand {db : Db} (user userAddress : Address) (gameKeyId : Int) :
    SameLands user db (db.addSlots (LandService.freeLandSlot userAddress gameKeyId)
      (LandService.newSlots userAddress (some gameKeyId) none)) := by
  apply SameLands.addSlots
  · intro slot live owned keyed landed
    exact batchOf_eq_freeLand.mpr (decide_eq_true ⟨keyed, owned, landed, live⟩)
  · intro id same
    cases same

theorem batchOf_bought {userAddress : Address} {now : Time} (slot : BreedSlot)
    (live : slot.deletedAt = none) (owned : slot.userAddress = userAddress)
    (_ : slot.gameKeyId = none) (landed : slot.landTokenId = some now) :
    batchOf slot = some (.land userAddress now) :=
  batchOf_eq_land.mpr (decide_eq_true ⟨owned, landed, live⟩)

theorem SameLands.othersLand {db : Db} {user userAddress : Address} {now : Time}
    (other : userAddress ≠ user) :
    SameLands user db (db.addSlots (LandService.landSlot userAddress now)
      (LandService.newSlots userAddress none (some now))) := by
  apply SameLands.addSlots batchOf_bought
  intro id same
  cases same
  exact other rfl

/-- Each land is there after a purchase that was there before, or that has the time of
the purchase for its id. -/
theorem landSize_bought {db : Db} {user : Address} {now : Time} (id : Int) :
    0 < landSize user id (db.addSlots (LandService.landSlot user now)
        (LandService.newSlots user none (some now))) ↔
      0 < landSize user id db ∨ id = now := by
  unfold Db.addSlots
  rw [← landSize_eq]
  split
  · next present =>
    constructor
    · exact Or.inl
    · rintro (there | rfl)
      · exact there
      · exact present
  · next absent =>
    rw [landSize_createSlots]
    by_cases same : id = now
    · subst same
      rw [batchSize_of_all (batchOf_numbered batchOf_bought _)]
      exact iff_of_true (Nat.lt_add_left _ (Nat.succ_pos 4)) (.inr rfl)
    · rw [batchSize_of_none (batchOf_numbered batchOf_bought _), Nat.add_zero]
      · exact (or_iff_left same).symm
      · intro equal
        cases equal
        exact same rfl

section Steps

variable {app : App} {admitted : Oracle → Prop} {db after : Db} {user : Address}
  {request : Request} {response : Except Failure Response}

theorem SameLands.upgradeSlot (body : CreateBreedPairDto) (slot : BreedSlot) :
    SameLands user db (db.upgradeSlot body slot) := by
  unfold Db.upgradeSlot
  split
  · exact .updateType _ _
  · exact .congr rfl

theorem SameLands.levelStarted {pair : BreedPair}
    (started : LevelStarted app db pair after) : SameLands user db after :=
  .congr started.breedSlot

theorem SameLands.insertPair (data : BreedPairCreate) (now : Time) :
    SameLands user db (db.insertPair data now) := by
  have created : SameLands user db (db.createBreedPair data now) := .congr rfl
  exact created.trans (.updateUsed _ true)

theorem SameLands.closePair (pair : BreedPair) (status : BreedPairStatus) :
    SameLands user db (db.closePair pair status) := by
  have freed := @SameLands.updateUsed user db (fun slot => slot.id = pair.slotId) false
  exact freed.trans (.congr rfl)

theorem SameLands.finalized {pair : BreedPair} {level : BreedLevel}
    {buds : List BreedBud} {male female : Int} {address : Address}
    (next : ((db.evaluateLevel app level buds male female).closePair pair
      .COMPLETED).NextSlotOpened address after) : SameLands user db after := by
  have evaluated : SameLands user db (db.evaluateLevel app level buds male female) :=
    .congr rfl
  have closed := evaluated.trans (.closePair pair .COMPLETED)
  rcases next with ⟨-, rfl⟩ | ⟨slot, -, -, rfl⟩
  · exact closed
  · exact closed.trans (.openSlots _)

/-- The lands of a user change with the purchases of the user only. -/
theorem sameLands_of_outcome (batched : InBatches db)
    (outcome : Outcome app admitted db request response after) (user : Address) :
    SameLands user db after ∨ ∃ req purchase, request = .purchaseLand req ∧
      response = .ok (.purchase purchase) ∧ req.user = user := by
  cases outcome with
  | @landPurchased req now paid purchase charged =>
      by_cases own : req.user = user
      · exact .inr ⟨req, purchase, rfl, rfl, own⟩
      · left
        have spent : SameLands user db paid :=
          .congr charged.breedSlot
        exact spent.trans (.othersLand own)
  | @loggedIn body =>
      left
      exact (SameLands.freeLand user body.address body.gameKeyId).trans
        (.congr ((Db.sameBut_upsertUser _ _ _ _).breedSlot (by decide)))
  | @slotOpened req body slot row paid listed own closed charged =>
      left
      have spent : SameLands user db paid :=
        .congr charged.breedSlot
      exact spent.trans (.openSlots _)
  | @slotConverted req body slot row paid listed own outdoor charged =>
      left
      have spent : SameLands user db paid :=
        .congr charged.breedSlot
      exact spent.trans (.updateType _ _)
  | othersPairsFailed selected =>
      left
      exact (SameLands.congr rfl).trans (.updateUsed _ false)
  | ownersPairsFailed selected =>
      left
      exact (SameLands.congr rfl).trans (.updateUsed _ false)
  | keySlotsDeleted deletable selected => exact .inl (.deleteSlots batched selected)
  | pairRejected granted => exact .inl (.upgradeSlot _ _)
  | levelClashed granted taken samePair sameLevel =>
      left
      exact (SameLands.upgradeSlot _ _).trans (.insertPair _ _)
  | pairCreated granted started =>
      left
      exact ((SameLands.upgradeSlot _ _).trans (.insertPair _ _)).trans
        (.levelStarted started)
  | levelCharged granted charged =>
      exact .inl (.congr charged.breedSlot)
  | levelEvaluated granted charged evaluable taken samePair sameLevel =>
      exact .inl (.congr charged.breedSlot)
  | @leveledUp req body pair paid after level buds granted charged evaluable started =>
      left
      have evaluated : SameLands user db (paid.evaluateLevel app level buds
          body.maleBudId body.femaleBudId) :=
        .congr charged.breedSlot
      exact evaluated.trans (.levelStarted started)
  | pairCanceled listed own answered =>
      left
      exact (SameLands.congr rfl).trans (.updateUsed _ false)
  | @finalizeLost req body pair level buds granted =>
      left
      have evaluated : SameLands user db (db.evaluateLevel app level buds body.maleBudId
          body.femaleBudId) := .congr rfl
      exact evaluated.trans (.closePair pair .FAILED)
  | finalizeUnsigned granted next =>
      left
      exact (SameLands.finalized next).trans (.congr rfl)
  | finalizeWon granted next =>
      left
      exact (SameLands.finalized next).trans (.congr rfl)
  | _ => exact .inl (.congr rfl)

end Steps

def startOf (step : RecordedStep) : Option Time :=
  (callsOf step).head?.map fun call => call.oracle.now

def buys (user : Address) (step : RecordedStep) : Bool :=
  match step.label.request, step.label.response with
  | .purchaseLand req, .ok _ => req.user = user
  | _, _ => false

def purchases (user : Address) (steps : List RecordedStep) : List RecordedStep :=
  steps.filter (buys user)

/-- What the clock showed to the purchases of the user. -/
def purchaseTimes (user : Address) (steps : List RecordedStep) : List (Option Time) :=
  (purchases user steps).map startOf

def received (user : Address) (step : RecordedStep) : List BreedSlot :=
  step.target.1.breedSlot.rows.filter fun slot =>
    slot.userAddress = user ∧ step.source.1.breedSlot.nextId ≤ slot.id

def unrecorded (step : RecordedStep) : Transition Db Exchange :=
  ⟨step.source.1, step.label, step.target.1⟩

/-- Each of the purchases was paid once, for five slots of which one is open. -/
structure Delivered (app : App) (user : Address) (bought : List RecordedStep) :
    Prop where
  debited : (bought.map fun step => debit user (unrecorded step)).sum =
    bought.length * app.config.landPrice
  slots : (bought.flatMap (received user)).length = 5 * bought.length
  opened : (bought.flatMap (received user)).countP BreedSlot.isOpen = bought.length

section Recorded

variable {app : App} {admitted : Oracle → Prop} {user : Address}
  {source target : Db × Record}

/-- A purchase that succeeds, at the time its land is named after. -/
structure Bought (app : App) (req : Req) (now : Time) (db paid after : Db) : Prop where
  charged : db.Paid req.user app.config.landPrice paid
  after_eq : after = paid.addSlots (LandService.landSlot req.user now)
    (LandService.newSlots req.user none (some now))

/-- `purchaseLand` after it has read the clock. -/
def purchaseAt (app : App) (req : Req) (now : Time) : Handler LandController.Purchase := do
  let _ ← UserService.consumeBreedingPoint req.user app.config.landPrice
  LandService.createNewLandSlots req.user now
  let purchasedLands ← Prisma.breedSlotFindMany (LandService.landSlot req.user now)
  let userObject ← Prisma.userFindUnique req.user
  match userObject with
  | none => .throw .typeError
  | some userObject => return ⟨purchasedLands, userObject.breedingPoint⟩

theorem purchaseLand_eq (app : App) (req : Req) :
    LandController.purchaseLand app req = dateNow >>= purchaseAt app req :=
  rfl

theorem ensures_purchaseAt (req : Req) (now : Time) (db : Db) (among : Oracle → Prop) :
    (surroundings among).Ensures (purchaseAt app req now)
      (fun result after => result.isOk = true →
        ∃ paid, Bought app req now db paid after) db := by
  refine ensures_consumeBreedingPoint ?_ fun _ paid charged => ?_
  · intro _ error accepted
    cases accepted
  rw [World.ensures_bind]
  refine ensures_createNewLandSlots ?_
  refine (returns_breedSlotFindMany _).ensures_bind fun lands _ => ?_
  refine (returns_userFindUnique _).ensures_bind fun found _ => ?_
  cases found with
  | none =>
      refine World.ensures_throw.mpr fun accepted => ?_
      cases accepted
  | some user => exact World.ensures_pure.mpr fun _ => ⟨paid, charged, rfl⟩

theorem logs_purchaseLand {req : Req} {response : Response}
    (logs : Logs app admitted source ⟨.purchaseLand req, .ok response⟩ target) :
    ∃ now paid, startOf ⟨source, ⟨.purchaseLand req, .ok response⟩, target⟩ = some now ∧
      Bought app req now source.1 paid target.1 := by
  obtain ⟨db, record⟩ := source
  have every : (surroundings admitted).recorded.Ensures
      (Response.purchase <$> LandController.purchaseLand app req)
      (fun result final => ∃ clock calls,
        final.2 = record ++ (⟨.dateNow, clock⟩ :: calls) ∧
          (result.isOk = true → ∃ paid, Bought app req clock.now db paid final.1))
      (db, record) := by
    rw [World.ensures_map, purchaseLand_eq]
    refine ensures_recorded_call fun clock now read => ?_
    obtain rfl : clock.now = now := read
    apply World.ensures_recorded
    intro calls result final runs
    have bought := ensures_purchaseAt req clock.now db
      (fun oracle => admitted oracle ∧ Answered calls oracle) result final runs
    refine ⟨clock, calls, ?_, fun accepted => ?_⟩
    · rw [List.append_assoc, List.singleton_append]
    · cases result with
      | ok purchase => exact bought rfl
      | error error => cases accepted
  obtain ⟨clock, calls, recorded, bought⟩ := every _ _ logs
  obtain ⟨paid, bought⟩ := bought rfl
  refine ⟨clock.now, paid, ?_, bought⟩
  rw [startOf, callsOf_eq recorded]
  rfl

end Recorded

section Deliveries

variable {app : App} {user : Address} {req : Req} {now : Time} {step : RecordedStep}
  {paid : Db}

theorem received_old (same : step.target.1.breedSlot = step.source.1.breedSlot) :
    received user step = [] := by
  rw [received, same]
  apply List.filter_eq_nil_iff.mpr
  intro slot member fresh
  exact absurd (step.source.1.breedSlot.bounded slot member)
    (not_lt.mpr (of_decide_eq_true fresh).2)

theorem received_again (bought : Bought app req now step.source.1 paid step.target.1)
    (present : 0 < landSize req.user now step.source.1) :
    received req.user step = [] := by
  have same := bought.charged.breedSlot
  rw [landSize_eq, ← same] at present
  apply received_old
  rw [bought.after_eq, Db.addSlots, if_pos present, same]

theorem received_new (bought : Bought app req now step.source.1 paid step.target.1)
    (absent : ¬ 0 < landSize req.user now step.source.1) :
    received req.user step =
      Serial.numbered BreedSlotCreate.row step.source.1.breedSlot.nextId
        (LandService.newSlots req.user none (some now)) := by
  have same := bought.charged.breedSlot
  have appended : step.target.1.breedSlot.rows = step.source.1.breedSlot.rows ++
      Serial.numbered BreedSlotCreate.row step.source.1.breedSlot.nextId
        (LandService.newSlots req.user none (some now)) := by
    rw [landSize_eq, ← same] at absent
    rw [bought.after_eq, Db.addSlots, if_neg absent, ← same]
    exact Db.rows_createBreedSlots _ _
  rw [received, appended, List.filter_append]
  have old : (step.source.1.breedSlot.rows.filter fun slot => decide
      (slot.userAddress = req.user ∧ step.source.1.breedSlot.nextId ≤ slot.id)) = [] :=
    @received_old req.user ⟨step.source, step.label, step.source⟩ rfl
  rw [old, List.nil_append]
  apply List.filter_eq_self.mpr
  simp [Serial.numbered, LandService.newSlots, BreedSlotCreate.row]
  omega

end Deliveries

section Runs

variable {app : App} {admitted : Oracle → Prop} {user : Address}
  {steps : List RecordedStep} {final : Db × Record}

theorem purchases_snoc (step : RecordedStep) :
    purchases user (steps ++ [step]) =
      purchases user steps ++ if buys user step = true then [step] else [] := by
  rw [purchases, List.filter_append]
  cases bought : buys user step <;> simp [purchases, bought]

/-- A user owns the lands named after the purchases, and each of them once. -/
structure Purchased (app : App) (user : Address) (steps : List RecordedStep) (db : Db) :
    Prop where
  batched : InBatches db
  lands : ∀ id, 0 < landSize user id db ↔ some id ∈ purchaseTimes user steps
  debited : ((purchases user steps).map fun step => debit user (unrecorded step)).sum =
    (purchases user steps).length * app.config.landPrice
  slots : ((purchases user steps).flatMap (received user)).length =
    5 * (purchaseTimes user steps).dedup.length
  opened : ((purchases user steps).flatMap (received user)).countP BreedSlot.isOpen =
    (purchaseTimes user steps).dedup.length

theorem Purchased.empty (app : App) (user : Address) : Purchased app user [] .empty where
  batched := .empty
  lands _ := iff_of_false (Nat.lt_irrefl 0) List.not_mem_nil
  debited := (Int.zero_mul _).symm
  slots := rfl
  opened := rfl

theorem length_dedup_of_mem {α : Type} [DecidableEq α] {list : List α} {last : α}
    (listed : last ∈ list) : (list ++ [last]).dedup.length = list.dedup.length := by
  rw [← List.card_toFinset, List.toFinset_append, ← List.card_toFinset]
  congr 1
  simp [listed]

theorem length_dedup_of_notMem {α : Type} [DecidableEq α] {list : List α} {last : α}
    (new : last ∉ list) : (list ++ [last]).dedup.length = list.dedup.length + 1 := by
  rw [← List.card_toFinset, List.toFinset_append, ← List.card_toFinset]
  simp [new]

theorem Purchased.quiet {source target : Db × Record} {exchange : Exchange}
    (purchased : Purchased app user steps source.1) (after : InBatches target.1)
    (spared : buys user ⟨source, exchange, target⟩ = false)
    (same : SameLands user source.1 target.1) :
    Purchased app user (steps ++ [⟨source, exchange, target⟩]) target.1 := by
  have kept : purchases user (steps ++ [⟨source, exchange, target⟩]) =
      purchases user steps := by
    rw [purchases_snoc, spared]
    exact List.append_nil _
  have times : purchaseTimes user (steps ++ [⟨source, exchange, target⟩]) =
      purchaseTimes user steps := by
    rw [purchaseTimes, kept, purchaseTimes]
  constructor
  · exact after
  · intro id
    rw [same, times]
    exact purchased.lands id
  · rw [kept]
    exact purchased.debited
  · rw [kept, times]
    exact purchased.slots
  · rw [kept, times]
    exact purchased.opened

theorem Purchased.bought {source target : Db × Record} {req : Req} {response : Response}
    (purchased : Purchased app req.user steps source.1) (after : InBatches target.1)
    (logs : Logs app admitted source ⟨.purchaseLand req, .ok response⟩ target) :
    Purchased app req.user
      (steps ++ [⟨source, ⟨.purchaseLand req, .ok response⟩, target⟩]) target.1 := by
  obtain ⟨now, paid, started, bought⟩ := logs_purchaseLand logs
  let step : RecordedStep := ⟨source, ⟨.purchaseLand req, .ok response⟩, target⟩
  have more : purchases req.user (steps ++ [step]) = purchases req.user steps ++ [step] := by
    rw [purchases_snoc]
    exact congrArg _ (if_pos (decide_eq_true rfl))
  have times : purchaseTimes req.user (steps ++ [step]) =
      purchaseTimes req.user steps ++ [some now] := by
    rw [purchaseTimes, more, List.map_append, List.map_singleton, started, purchaseTimes]
  obtain ⟨lands, slots, opened, distinct⟩ : ∃ lands,
      (received req.user step).length = 5 * lands ∧
        (received req.user step).countP BreedSlot.isOpen = lands ∧
          (purchaseTimes req.user steps ++ [some now]).dedup.length =
            (purchaseTimes req.user steps).dedup.length + lands := by
    by_cases present : 0 < landSize req.user now source.1
    · refine ⟨0, ?_, ?_, length_dedup_of_mem ((purchased.lands now).mp present)⟩
      all_goals
        rw [received_again bought present]
        rfl
    · refine ⟨1, ?_, ?_, length_dedup_of_notMem (mt (purchased.lands now).mpr present)⟩
      all_goals
        rw [received_new bought present]
        rfl
  constructor
  · exact after
  · intro id
    rw [times, List.mem_append, List.mem_singleton, Option.some_inj, ← purchased.lands]
    have same : SameLands req.user source.1 paid :=
      .congr (bought.charged.breedSlot)
    rw [← same, bought.after_eq]
    exact landSize_bought id
  · have spent : debit req.user (unrecorded step) = app.config.landPrice := by
      apply debit_paid bought.charged
      exact (congrArg Db.user bought.after_eq).trans
        ((Db.sameBut_addSlots _ _ _).user (by decide))
    rw [more, List.map_append, List.sum_append, purchased.debited, List.map_singleton,
      List.sum_singleton, spent, List.length_append, List.length_singleton]
    push_cast
    rw [Int.add_mul, Int.one_mul]
  · rw [more, times, List.flatMap_append, List.length_append, purchased.slots,
      List.flatMap_singleton, slots, distinct, Nat.mul_add]
  · rw [more, times, List.flatMap_append, List.countP_append, purchased.opened,
      List.flatMap_singleton, opened, distinct]

/-- The run lemma: what the purchases of a user cost, and what they brought. -/
theorem purchased_of_run (run : RecordedRun app admitted (.empty, []) steps final)
    (user : Address) : Purchased app user steps final.1 := by
  induction run with
  | nil => exact .empty app user
  | @snoc steps source target exchange earlier logs induction =>
      obtain ⟨request, response⟩ := exchange
      have outcome := outcome_of_handles (handles_of_logs logs)
      have after : InBatches target.1 := induction.batched.outcome outcome
      cases bought : buys user ⟨source, ⟨request, response⟩, target⟩ with
      | false =>
          cases sameLands_of_outcome induction.batched outcome user with
          | inl same => exact induction.quiet after bought same
          | inr purchase =>
              obtain ⟨req, purchase, rfl, rfl, own⟩ := purchase
              exact absurd own (of_decide_eq_false bought)
      | true =>
          unfold buys at bought
          split at bought
          · next req response asked answered =>
            obtain rfl : request = .purchaseLand req := asked
            obtain rfl : _ = Except.ok response := answered
            obtain rfl : req.user = user := of_decide_eq_true bought
            exact induction.bought after logs
          · cases bought

/-- The purchases of a user are delivered just when no two of them read the same time. -/
theorem delivered_iff (run : RecordedRun app admitted (.empty, []) steps final)
    (user : Address) :
    Delivered app user (purchases user steps) ↔ (purchaseTimes user steps).Nodup := by
  have purchased := purchased_of_run run user
  have length : (purchaseTimes user steps).length = (purchases user steps).length :=
    List.length_map _
  constructor
  · intro delivered
    have all : (purchaseTimes user steps).dedup.length =
        (purchaseTimes user steps).length := by
      rw [length, ← delivered.opened, purchased.opened]
    apply List.dedup_eq_self.mp
    exact (List.dedup_sublist _).eq_of_length all
  · intro distinct
    have all : (purchaseTimes user steps).dedup.length = (purchases user steps).length := by
      rw [distinct.dedup, length]
    constructor
    · exact purchased.debited
    · rw [purchased.slots, all]
    · rw [purchased.opened, all]

/-- `alice` logs in, receives breeding points and purchases land. -/
def purchaseScript (times : List Time) : List (Request × Oracle) :=
  (.login (loginFrom "alice"), .agreeable "alice" (period 0)) ::
    (.addBreedingPoint ⟨⟨"alice", "deposit", 1, "goerli"⟩, 100000⟩,
      .agreeable "alice" (period 0)) ::
    times.map fun now => (.purchaseLand alice, .agreeable "alice" now)

theorem delivered_iff_purchaseScript :
    Delivered (liveApp .goerli) "alice" (purchases "alice"
      (play (recordRequest (liveApp .goerli)) (purchaseScript [period 1, period 2])
        (.empty, [])).1) := by
  apply (delivered_iff (run_of_record (liveApp .goerli) _) "alice").mpr
  rw [purchaseScript, play_login]
  decide +kernel

/-- Two purchases in one millisecond: both are paid, and the second brings nothing. -/
theorem second_land_missing :
    ¬ ∀ (app : App) (admitted : Oracle → Prop) (steps : List RecordedStep)
        (final : Db × Record) (user : Address),
      RecordedRun app admitted (.empty, []) steps final → Ticking final.2 →
        Delivered app user (purchases user steps) := by
  intro delivered
  have ticking : Ticking (play (recordRequest (liveApp .goerli))
      (purchaseScript [period 1, period 1]) (.empty, [])).2.2 := by
    rw [purchaseScript, play_login]
    apply List.isChain_iff_pairwise.mp
    decide +kernel
  have slots := (delivered _ _ _ _ "alice" (run_of_record (liveApp .goerli) _)
    ticking).slots
  rw [purchaseScript, play_login] at slots
  exact absurd slots (by decide +kernel)

end Runs

end BudBreeding.Occupancy
