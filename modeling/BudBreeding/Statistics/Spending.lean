import Mathlib.Algebra.BigOperators.Ring.List
import BudBreeding.Data.Totals
import BudBreeding.Points.Book
import BudBreeding.Statistics.Aggregates

namespace BudBreeding.Statistics

open Data Program Backend

/-! What the snapshot counts as spent, next to the debits. -/

def levels (user : Address) (db : Db) : Int :=
  db.breedPair.total fun pair => if pair.userAddress = user then pair.currentLevel else 0

def indoorSlots (user : Address) (db : Db) : Int :=
  db.breedSlot.total fun slot =>
    if slot.userAddress = user ∧ slot.type = .INDOOR then 1 else 0

def debit (user : Address) (step : Transition Db Exchange) : Int :=
  (Points.book step.source user).getD 0 - (Points.book step.target user).getD 0

def levelDebit (user : Address) (step : Transition Db Exchange) : Int :=
  match step.label.request with
  | .levelBreedingUp req _ => if req.user = user then debit user step else 0
  | _ => 0

def indoorDebit (user : Address) (step : Transition Db Exchange) : Int :=
  match step.label.request with
  | .convertIndoor req _ => if req.user = user then debit user step else 0
  | _ => 0

/-- A `levelUp` that fails after its debit. -/
def FailsCharged (step : Transition Db Exchange) : Prop :=
  ∃ req body error, step.label.request = .levelBreedingUp req body ∧
    step.label.response = .error error ∧ debit req.user step ≠ 0

/-- A `createPair` of the user that succeeds: its pair starts at level 1. -/
def creates (user : Address) (step : Transition Db Exchange) : Bool :=
  match step.label.request, step.label.response with
  | .createPair req _, .ok (.pair _) => req.user = user
  | _, _ => false

/-- A `createPair` with a farmer pass that turns a slot of the user indoor. -/
def upgrades (user : Address) (step : Transition Db Exchange) : Bool :=
  match step.label.request with
  | .createPair req _ =>
      req.user = user ∧ indoorSlots user step.source < indoorSlots user step.target
  | _ => false

/-- A `convertIndoor` of the user that succeeds. -/
def converts (user : Address) (step : Transition Db Exchange) : Bool :=
  match step.label.request, step.label.response with
  | .convertIndoor req _, .ok (.slot _) => req.user = user
  | _, _ => false

section Steps

variable {app : App} {admitted : Oracle → Prop} {db after : Db} {user : Address}
  {request : Request} {response : Except Failure Response}

theorem debit_paid {paid : Db} {amount : Int} (charged : db.Paid user amount paid)
    {exchange : Exchange} (same : after.user = paid.user) :
    debit user ⟨db, exchange, after⟩ = amount := by
  obtain ⟨row, found, -, rfl⟩ := charged
  have balance := Points.book_eq_some.mpr ⟨row, found, rfl⟩
  rw [debit, Points.book_congr same, Points.book_setBreedingPoint found, Points.Book.post,
    Function.update_self, balance, Option.map_some, Option.getD_some, Option.getD_some]
  omega

theorem levels_of_breedPair (same : after.breedPair = db.breedPair) :
    levels user after = levels user db := by
  rw [levels, same]
  rfl

theorem levels_status (filter : BreedPair → Bool) (status : BreedPairStatus) :
    levels user (db.updateBreedPair filter (.status status)) = levels user db := by
  apply Serial.total_modify_of_same
  intro pair listed chosen
  rfl

theorem levels_started {pair : BreedPair} (started : LevelStarted app db pair after)
    (listed : pair ∈ db.breedPair.rows) :
    levels user after =
      levels user db + if pair.userAddress = user then 1 else 0 := by
  apply (levels_of_breedPair started.breedPair).trans
  apply (Serial.total_modify_key listed).trans
  congr 1
  change (if pair.userAddress = user then pair.currentLevel + 1 else 0) - _ = _
  split <;> omega

theorem levels_insertPair (req : Req) (body : CreateBreedPairDto) (rate : Rat)
    (now : Time) :
    levels user (db.insertPair (pairData req body rate) now) = levels user db := by
  have added := @Serial.total_create _ BreedPair.id db.breedPair
    (fun pair => if pair.userAddress = user then pair.currentLevel else 0)
    ((pairData req body rate).row now) ((pairData req body rate).row_id now)
  have zero : (if ((pairData req body rate).row now db.breedPair.nextId).userAddress = user
      then ((pairData req body rate).row now db.breedPair.nextId).currentLevel
      else 0) = 0 := ite_self 0
  rw [zero, add_zero] at added
  exact added

theorem indoorSlots_of_breedSlot (same : after.breedSlot = db.breedSlot) :
    indoorSlots user after = indoorSlots user db := by
  rw [indoorSlots, same]
  rfl

theorem indoorSlots_updateBreedSlot {data : BreedSlotUpdate}
    (typed : ∀ slot, (data.apply slot).type = slot.type) (filter : BreedSlot → Bool) :
    indoorSlots user (db.updateBreedSlot filter data) = indoorSlots user db := by
  apply Serial.total_modify_of_same
  intro slot listed chosen
  have owned : (data.apply slot).userAddress = slot.userAddress := by
    cases data <;> rfl
  rw [typed, owned]

theorem indoorSlots_addSlots (existing : BreedSlot → Bool)
    (slots : List BreedSlotCreate) :
    indoorSlots user (db.addSlots existing slots) = indoorSlots user db := by
  unfold Db.addSlots
  split
  · rfl
  · apply Serial.total_createMany_of_zero
    intro data id
    apply if_neg
    intro indoor
    cases indoor.2

theorem indoorSlots_convert {slot : BreedSlot} (listed : slot ∈ db.breedSlot.rows)
    (outdoor : slot.type ≠ .INDOOR) :
    indoorSlots user (db.updateBreedSlot (fun other => other.id = slot.id)
      (.type .INDOOR)) =
        indoorSlots user db + if slot.userAddress = user then 1 else 0 := by
  apply (Serial.total_modify_key listed).trans
  congr 1
  change (if slot.userAddress = user ∧ BreedSlotType.INDOOR = .INDOOR then (1 : Int)
    else 0) - _ = _
  simp [outdoor]

theorem indoorSlots_upgradeSlot (body : CreateBreedPairDto) {slot : BreedSlot}
    (listed : slot ∈ db.breedSlot.rows) :
    indoorSlots user (db.upgradeSlot body slot) = indoorSlots user db ∨
      slot.userAddress = user ∧
        indoorSlots user (db.upgradeSlot body slot) = indoorSlots user db + 1 := by
  unfold Db.upgradeSlot
  split
  · next pass =>
      have converted := @indoorSlots_convert db user slot listed (by
        rw [pass.2.2]
        decide)
      by_cases own : slot.userAddress = user
      · rw [if_pos own] at converted
        exact .inr ⟨own, converted⟩
      · rw [if_neg own, add_zero] at converted
        exact .inl converted
  · exact .inl rfl

theorem levels_quiet
    (free : levelDebit user ⟨db, ⟨request, response⟩, after⟩ = 0)
    (uncreated : creates user ⟨db, ⟨request, response⟩, after⟩ = false)
    (same : levels user after = levels user db) :
    15 * levels user after = 15 * levels user db +
      levelDebit user ⟨db, ⟨request, response⟩, after⟩ +
      15 * if creates user ⟨db, ⟨request, response⟩, after⟩ then 1 else 0 := by
  rw [free, uncreated, same, if_neg Bool.false_ne_true, mul_zero, add_zero, add_zero]

theorem levelDebit_self (request : Request) :
    levelDebit user ⟨db, ⟨request, response⟩, db⟩ = 0 := by
  unfold levelDebit debit
  split
  · rw [sub_self, ite_self]
  · rfl

theorem levelDebit_paid {req : Req} {body : BreedUpDto} {paid : Db} {amount : Int}
    (charged : db.Paid req.user amount paid) (same : after.user = paid.user) :
    levelDebit user ⟨db, ⟨.levelBreedingUp req body, response⟩, after⟩ =
      if req.user = user then amount else 0 := by
  by_cases own : req.user = user
  · subst own
    rw [if_pos rfl]
    exact (if_pos rfl).trans (debit_paid charged same)
  · rw [if_neg own]
    exact if_neg own

theorem failsCharged_of_paid {req : Req} {body : BreedUpDto} {paid : Db}
    {error : Failure} (price : app.config.breedingPointPerLevel = 15)
    (charged : db.Paid req.user app.config.breedingPointPerLevel paid)
    (same : after.user = paid.user) :
    FailsCharged ⟨db, ⟨.levelBreedingUp req body, .error error⟩, after⟩ := by
  refine ⟨req, body, error, rfl, rfl, ?_⟩
  rw [debit_paid charged same, price]
  decide

/-- The step lemma for levels: each is paid for, except the first one of a pair. -/
theorem levels_of_outcome (price : app.config.breedingPointPerLevel = 15)
    (outcome : Outcome app admitted db request response after)
    (refunded : ¬ FailsCharged ⟨db, ⟨request, response⟩, after⟩) :
    15 * levels user after = 15 * levels user db +
      levelDebit user ⟨db, ⟨request, response⟩, after⟩ +
      15 * if creates user ⟨db, ⟨request, response⟩, after⟩ then 1 else 0 := by
  cases outcome with
  | refused =>
      refine levels_quiet (levelDebit_self _) ?_ rfl
      cases request <;> rfl
  | nothingInvalidated =>
      refine levels_quiet (levelDebit_self _) ?_ rfl
      cases request <;> rfl
  | loggedIn =>
      refine levels_quiet rfl rfl (levels_of_breedPair ?_)
      exact ((Db.sameBut_upsertUser _ _ _ _).breedPair (by decide)).trans
        ((Db.sameBut_addSlots _ _ _).breedPair (by decide))
  | slotOpened listed own closed charged =>
      exact levels_quiet rfl rfl (levels_of_breedPair charged.breedPair)
  | slotConverted listed own outdoor charged =>
      exact levels_quiet rfl rfl (levels_of_breedPair charged.breedPair)
  | landPurchased charged =>
      refine levels_quiet rfl rfl (levels_of_breedPair ?_)
      exact ((Db.sameBut_addSlots _ _ _).breedPair (by decide)).trans
        charged.breedPair
  | othersPairsFailed selected => exact levels_quiet rfl rfl (levels_status _ _)
  | ownersPairsFailed selected => exact levels_quiet rfl rfl (levels_status _ _)
  | keySlotsDeleted deletable selected => exact levels_quiet rfl rfl (levels_status _ _)
  | pairCanceled listed own answered =>
      exact levels_quiet rfl (by cases response <;> rfl) (levels_status _ _)
  | finalizeLost granted => exact levels_quiet rfl rfl (levels_status _ _)
  | finalizeUnsigned granted next =>
      have same := next.breedPair
      have closed := @levels_of_breedPair _ _ user same
      exact levels_quiet rfl rfl (closed.trans (levels_status _ _))
  | finalizeWon granted next =>
      have same := next.breedPair
      have closed := @levels_of_breedPair _ _ user same
      exact levels_quiet rfl rfl (closed.trans (levels_status _ _))
  | @pairRejected req body slot =>
      exact levels_quiet rfl rfl
        (levels_of_breedPair (db.breedPair_upgradeSlot body slot))
  | @levelClashed req body slot =>
      refine levels_quiet rfl rfl
        ((levels_insertPair _ _ _ _).trans (levels_of_breedPair ?_))
      exact db.breedPair_upgradeSlot body slot
  | @pairCreated req body slot metadatas rate now after granted started =>
      have same := db.breedPair_upgradeSlot body slot
      have raised := @levels_started _ _ _ user _ started
        (mem_insertPair (pairData req body rate) now)
      rw [levels_insertPair, levels_of_breedPair same] at raised
      rw [raised, levelDebit, creates, add_zero, Int.mul_add]
      simp only [decide_eq_true_eq]
      rfl
  | levelCharged granted charged =>
      exact absurd (failsCharged_of_paid price charged rfl) refunded
  | levelEvaluated granted charged =>
      exact absurd (failsCharged_of_paid price charged rfl) refunded
  | @leveledUp req body pair paid after level buds granted charged evaluable started =>
      have same := charged.breedPair
      have listed : pair ∈ paid.breedPair.rows := by
        rw [same]
        exact granted.listed
      have owner : pair.userAddress = req.user := (of_decide_eq_true granted.own).2.1
      have raised := @levels_started _ _ _ user _ started listed
      have kept : levels user (paid.evaluateLevel app level buds body.maleBudId
          body.femaleBudId) = levels user db := levels_of_breedPair same
      rw [kept, owner] at raised
      have uncreated : creates user ⟨db, ⟨.levelBreedingUp req body,
          .ok (.status (getBonusRateStatus
            (BreedService.evaluationOf app buds).bonusRate))⟩, after⟩ = false := rfl
      rw [raised, levelDebit_paid charged started.user, price, uncreated,
        if_neg Bool.false_ne_true]
      split <;> omega
  | _ => exact levels_quiet rfl rfl rfl

theorem indoor_quiet (idle : converts user ⟨db, ⟨request, response⟩, after⟩ = false)
    (same : indoorSlots user after = indoorSlots user db) :
    indoorSlots user after = indoorSlots user db +
      (if converts user ⟨db, ⟨request, response⟩, after⟩ then 1 else 0) +
      if upgrades user ⟨db, ⟨request, response⟩, after⟩ then 1 else 0 := by
  have unmoved : upgrades user ⟨db, ⟨request, response⟩, after⟩ = false := by
    unfold upgrades
    split
    · apply decide_eq_false
      intro moved
      have more := moved.2
      change indoorSlots user db < indoorSlots user after at more
      omega
    · rfl
  rw [idle, unmoved, same, if_neg Bool.false_ne_true, add_zero, add_zero]

theorem indoorDebit_self (request : Request) :
    indoorDebit user ⟨db, ⟨request, response⟩, db⟩ = 0 := by
  unfold indoorDebit debit
  split
  · rw [sub_self, ite_self]
  · rfl

theorem indoorDebit_paid {req : Req} {body : OpenSlotDto} {paid : Db} {amount : Int}
    (charged : db.Paid req.user amount paid) (same : after.user = paid.user) :
    indoorDebit user ⟨db, ⟨.convertIndoor req body, response⟩, after⟩ =
      if req.user = user then amount else 0 := by
  by_cases own : req.user = user
  · subst own
    rw [if_pos rfl]
    exact (if_pos rfl).trans (debit_paid charged same)
  · rw [if_neg own]
    exact if_neg own

theorem indoorSlots_next {pair : BreedPair} {level : BreedLevel} {buds : List BreedBud}
    {male female : Int} {status : BreedPairStatus} {address : Address}
    (next : ((db.evaluateLevel app level buds male female).closePair pair
      status).NextSlotOpened address after) :
    indoorSlots user after = indoorSlots user db := by
  have closed : indoorSlots user ((db.evaluateLevel app level buds male
      female).closePair pair status) = indoorSlots user db :=
    indoorSlots_updateBreedSlot (fun _ => rfl) _
  rcases next with ⟨-, rfl⟩ | ⟨slot, -, -, rfl⟩
  · exact closed
  · exact (indoorSlots_updateBreedSlot (fun _ => rfl) _).trans closed

theorem indoor_createPair {req : Req} {body : CreateBreedPairDto} {slot : BreedSlot}
    {metadatas : List BudWithId} (granted : PairGranted admitted db req body slot metadatas)
    (same : indoorSlots user after = indoorSlots user (db.upgradeSlot body slot)) :
    indoorSlots user after = indoorSlots user db +
      (if converts user ⟨db, ⟨.createPair req body, response⟩, after⟩ then 1 else 0) +
      if upgrades user ⟨db, ⟨.createPair req body, response⟩, after⟩ then 1 else 0 := by
  cases @indoorSlots_upgradeSlot db user body slot granted.listed with
  | inl kept => exact indoor_quiet rfl (same.trans kept)
  | inr upgraded =>
      obtain ⟨own, more⟩ := upgraded
      have owner : slot.userAddress = req.user := (of_decide_eq_true granted.free).1
      rw [more] at same
      have moves : upgrades user ⟨db, ⟨.createPair req body, response⟩, after⟩ =
          true := by
        apply decide_eq_true
        refine ⟨owner.symm.trans own, ?_⟩
        change indoorSlots user db < indoorSlots user after
        omega
      rw [moves, same, if_pos rfl]
      exact congrArg (fun slots => slots + 1) (add_zero _).symm

/-- The step lemma for slots: each indoor slot is paid for, or upgraded with a pass. -/
theorem indoorSlots_of_outcome
    (outcome : Outcome app admitted db request response after) :
    indoorSlots user after = indoorSlots user db +
      (if converts user ⟨db, ⟨request, response⟩, after⟩ then 1 else 0) +
      if upgrades user ⟨db, ⟨request, response⟩, after⟩ then 1 else 0 := by
  cases outcome with
  | refused => exact indoor_quiet (by cases request <;> rfl) rfl
  | nothingInvalidated => exact indoor_quiet (by cases request <;> rfl) rfl
  | @slotConverted req body slot row paid listed own outdoor charged =>
      obtain ⟨identified, owner, -⟩ := of_decide_eq_true own
      have same := charged.breedSlot
      have present : slot ∈ paid.breedSlot.rows := by
        rw [same]
        exact listed
      have converted := @indoorSlots_convert paid user slot present outdoor
      rw [indoorSlots_of_breedSlot same, owner, identified] at converted
      rw [converted, converts, upgrades]
      simp only [decide_eq_true_eq, Bool.false_eq_true, if_false, add_zero]
  | @loggedIn body =>
      have added := @indoorSlots_addSlots db user
        (LandService.freeLandSlot body.address body.gameKeyId)
        (LandService.newSlots body.address (some body.gameKeyId) none)
      refine indoor_quiet rfl (Eq.trans (indoorSlots_of_breedSlot ?_) added)
      exact (Db.sameBut_upsertUser _ _ _ _).breedSlot (by decide)
  | landPurchased charged =>
      exact indoor_quiet rfl ((indoorSlots_addSlots _ _).trans
        (indoorSlots_of_breedSlot charged.breedSlot))
  | slotOpened listed own closed charged =>
      exact indoor_quiet rfl ((indoorSlots_updateBreedSlot (fun _ => rfl) _).trans
        (indoorSlots_of_breedSlot charged.breedSlot))
  | pairRejected granted => exact indoor_createPair granted rfl
  | levelClashed granted =>
      exact indoor_createPair granted (indoorSlots_updateBreedSlot (fun _ => rfl) _)
  | pairCreated granted started =>
      exact indoor_createPair granted
        ((indoorSlots_of_breedSlot started.breedSlot).trans
          (indoorSlots_updateBreedSlot (fun _ => rfl) _))
  | levelCharged granted charged =>
      exact indoor_quiet rfl (indoorSlots_of_breedSlot charged.breedSlot)
  | levelEvaluated granted charged =>
      exact indoor_quiet rfl (indoorSlots_of_breedSlot charged.breedSlot)
  | leveledUp granted charged evaluable started =>
      exact indoor_quiet rfl (indoorSlots_of_breedSlot
        (started.breedSlot.trans charged.breedSlot))
  | finalizeUnsigned granted next =>
      have opened := @indoorSlots_next _ _ _ user _ _ _ _ _ _ _ next
      exact indoor_quiet rfl opened
  | finalizeWon granted next =>
      have opened := @indoorSlots_next _ _ _ user _ _ _ _ _ _ _ next
      exact indoor_quiet rfl opened
  | othersPairsFailed =>
      exact indoor_quiet rfl (indoorSlots_updateBreedSlot (fun _ => rfl) _)
  | ownersPairsFailed =>
      exact indoor_quiet rfl (indoorSlots_updateBreedSlot (fun _ => rfl) _)
  | keySlotsDeleted =>
      exact indoor_quiet rfl (indoorSlots_updateBreedSlot (fun _ => rfl) _)
  | pairCanceled =>
      exact indoor_quiet rfl (indoorSlots_updateBreedSlot (fun _ => rfl) _)
  | finalizeLost =>
      exact indoor_quiet rfl (indoorSlots_updateBreedSlot (fun _ => rfl) _)
  | _ => exact indoor_quiet rfl rfl

theorem indoorDebit_of_outcome
    (outcome : Outcome app admitted db request response after) :
    indoorDebit user ⟨db, ⟨request, response⟩, after⟩ =
      app.config.breedingPointToCovertIndoor *
        if converts user ⟨db, ⟨request, response⟩, after⟩ then 1 else 0 := by
  have idle (request : Request) (response : Except Failure Response)
      (free : converts user ⟨db, ⟨request, response⟩, db⟩ = false) :
      indoorDebit user ⟨db, ⟨request, response⟩, db⟩ =
        app.config.breedingPointToCovertIndoor *
          if converts user ⟨db, ⟨request, response⟩, db⟩ then 1 else 0 := by
    rw [indoorDebit_self, free, if_neg Bool.false_ne_true, mul_zero]
  cases outcome with
  | refused => exact idle _ _ (by cases request <;> rfl)
  | nothingInvalidated => exact idle _ _ (by cases request <;> rfl)
  | @slotConverted req body slot row paid listed own outdoor charged =>
      have debited := @indoorDebit_paid db (paid.updateBreedSlot
        (fun slot => slot.id = body.slotId) (.type .INDOOR)) user (.ok (.slot row)) req
        body paid _ charged rfl
      rw [debited, converts]
      simp only [decide_eq_true_eq, mul_ite, mul_one, mul_zero]
  | _ => exact (mul_zero _).symm

theorem indoor_of_outcome (price : app.config.breedingPointToCovertIndoor = 69)
    (outcome : Outcome app admitted db request response after) :
    69 * indoorSlots user after = 69 * indoorSlots user db +
      indoorDebit user ⟨db, ⟨request, response⟩, after⟩ +
      69 * if upgrades user ⟨db, ⟨request, response⟩, after⟩ then 1 else 0 := by
  have debited := @indoorDebit_of_outcome _ _ _ _ user _ _ outcome
  rw [price] at debited
  rw [indoorSlots_of_outcome outcome, debited, Int.mul_add, Int.mul_add]

end Steps

section Runs

variable {app : App} {admitted : Oracle → Prop} {final : Db}
  {steps : List (Transition Db Exchange)} {stats table : StatsTable}

/-- The run lemma: levels and indoor slots are the debits and what was free. -/
theorem spending_of_run (run : Run app admitted .empty steps final)
    (levelPrice : app.config.breedingPointPerLevel = 15)
    (indoorPrice : app.config.breedingPointToCovertIndoor = 69)
    (refunded : ∀ step ∈ steps, ¬ FailsCharged step) (user : Address) :
    15 * levels user final =
        (steps.map (levelDebit user)).sum + 15 * steps.countP (creates user) ∧
      69 * indoorSlots user final =
        (steps.map (indoorDebit user)).sum + 69 * steps.countP (upgrades user) := by
  induction run with
  | nil => exact ⟨rfl, rfl⟩
  | @snoc steps current target label earlier step induction =>
      obtain ⟨request, response⟩ := label
      obtain ⟨levelsBefore, indoorBefore⟩ := induction fun step member =>
        refunded step (List.mem_append_left _ member)
      have outcome : Outcome app admitted current request response target :=
        outcome_of_handles step
      have climbed := @levels_of_outcome _ _ _ _ user _ _ levelPrice outcome
        (refunded ⟨current, _, target⟩ (List.mem_append_right _ List.mem_cons_self))
      have converted := @indoor_of_outcome _ _ _ _ user _ _ indoorPrice outcome
      rw [List.map_append, List.sum_append, List.countP_append, List.map_singleton,
        List.sum_singleton, List.countP_singleton, List.map_append, List.sum_append,
        List.countP_append, List.map_singleton, List.sum_singleton,
        List.countP_singleton]
      push_cast
      constructor
      · refine climbed.trans ?_
        rw [levelsBefore, Int.mul_add]
        omega
      · refine converted.trans ?_
        rw [indoorBefore]
        omega

theorem sum_eq_levels (user : Address) (db : Db) :
    ((db.breedPair.rows.filter fun pair => pair.userAddress = user).map
      fun pair => pair.currentLevel * 15).sum = 15 * levels user db := by
  rw [levels, Serial.total_filter, List.sum_map_mul_right, mul_comm]

theorem length_eq_indoorSlots (user : Address) (db : Db) :
    (((db.breedSlot.rows.filter fun slot => slot.type = .INDOOR).filter
      fun slot => slot.userAddress = user).length : Int) * 69 =
        69 * indoorSlots user db := by
  rw [indoorSlots, Serial.total_indicator, List.countP_eq_length_filter,
    List.filter_filter, mul_comm]
  simp only [Bool.decide_and]

/-- The snapshot shows the debits of a user just when the user has created no pair,
whose first level is free, and has upgraded no slot with a farmer pass. -/
theorem spending_agrees_iff (run : Run app admitted .empty steps final)
    (levelPrice : app.config.breedingPointPerLevel = 15)
    (indoorPrice : app.config.breedingPointToCovertIndoor = 69)
    (refunded : ∀ step ∈ steps, ¬ FailsCharged step)
    (short : (∀ pair ∈ final.breedPair.rows, pair.userAddress.length ≤ 42) ∧
      ∀ slot ∈ final.breedSlot.rows, slot.userAddress.length ≤ 42)
    (ran : (statistics final).Runs snapshotBreeding stats (.ok ()) table)
    (user : Address) :
    (shown table .bpForBreeding user = (steps.map (levelDebit user)).sum ∧
      shown table .bpForLandUpgrade user = (steps.map (indoorDebit user)).sum) ↔
      ∀ step ∈ steps, creates user step = false ∧ upgrades user step = false := by
  obtain ⟨pairsShort, slotsShort⟩ := short
  have breeding : shown table .bpForBreeding user = 15 * levels user final := by
    rw [← sum_eq_levels]
    rw [shown_of_run ?_ ran user, stored, aggregate]
    · refine @getD_perAddress BreedPair _ BreedPair.userAddress _ (fun pairs =>
        (pairs.map fun pair => pair.currentLevel * 15).sum) ?_ rfl user
      intro pairs
      rw [Int.cast_list_sum, List.map_map]
      congr 2
      funext pair
      exact (Int.cast_mul _ _).symm
    · intro user grouped
      rw [aggregate, perAddress_ne_none] at grouped
      obtain ⟨pair, member, same⟩ := List.mem_map.mp grouped
      rw [← same]
      exact pairsShort pair member
  have upgrading : shown table .bpForLandUpgrade user = 69 * indoorSlots user final := by
    rw [← length_eq_indoorSlots]
    rw [shown_of_run ?_ ran user, stored, aggregate]
    · refine @getD_perAddress BreedSlot _ BreedSlot.userAddress _ (fun slots =>
        (slots.length : Int) * 69) ?_ rfl user
      intro slots
      push_cast
      rfl
    · intro user grouped
      rw [aggregate, perAddress_ne_none] at grouped
      obtain ⟨slot, member, same⟩ := List.mem_map.mp grouped
      rw [← same]
      exact slotsShort slot (List.mem_filter.mp member).1
  obtain ⟨climbed, converted⟩ := spending_of_run run levelPrice indoorPrice refunded user
  rw [breeding, upgrading, climbed, converted]
  have never (event : Transition Db Exchange → Bool) :
      steps.countP event = 0 ↔ ∀ step ∈ steps, event step = false := by
    simp [List.countP_eq_zero]
  rw [forall₂_and, ← never, ← never]
  omega

end Runs

section Breeding

/-- After her login `alice` receives breeding points and converts her first slot. -/
def convertScript : List (Request × Oracle) :=
  [(.addBreedingPoint ⟨⟨"alice", "deposit", 1, "goerli"⟩, 100000⟩,
      .agreeable "alice" (period 0)),
    (.convertIndoor alice ⟨1⟩, .agreeable "alice" (period 0))]

def converted : List (Transition Db Exchange) × Db :=
  serve (liveApp .goerli) convertScript signedUp

theorem not_failsCharged_of_isOk {step : Transition Db Exchange}
    (answered : step.label.response.isOk = true) : ¬ FailsCharged step := by
  intro fails
  obtain ⟨req, body, error, -, thrown, -⟩ := fails
  rw [thrown] at answered
  cases answered

theorem spending_agrees_iff_convertScript :
    shown (snapshotOf converted.2).2 .bpForBreeding "alice" = 0 ∧
      shown (snapshotOf converted.2).2 .bpForLandUpgrade "alice" = 69 := by
  have run : Run (liveApp .goerli) (fun _ => True) .empty ([loginStep] ++ converted.1)
      converted.2 :=
    run_serve (fun _ _ => trivial) (run_loginStep trivial)
  have answered : ∀ step ∈ [loginStep] ++ converted.1,
      step.label.response.isOk = true := by
    decide +kernel
  have succeeds : (snapshotOf converted.2).1 = .ok () := by decide +kernel
  have ran := runs_snapshotOf converted.2
  rw [succeeds] at ran
  have paid : (([loginStep] ++ converted.1).map (levelDebit "alice")).sum = 0 ∧
      (([loginStep] ++ converted.1).map (indoorDebit "alice")).sum = 69 := by
    decide +kernel
  have agrees := spending_agrees_iff run rfl rfl
    (fun step member => not_failsCharged_of_isOk (answered step member))
    (by decide +kernel) ran "alice"
  rw [paid.1, paid.2] at agrees
  apply agrees.mpr
  decide +kernel

theorem first_level_counted :
    ¬ ∀ (app : App) (admitted : Oracle → Prop) (steps : List (Transition Db Exchange))
        (final : Db) (stats table : StatsTable) (user : Address),
      app.config.breedingPointPerLevel = 15 →
        app.config.breedingPointToCovertIndoor = 69 →
        Run app admitted .empty steps final →
        (∀ step ∈ steps, ¬ FailsCharged step) →
        ((∀ pair ∈ final.breedPair.rows, pair.userAddress.length ≤ 42) ∧
          ∀ slot ∈ final.breedSlot.rows, slot.userAddress.length ≤ 42) →
        (statistics final).Runs snapshotBreeding stats (.ok ()) table →
        shown table .bpForBreeding user = (steps.map (levelDebit user)).sum ∧
        shown table .bpForLandUpgrade user = (steps.map (indoorDebit user)).sum := by
  intro agrees
  have bred := serve_breedingScript []
  rw [List.append_nil] at bred
  have run := run_of_serve (liveApp .goerli) breedingScript .empty
  rw [bred] at run
  have answered : ∀ step ∈ loginStep ::
      (serve (liveApp .goerli) (breedingScript.tail ++ []) signedUp).1,
      step.label.response.isOk = true := by
    decide +kernel
  have succeeds : (snapshotOf
      (serve (liveApp .goerli) (breedingScript.tail ++ []) signedUp).2).1 = .ok () := by
    decide +kernel
  have ran := runs_snapshotOf
    (serve (liveApp .goerli) (breedingScript.tail ++ []) signedUp).2
  rw [succeeds] at ran
  have spent := (agrees _ _ _ _ _ _ "alice" rfl rfl run
    (fun step member => not_failsCharged_of_isOk (answered step member))
    (by decide +kernel) ran).1
  exact absurd spent (by decide +kernel)

end Breeding

end BudBreeding.Statistics
