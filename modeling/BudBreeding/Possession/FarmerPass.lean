import BudBreeding.Possession.Items
import BudBreeding.Statistics.Spending

namespace BudBreeding.Possession

open Data Program Backend Statistics

/-! The slots that farmer passes turn indoor, which nobody pays for. -/

def Indoor (db : Db) (slotId : Int) : Prop :=
  ∃ row ∈ db.breedSlot.rows, row.id = slotId ∧ row.type = .INDOOR

instance (db : Db) (slotId : Int) : Decidable (Indoor db slotId) :=
  inferInstanceAs (Decidable (∃ row ∈ db.breedSlot.rows, _))

/-- The slots of the user that are outdoor before and indoor after. -/
def turnedIndoor (user : Address) (db after : Db) : List Int :=
  (db.breedSlot.rows.filter fun slot =>
    slot.userAddress = user ∧ slot.type = .OUTDOOR ∧ Indoor after slot.id).map
      BreedSlot.id

/-- The slots of the user that a `createPair` turns indoor without taking points. -/
def freeSlots (user : Address) (step : Transition Db Exchange) : List Int :=
  match step.label.request with
  | .createPair _ _ =>
      if debit user step = 0 then turnedIndoor user step.source step.target else []
  | _ => []

section Slots

variable {db middle after : Db} {user : Address} {slotId : Int}

theorem indoor_of_breedSlot (same : after.breedSlot = db.breedSlot) :
    Indoor after slotId ↔ Indoor db slotId := by
  unfold Indoor
  rw [same]

theorem indoor_updateBreedSlot {data : BreedSlotUpdate}
    (typed : ∀ slot, (data.apply slot).type = slot.type) (filter : BreedSlot → Bool) :
    Indoor (db.updateBreedSlot filter data) slotId ↔ Indoor db slotId := by
  constructor
  · intro indoor
    obtain ⟨row, member, named, type⟩ := indoor
    cases Serial.of_mem_modify member with
    | inl rewritten =>
        obtain ⟨old, present, -, rfl⟩ := rewritten
        rw [data.apply_id] at named
        rw [typed] at type
        exact ⟨old, present, named, type⟩
    | inr spared => exact ⟨row, spared.1, named, type⟩
  · intro indoor
    obtain ⟨row, member, named, type⟩ := indoor
    refine ⟨_, Serial.mem_modify.mpr ⟨row, member, rfl⟩, ?_⟩
    split
    · exact ⟨(data.apply_id row).trans named, (typed row).trans type⟩
    · exact ⟨named, type⟩

theorem indoor_convert (filter : BreedSlot → Bool) :
    Indoor (db.updateBreedSlot filter (.type .INDOOR)) slotId ↔
      Indoor db slotId ∨ ∃ slot ∈ db.breedSlot.rows, filter slot = true ∧ slot.id = slotId := by
  constructor
  · intro indoor
    obtain ⟨row, member, named, type⟩ := indoor
    cases Serial.of_mem_modify member with
    | inl rewritten =>
        obtain ⟨old, present, selected, rfl⟩ := rewritten
        exact .inr ⟨old, present, selected, named⟩
    | inr spared => exact .inl ⟨row, spared.1, named, type⟩
  · intro before
    cases before with
    | inl indoor =>
        obtain ⟨row, member, named, type⟩ := indoor
        refine ⟨_, Serial.mem_modify.mpr ⟨row, member, rfl⟩, ?_⟩
        split
        · exact ⟨named, rfl⟩
        · exact ⟨named, type⟩
    | inr chosen =>
        obtain ⟨slot, member, selected, named⟩ := chosen
        refine ⟨_, Serial.mem_modify.mpr ⟨slot, member, rfl⟩, ?_⟩
        rw [if_pos selected]
        exact ⟨named, rfl⟩

theorem Indoor.addSlots (indoor : Indoor db slotId) (existing : BreedSlot → Bool)
    (slots : List BreedSlotCreate) : Indoor (db.addSlots existing slots) slotId := by
  unfold Db.addSlots
  split
  · exact indoor
  · obtain ⟨row, member, named, type⟩ := indoor
    refine ⟨row, ?_, named, type⟩
    rw [Db.rows_createBreedSlots]
    exact List.mem_append_left _ member

theorem turnedIndoor_congr
    (same : ∀ slotId, Indoor after slotId ↔ Indoor middle slotId) :
    turnedIndoor user db after = turnedIndoor user db middle := by
  unfold turnedIndoor
  simp only [same]

theorem not_indoor_of_outdoor {slot : BreedSlot} (listed : slot ∈ db.breedSlot.rows)
    (outdoor : slot.type = .OUTDOOR) : ¬ Indoor db slot.id := by
  intro indoor
  obtain ⟨row, member, named, type⟩ := indoor
  rw [db.breedSlot.eq_of_key_eq member listed named, outdoor] at type
  cases type

theorem not_indoor_of_mem_turnedIndoor (member : slotId ∈ turnedIndoor user db after) :
    ¬ Indoor db slotId ∧ Indoor after slotId := by
  obtain ⟨slot, chosen, rfl⟩ := List.mem_map.mp member
  obtain ⟨listed, turned⟩ := List.mem_filter.mp chosen
  obtain ⟨-, outdoor, indoor⟩ := of_decide_eq_true turned
  exact ⟨not_indoor_of_outdoor listed outdoor, indoor⟩

theorem turnedIndoor_eq_nil (kept : ∀ slotId, Indoor after slotId → Indoor db slotId) :
    turnedIndoor user db after = [] := by
  apply List.eq_nil_iff_forall_not_mem.mpr
  intro slotId member
  obtain ⟨outdoor, indoor⟩ := not_indoor_of_mem_turnedIndoor member
  exact outdoor (kept slotId indoor)

def Upgraded (body : CreateBreedPairDto) (slot : BreedSlot) : Prop :=
  body.upgradeSlot = some true ∧ body.gameItemId = some GameItem.FARMER_PASS ∧
    slot.type = .OUTDOOR

theorem turnedIndoor_convert {slot : BreedSlot} (listed : slot ∈ db.breedSlot.rows)
    (outdoor : slot.type = .OUTDOOR) :
    turnedIndoor user db
        (db.updateBreedSlot (fun other => other.id = slot.id) (.type .INDOOR)) =
      if slot.userAddress = user then [slot.id] else [] := by
  have chosen : ∀ other ∈ db.breedSlot.rows,
      decide (other.userAddress = user ∧ other.type = .OUTDOOR ∧
        Indoor (db.updateBreedSlot (fun other => other.id = slot.id)
          (.type .INDOOR)) other.id) =
      (decide (other.userAddress = user) && decide (other.id = slot.id)) := by
    intro other member
    rw [← Bool.decide_and, decide_eq_decide, indoor_convert]
    constructor
    · intro turned
      obtain ⟨owned, open_air, before | ⟨row, -, named, same⟩⟩ := turned
      · exact absurd before (not_indoor_of_outdoor member open_air)
      · exact ⟨owned, same.symm.trans (of_decide_eq_true named)⟩
    · intro same
      obtain ⟨owned, named⟩ := same
      obtain rfl := db.breedSlot.eq_of_key_eq member listed named
      exact ⟨owned, outdoor, .inr ⟨other, member, decide_eq_true rfl, rfl⟩⟩
  unfold turnedIndoor
  rw [List.filter_congr chosen, ← List.filter_filter, db.breedSlot.filter_key listed]
  by_cases own : slot.userAddress = user
  · rw [if_pos own, List.filter_singleton, decide_eq_true own]
    rfl
  · rw [if_neg own, List.filter_singleton, decide_eq_false own]
    rfl

end Slots

section Steps

variable {app : App} {admitted : Oracle → Prop} {db after : Db} {user : Address}
  {request : Request} {response : Except Failure Response} {slotId : Int}

theorem debit_of_user {exchange : Exchange} (same : after.user = db.user) :
    debit user ⟨db, exchange, after⟩ = 0 := by
  rw [debit, Points.book_congr same, sub_self]

/-- What the grant of a pair does to the slots of a user: the slot of the pair turns
indoor, or nothing does. -/
theorem freeSlots_createPair {req : Req} {body : CreateBreedPairDto} {slot : BreedSlot}
    {metadatas : List BudWithId} (granted : PairGranted admitted db req body slot metadatas)
    (unspent : after.user = db.user)
    (sameCount : indoorSlots user after = indoorSlots user (db.upgradeSlot body slot))
    (sameSlots : ∀ slotId, Indoor after slotId ↔ Indoor (db.upgradeSlot body slot) slotId) :
    (upgrades user ⟨db, ⟨.createPair req body, response⟩, after⟩ = true ↔
        req.user = user ∧ Upgraded body slot) ∧
      (freeSlots user ⟨db, ⟨.createPair req body, response⟩, after⟩).length =
        if upgrades user ⟨db, ⟨.createPair req body, response⟩, after⟩ then 1 else 0 := by
  have owner : slot.userAddress = req.user := (of_decide_eq_true granted.free).1
  have freed : freeSlots user ⟨db, ⟨.createPair req body, response⟩, after⟩ =
      turnedIndoor user db (db.upgradeSlot body slot) := by
    rw [freeSlots, if_pos (debit_of_user unspent)]
    exact turnedIndoor_congr sameSlots
  have counted : upgrades user ⟨db, ⟨.createPair req body, response⟩, after⟩ = true ↔
      req.user = user ∧ indoorSlots user db < indoorSlots user (db.upgradeSlot body slot) := by
    rw [upgrades, decide_eq_true_iff, ← sameCount]
  by_cases upgraded : Upgraded body slot
  · have updated : db.upgradeSlot body slot =
        db.updateBreedSlot (fun other => other.id = slot.id) (.type .INDOOR) :=
      if_pos upgraded
    have converted := @indoorSlots_convert db user slot granted.listed (by
      rw [upgraded.2.2]
      decide)
    rw [← updated, owner] at converted
    have turned := @turnedIndoor_convert db user slot granted.listed upgraded.2.2
    rw [← updated, owner] at turned
    by_cases own : req.user = user
    · rw [if_pos own] at converted turned
      have moves := counted.mpr ⟨own, by omega⟩
      refine ⟨iff_of_true moves ⟨own, upgraded⟩, ?_⟩
      rw [freed, turned, moves]
      rfl
    · have stays := mt counted.mp fun moved => own moved.1
      refine ⟨iff_of_false stays fun both => own both.1, ?_⟩
      rw [freed, turned, if_neg own, if_neg stays]
      rfl
  · have kept : db.upgradeSlot body slot = db := if_neg upgraded
    rw [kept] at counted freed
    have stays := mt counted.mp fun moved => lt_irrefl _ moved.2
    refine ⟨iff_of_false stays fun both => upgraded both.2, ?_⟩
    rw [freed, turnedIndoor_eq_nil fun _ indoor => indoor, if_neg stays]
    rfl

theorem indoor_insertPair (data : BreedPairCreate) (now : Time) :
    Indoor (db.insertPair data now) slotId ↔ Indoor db slotId := by
  have used := @indoor_updateBreedSlot (db.createBreedPair data now) slotId (.isUsed true)
    (fun _ => rfl) fun slot => slot.id = data.slotId
  exact used.trans (indoor_of_breedSlot rfl)

theorem indoor_levelStarted {pair : BreedPair}
    (started : LevelStarted app db pair after) : Indoor after slotId ↔ Indoor db slotId :=
  indoor_of_breedSlot started.breedSlot

theorem indoorSlots_started {pair : BreedPair}
    (started : LevelStarted app db pair after) :
    indoorSlots user after = indoorSlots user db :=
  indoorSlots_of_breedSlot started.breedSlot

theorem freeSlots_created {req : Req} {body : CreateBreedPairDto} {slot : BreedSlot}
    {metadatas : List BudWithId} {rate : Rat} {now : Time} {pair : BreedPair}
    (granted : PairGranted admitted db req body slot metadatas)
    (started : LevelStarted app
      ((db.upgradeSlot body slot).insertPair (pairData req body rate) now) pair after) :
    (upgrades user ⟨db, ⟨.createPair req body, response⟩, after⟩ = true ↔
        req.user = user ∧ Upgraded body slot) ∧
      (freeSlots user ⟨db, ⟨.createPair req body, response⟩, after⟩).length =
        if upgrades user ⟨db, ⟨.createPair req body, response⟩, after⟩ then 1 else 0 := by
  refine freeSlots_createPair granted ?_ ?_ ?_
  · exact started.user.trans (db.user_upgradeSlot _ _)
  · exact (indoorSlots_started started).trans
      (indoorSlots_updateBreedSlot (fun _ => rfl) _)
  · exact fun _ => (indoor_levelStarted started).trans (indoor_insertPair _ _)

theorem freeSlots_self (exchange : Exchange) : freeSlots user ⟨db, exchange, db⟩ = [] := by
  unfold freeSlots
  split
  · rw [turnedIndoor_eq_nil fun _ indoor => indoor, ite_self]
  · rfl

theorem upgrades_self (exchange : Exchange) :
    upgrades user ⟨db, exchange, db⟩ = false := by
  unfold upgrades
  split
  · exact decide_eq_false fun moved => lt_irrefl _ moved.2
  · rfl

/-- A pass is used by a granted `createPair` only, and then for one slot. -/
theorem passUse_of_outcome (outcome : Outcome app admitted db request response after)
    (user : Address) :
    (freeSlots user ⟨db, ⟨request, response⟩, after⟩ = [] ∧
        upgrades user ⟨db, ⟨request, response⟩, after⟩ = false) ∨
      ∃ req body slot metadatas, request = .createPair req body ∧
        PairGranted admitted db req body slot metadatas ∧
        (upgrades user ⟨db, ⟨request, response⟩, after⟩ = true ↔
          req.user = user ∧ Upgraded body slot) ∧
        (freeSlots user ⟨db, ⟨request, response⟩, after⟩).length =
          if upgrades user ⟨db, ⟨request, response⟩, after⟩ then 1 else 0 := by
  cases outcome with
  | refused => exact .inl ⟨freeSlots_self _, upgrades_self _⟩
  | nothingInvalidated => exact .inl ⟨freeSlots_self _, upgrades_self _⟩
  | pairRejected granted =>
      refine .inr ⟨_, _, _, _, rfl, granted, freeSlots_createPair granted ?_ rfl ?_⟩
      · exact db.user_upgradeSlot _ _
      · exact fun _ => Iff.rfl
  | levelClashed granted =>
      refine .inr ⟨_, _, _, _, rfl, granted, freeSlots_createPair granted ?_ ?_ ?_⟩
      · exact db.user_upgradeSlot _ _
      · exact indoorSlots_updateBreedSlot (fun _ => rfl) _
      · exact fun _ => indoor_insertPair _ _
  | pairCreated granted started =>
      exact .inr ⟨_, _, _, _, rfl, granted, freeSlots_created granted started⟩
  | _ => exact .inl ⟨rfl, rfl⟩

theorem length_freeSlots (outcome : Outcome app admitted db request response after)
    (user : Address) :
    (freeSlots user ⟨db, ⟨request, response⟩, after⟩).length =
      if upgrades user ⟨db, ⟨request, response⟩, after⟩ then 1 else 0 := by
  rcases passUse_of_outcome outcome user with
    ⟨none, idle⟩ | ⟨req, body, slot, metadatas, -, -, -, counted⟩
  · rw [none, idle]
    rfl
  · exact counted

theorem indoor_closePair (pair : BreedPair) (status : BreedPairStatus) :
    Indoor (db.closePair pair status) slotId ↔ Indoor db slotId := by
  have freed := @indoor_updateBreedSlot db slotId (.isUsed false) (fun _ => rfl)
    fun slot => slot.id = pair.slotId
  exact (indoor_of_breedSlot rfl).trans freed

theorem indoor_finalized {pair : BreedPair} {level : BreedLevel} {buds : List BreedBud}
    {male female : Int} {address : Address}
    (next : ((db.evaluateLevel app level buds male female).closePair pair
      .COMPLETED).NextSlotOpened address after) :
    Indoor after slotId ↔ Indoor db slotId := by
  have closed := @indoor_closePair (db.evaluateLevel app level buds male female) slotId
    pair .COMPLETED
  rcases next with ⟨-, rfl⟩ | ⟨slot, -, -, rfl⟩
  · exact closed
  · exact (indoor_updateBreedSlot (fun _ => rfl) _).trans closed

theorem Indoor.upgradeSlot (indoor : Indoor db slotId) (body : CreateBreedPairDto)
    (slot : BreedSlot) : Indoor (db.upgradeSlot body slot) slotId := by
  unfold Db.upgradeSlot
  split
  · exact (indoor_convert _).mpr (.inl indoor)
  · exact indoor

theorem Indoor.outcome (indoor : Indoor db slotId)
    (outcome : Outcome app admitted db request response after) : Indoor after slotId := by
  cases outcome with
  | loggedIn =>
      exact (indoor_of_breedSlot ((Db.sameBut_upsertUser _ _ _ _).breedSlot
        (by decide))).mpr (indoor.addSlots _ _)
  | slotOpened listed own closed charged =>
      have paid := (indoor_of_breedSlot charged.breedSlot).mpr indoor
      exact (indoor_updateBreedSlot (fun _ => rfl) _).mpr paid
  | slotConverted listed own outdoor charged =>
      have paid := (indoor_of_breedSlot charged.breedSlot).mpr indoor
      exact (indoor_convert _).mpr (.inl paid)
  | landPurchased charged =>
      have paid := (indoor_of_breedSlot charged.breedSlot).mpr indoor
      exact paid.addSlots _ _
  | pairRejected granted => exact indoor.upgradeSlot _ _
  | levelClashed granted => exact (indoor_insertPair _ _).mpr (indoor.upgradeSlot _ _)
  | pairCreated granted started =>
      apply (indoor_levelStarted started).mpr
      exact (indoor_insertPair _ _).mpr (indoor.upgradeSlot _ _)
  | levelCharged granted charged =>
      exact (indoor_of_breedSlot charged.breedSlot).mpr indoor
  | levelEvaluated granted charged =>
      exact (indoor_of_breedSlot charged.breedSlot).mpr indoor
  | leveledUp granted charged evaluable started =>
      apply (indoor_levelStarted started).mpr
      exact (indoor_of_breedSlot charged.breedSlot).mpr indoor
  | othersPairsFailed selected =>
      exact (indoor_updateBreedSlot (fun _ => rfl) _).mpr indoor
  | ownersPairsFailed selected =>
      exact (indoor_updateBreedSlot (fun _ => rfl) _).mpr indoor
  | @keySlotsDeleted body slots deletedAt text deletable selected =>
      have deleted := (@indoor_updateBreedSlot db slotId (.deletedAt deletedAt)
        (fun _ => rfl) fun slot => slot.id ∈ slots.map BreedSlot.id).mpr indoor
      exact (indoor_of_breedSlot rfl).mpr deleted
  | pairCanceled listed own answered =>
      exact (indoor_updateBreedSlot (fun _ => rfl) _).mpr indoor
  | finalizeLost granted => exact (indoor_closePair _ _).mpr indoor
  | finalizeUnsigned granted next => exact (indoor_finalized next).mpr indoor
  | finalizeWon granted next => exact (indoor_finalized next).mpr indoor
  | _ => exact indoor

end Steps

def exchanged (step : Transition Db Visit) : Transition Db Exchange :=
  ⟨step.source, step.label.exchange, step.target⟩

/-- All slots of the user that `createPair` has ever turned indoor without taking
points. -/
def freelyConverted (user : Address) (steps : List (Transition Db Visit)) : Finset Int :=
  (steps.flatMap fun step => freeSlots user (exchanged step)).toFinset

/-- The chain lets `createPair` turn the slot of the request indoor with a pass. -/
structure Upgradable (chain : Chain) (db : Db) (req : Req) (body : CreateBreedPairDto) :
    Prop where
  item : ItemGranted chain req body
  pair : ∃ slot metadatas,
    PairGranted chain.Reported db req body slot metadatas ∧ Upgraded body slot

/-- How many indoor slots of the user no `convertIndoor` has paid for. -/
def unpaidSlots (user : Address) (earlier : List (Transition Db Visit)) (db : Db) : Int :=
  indoorSlots user db - earlier.countP fun step => converts user (exchanged step)

/-- The user has a pass turn a slot indoor although the indoor slots not paid for are
already as many as the passes of the user. -/
def Reuses (user : Address) (earlier : List (Transition Db Visit))
    (step : Transition Db Visit) : Prop :=
  ∃ req body, step.label.exchange.request = .createPair req body ∧ req.user = user ∧
    Upgradable step.label.chain step.source req body ∧
    step.label.chain.gameItemBalance user GameItem.FARMER_PASS ≤
      unpaidSlots user earlier step.source

section Runs

variable {app : App} {user : Address} {final : Db} {steps : List (Transition Db Visit)}

theorem freelyConverted_append (later : List (Transition Db Visit)) :
    freelyConverted user (steps ++ later) =
      freelyConverted user steps ∪ freelyConverted user later := by
  rw [freelyConverted, List.flatMap_append, List.toFinset_append, freelyConverted,
    freelyConverted]

theorem freelyConverted_subset (earlier later : List (Transition Db Visit)) :
    freelyConverted user earlier ⊆ freelyConverted user (earlier ++ later) := by
  rw [freelyConverted_append]
  exact Finset.subset_union_left

theorem freelyConverted_snoc (step : Transition Db Visit) :
    freelyConverted user (steps ++ [step]) =
      freelyConverted user steps ∪ (freeSlots user (exchanged step)).toFinset := by
  rw [freelyConverted_append]
  congr 1
  rw [freelyConverted, List.flatMap_singleton]

theorem mem_freeSlots {step : Transition Db Exchange} {slotId : Int}
    (member : slotId ∈ freeSlots user step) :
    ¬ Indoor step.source slotId ∧ Indoor step.target slotId := by
  unfold freeSlots at member
  split at member
  · split at member
    · exact not_indoor_of_mem_turnedIndoor member
    · cases member
  · cases member

theorem nodup_freeSlots (step : Transition Db Exchange) : (freeSlots user step).Nodup := by
  unfold freeSlots
  split
  · split
    · have chosen : (turnedIndoor user step.source step.target).Sublist
          (step.source.breedSlot.rows.map BreedSlot.id) := List.filter_sublist.map _
      exact chosen.nodup step.source.breedSlot.nodup
    · exact List.nodup_nil
  · exact List.nodup_nil

/-- What the indoor slots of a user are: paid for, or converted freely. -/
structure Housed (user : Address) (steps : List (Transition Db Visit)) (db : Db) :
    Prop where
  indoor : ∀ slotId ∈ freelyConverted user steps, Indoor db slotId
  unpaid : unpaidSlots user steps db = (freelyConverted user steps).card

theorem Housed.card_snoc {db after : Db} {visit : Visit} (housed : Housed user steps db)
    (handled : Handles app visit.chain.Reported db visit.exchange after) :
    (freelyConverted user (steps ++ [⟨db, visit, after⟩])).card =
      (freelyConverted user steps).card +
        if upgrades user ⟨db, visit.exchange, after⟩ then 1 else 0 := by
  have fresh : Disjoint (freelyConverted user steps)
      (freeSlots user (exchanged ⟨db, visit, after⟩)).toFinset := by
    rw [Finset.disjoint_left]
    intro slotId old new
    exact (mem_freeSlots (List.mem_toFinset.mp new)).1 (housed.indoor slotId old)
  rw [freelyConverted_snoc, Finset.card_union_of_disjoint fresh,
    List.toFinset_card_of_nodup (nodup_freeSlots _)]
  exact congrArg _ (length_freeSlots (outcome_of_handles handled) user)

theorem Housed.step {db after : Db} {visit : Visit} (housed : Housed user steps db)
    (handled : Handles app visit.chain.Reported db visit.exchange after) :
    Housed user (steps ++ [⟨db, visit, after⟩]) after where
  indoor := by
    intro slotId converted
    rw [freelyConverted_snoc, Finset.mem_union] at converted
    cases converted with
    | inl old => exact (housed.indoor slotId old).outcome (outcome_of_handles handled)
    | inr new => exact (mem_freeSlots (List.mem_toFinset.mp new)).2
  unpaid := by
    have slots := @indoorSlots_of_outcome _ _ _ _ user _ _ (outcome_of_handles handled)
    have before := housed.unpaid
    rw [housed.card_snoc handled, unpaidSlots, slots, List.countP_append,
      List.countP_singleton]
    unfold unpaidSlots at before
    push_cast
    rw [← before, exchanged]
    ring

/-- The run lemma: each free conversion is of another slot. -/
theorem housed_of_run (run : ChainRun app .empty steps final) (user : Address) :
    Housed user steps final := by
  induction run with
  | nil =>
      constructor
      · intro slotId converted
        exact absurd converted (Finset.notMem_empty slotId)
      · rfl
  | snoc earlier handled induction => exact induction.step handled

theorem granted_of_upgrades {db after : Db} {visit : Visit}
    (handled : Handles app visit.chain.Reported db visit.exchange after)
    (moved : upgrades user ⟨db, visit.exchange, after⟩ = true) :
    ∃ req body, visit.exchange.request = .createPair req body ∧ req.user = user ∧
      Upgradable visit.chain db req body := by
  rcases passUse_of_outcome (outcome_of_handles handled) user with
    ⟨-, idle⟩ | ⟨req, body, slot, metadatas, asked, granted, used, -⟩
  · rw [moved] at idle
    cases idle
  · obtain ⟨own, upgraded⟩ := used.mp moved
    have changed : after ≠ db := by
      rintro rfl
      rw [upgrades_self] at moved
      cases moved
    obtain ⟨chain, request, response⟩ := visit
    obtain rfl : request = .createPair req body := asked
    have item := ensures_itemGranted req body _ _ handled changed
    exact ⟨req, body, rfl, own, item, slot, metadatas, granted, upgraded⟩

theorem upgrades_of_accepted {chain : Chain} {db after : Db} {req : Req}
    {body : CreateBreedPairDto} {pair : BreedPair}
    (upgradable : Upgradable chain db req body)
    (handled : Handles app chain.Reported db ⟨.createPair req body, .ok (.pair pair)⟩
      after) :
    upgrades req.user ⟨db, ⟨.createPair req body, .ok (.pair pair)⟩, after⟩ = true := by
  obtain ⟨-, slot, metadatas, granted, upgraded⟩ := upgradable
  cases outcome_of_handles handled with
  | pairCreated again started =>
      apply (freeSlots_created again started).1.mpr
      have same := db.breedSlot.eq_of_key_eq granted.listed again.listed
        ((of_decide_eq_true granted.free).2.2.2.1.trans
          (of_decide_eq_true again.free).2.2.2.1.symm)
      rw [← same]
      exact ⟨rfl, upgraded⟩

/-- While the passes of a user on chain do not change, the slots converted freely never
outnumber them, unless the user reuses a pass; and an accepted request that reuses one
always makes them do so. -/
theorem passes_back_slots {balance : Nat} (run : ChainRun app .empty steps final)
    (constant : ∀ step ∈ steps,
      step.label.chain.gameItemBalance user GameItem.FARMER_PASS = balance) :
    (Everywhere (fun earlier step => ¬ Reuses user earlier step) steps →
      (freelyConverted user steps).card ≤ balance) ∧
    ∀ earlier step later, steps = earlier ++ step :: later → Reuses user earlier step →
      ∀ pair, step.label.exchange.response = .ok (.pair pair) →
        balance < (freelyConverted user steps).card := by
  constructor
  · intro careful
    have good : Everywhere (fun earlier step => ¬ Reuses user earlier step ∧
        step.label.chain.gameItemBalance user GameItem.FARMER_PASS = balance) steps := by
      intro earlier step later split
      exact ⟨careful earlier step later split,
        everywhere_of_forall constant earlier step later split⟩
    refine @History.induct _ _ _ _ _ _
      (fun steps _ => (freelyConverted user steps).card ≤ balance) _ run good ?_ ?_
    · exact Nat.zero_le balance
    · intro steps current visit target earlier within handled atStep
      have housed := housed_of_run earlier user
      rw [housed.card_snoc handled]
      split
      · next moved =>
          obtain ⟨req, body, asked, own, upgradable⟩ := granted_of_upgrades handled moved
          obtain ⟨new, same⟩ := atStep
          by_contra exceeded
          refine new ⟨req, body, asked, own, upgradable, ?_⟩
          rw [same, housed.unpaid]
          exact_mod_cast Nat.le_of_lt_succ (not_le.mp exceeded)
      · exact within
  · intro earlier step later split reuses pair accepted
    obtain ⟨reached, handled⟩ := run.everywhere_reached earlier step later split
    have housed := housed_of_run reached user
    obtain ⟨req, body, asked, own, upgradable, full⟩ := reuses
    have listed : step ∈ steps := by
      rw [split]
      exact List.mem_append_right _ List.mem_cons_self
    rw [constant step listed, housed.unpaid] at full
    obtain ⟨source, ⟨chain, request, response⟩, target⟩ := step
    subst asked accepted own
    have more := housed.card_snoc handled
    rw [upgrades_of_accepted upgradable handled, if_pos rfl] at more
    have exceeds : balance < (freelyConverted req.user (earlier ++
        [⟨source, ⟨chain, .createPair req body, .ok (.pair pair)⟩, target⟩])).card := by
      rw [more]
      exact Nat.lt_succ_of_le (by exact_mod_cast full)
    apply exceeds.trans_le
    apply Finset.card_le_card
    rw [split.trans (List.append_cons _ _ _)]
    exact freelyConverted_subset _ _

end Runs

section Examples

/-- `alice`, who holds one farmer pass, has it turn her first slot indoor, cancels the
pair and has it turn her second slot indoor. -/
def upgradeScript : List (Request × Oracle) :=
  [(.addBreedingPoint ⟨⟨"alice", "deposit", 1, "goerli"⟩, 100000⟩,
      .agreeable "alice" (period 0)),
    (.openSlot alice ⟨2⟩, .agreeable "alice" (period 0)),
    (.createPair alice ⟨1, 2, 1, some GameItem.FARMER_PASS, some true⟩,
      .agreeable "alice" (period 0)),
    (.cancelBreeding alice ⟨1⟩, .agreeable "alice" (period 0)),
    (.createPair alice ⟨1, 2, 2, some GameItem.FARMER_PASS, some true⟩,
      .agreeable "alice" (period 0))]

def upgradeSteps (count : Nat) : List (Transition Db Visit) :=
  ([loginStep] ++ (serve (liveApp .goerli) (upgradeScript.take count) signedUp).1).map
    allAlices.visited

theorem run_upgradeScript (count : Nat) :
    ChainRun (liveApp .goerli) .empty (upgradeSteps count)
      (serve (liveApp .goerli) (upgradeScript.take count) signedUp).2 := by
  apply chainRun_served
  intro entry member
  have listed := List.mem_of_mem_take member
  simp only [upgradeScript, List.mem_cons, List.not_mem_nil, or_false] at listed
  rcases listed with rfl | rfl | rfl | rfl | rfl
  all_goals exact ⟨_, rfl⟩

theorem passes_back_slots_once :
    freelyConverted "alice" (upgradeSteps 3) = {1} ∧
      (freelyConverted "alice" (upgradeSteps 3)).card ≤ 1 := by
  refine ⟨by decide +kernel, ?_⟩
  refine (passes_back_slots (run_upgradeScript 3)
    (List.forall_mem_map.mpr fun _ _ => rfl)).1 ?_
  have outdoor : ∀ step ∈ upgradeSteps 3, indoorSlots "alice" step.source = 0 := by
    decide +kernel
  intro earlier step later split reuses
  have listed : step ∈ upgradeSteps 3 := by
    rw [split]
    exact List.mem_append_right _ List.mem_cons_self
  obtain ⟨req, body, asked, own, upgradable, full⟩ := reuses
  obtain ⟨served, -, rfl⟩ := List.mem_map.mp listed
  rw [unpaidSlots, outdoor _ listed] at full
  change (1 : Int) ≤ _ at full
  omega

/-- The second slot is upgraded with the same pass. -/
theorem pass_upgrades_twice :
    ¬ ∀ (app : App) (steps : List (Transition Db Visit)) (final : Db) (user : Address)
        (balance : Nat),
      ChainRun app .empty steps final →
        (∀ step ∈ steps,
          step.label.chain.gameItemBalance user GameItem.FARMER_PASS = balance) →
        (freelyConverted user steps).card ≤ balance := by
  intro bounded
  have twice := bounded _ _ _ "alice" 1 (run_upgradeScript 5)
    (List.forall_mem_map.mpr fun _ _ => rfl)
  exact absurd twice (by decide +kernel)

end Examples

end BudBreeding.Possession
