import BudBreeding.Lifecycle.Evaluation

namespace BudBreeding.Lifecycle

open Data Program Backend

/-! The rate that `finalizeBreeding` throws the dice with, and the requests it
comes from. -/

section Handler

variable {app : App}

/-- `finalizeBreeding` up to the dice: the pair and its final rate. -/
def beforeDice (app : App) (req : Req) (body : BreedFinalizeDto) :
    Handler (BreedPair × Rat) := do
  let pair ← Prisma.breedPairFindFirst
    (BreedController.ownPair req.user body.pairId)
  match pair with
  | none => .throw (NotFoundError "Breed pair not found")
  | some pair => do
      Prog.throwIf (pair.currentLevel < app.config.targetLevel)
        (BadRequestError "Breed target level not reached")
      let _ ← BreedService.evaluateBreedLevel app pair body.maleBudId
        body.femaleBudId
      let bonus ← Prisma.breedLevelSumBonusRate
        (BreedService.finalizedLevels pair.id)
      return (pair, pair.rate + bonus)

/-- `finalizeBreeding` from the dice on. -/
def afterDice (req : Req) (body : BreedFinalizeDto) (pair : BreedPair)
    (result : Option Bud) : Handler (Option BreedController.Gen1Reward) := do
  let _ ← Prisma.breedSlotUpdate pair.slotId (.isUsed false)
  let _ ← Prisma.breedPairUpdate body.pairId
    (.status (if result.isSome then .COMPLETED else .FAILED))
  match result with
  | some data => do
      let slot ← BreedController.openNextSlot req.user
      let gen1Bud ← BudService.issueGen1BudMint req.user data (some pair.id)
      return some ⟨gen1Bud, slot⟩
  | none => return none

theorem finalizeBreeding_eq (req : Req) (body : BreedFinalizeDto) :
    BreedController.finalizeBreeding app req body =
      beforeDice app req body >>= fun reached =>
        BudService.diceGen1Bud app reached.2 >>= afterDice req body reached.1 := by
  rw [BreedController.finalizeBreeding, beforeDice]
  simp only [Prog.bind_assoc]
  apply bind_congr
  intro pair
  cases pair with
  | none => rfl
  | some pair =>
      simp only [BreedService.finalizeBreeding, Prog.bind_assoc]
      rfl

variable {admitted : Oracle → Prop} {db : Db}

/-- The rate is read off the levels that the request leaves. -/
theorem ensures_beforeDice (req : Req) (body : BreedFinalizeDto) :
    (surroundings admitted).Ensures (beforeDice app req body)
      (fun result after => ∀ pair rate, result = .ok (pair, rate) →
        ∃ level buds, FinalizeGranted app admitted db req body pair level buds ∧
          after = db.evaluateLevel app level buds body.maleBudId body.femaleBudId ∧
          rate = finalRate after pair) db := by
  refine (returns_breedPairFindFirst _).ensures_bind ?_
  intro answer looked
  obtain ⟨oracle, -, rfl⟩ := looked
  cases found : oracle.findFirst db.breedPair.rows
      (BreedController.ownPair req.user body.pairId) with
  | none =>
      refine World.ensures_throw.mpr ?_
      intro pair rate impossible
      cases impossible
  | some pair =>
      obtain ⟨listed, own⟩ := Oracle.findFirst_eq_some found
      refine World.reads_throwIf.ensures_bind ?_ ?_
      · intro error other rate impossible
        cases impossible
      intro _ reached
      refine ensures_evaluateBreedLevel ?_ ?_ ?_
      · intro _ error other rate impossible
        cases impossible
      · intro _ _ _ _ error other rate impossible
        cases impossible
      · intro level buds evaluable
        refine (returns_ask (.breedLevelSumBonusRate _) rfl).ensures_bind ?_
        intro bonus summed
        obtain ⟨_, -, rfl⟩ := summed
        refine World.ensures_pure.mpr ?_
        intro other rate answered
        cases answered
        exact ⟨level, buds, ⟨listed, own, not_lt.mp reached, evaluable⟩, rfl, rfl⟩

end Handler

/-- Two buds that a request chooses for a level of its pair. -/
structure Pick where
  level : Int
  maleBudId : Int
  femaleBudId : Int

/-- The pick of an accepted `levelUp` of the pair. -/
def picked (pairId : Int) (step : Transition Db Exchange) : Option Pick :=
  match step.label.request, step.label.response with
  | .levelBreedingUp _ body, .ok (.status _) =>
      if body.pairId = pairId then
        (step.source.breedPair.find pairId).map fun pair =>
          ⟨pair.currentLevel, body.maleBudId, body.femaleBudId⟩
      else none
  | _, _ => none

/-- The `createPair` that was answered with the pair. -/
def begins (pairId : Int) (step : Transition Db Exchange) : Bool :=
  match step.label.request, step.label.response with
  | .createPair _ _, .ok (.pair pair) => pair.id = pairId
  | _, _ => false

/-- What the requests chose for the levels of a pair, up to its finalization. -/
def chosenBy (app : App) (steps : List (Transition Db Exchange))
    (body : BreedFinalizeDto) : List Pick :=
  steps.filterMap (picked body.pairId) ++
    [⟨app.config.targetLevel, body.maleBudId, body.femaleBudId⟩]

def rateOf (app : App) (db : Db) (budId : Int) : Rat :=
  (db.breedBud.find budId).elim 0 (breedRate app)

namespace Pick

def gain (app : App) (db : Db) (pick : Pick) : Rat :=
  rateOf app db pick.maleBudId + rateOf app db pick.femaleBudId

/-- The pick is a male and a female bud of that level of the pair. -/
def Stored (db : Db) (pairId : Int) (pick : Pick) : Prop :=
  ∃ level ∈ db.breedLevel.rows, level.pairId = pairId ∧ level.level = pick.level ∧
    ∃ male female, Choice db level pick.maleBudId pick.femaleBudId male female

end Pick

def StartRate (app : App) (admitted : Oracle → Prop) (db : Db)
    (body : CreateBreedPairDto) (rate : Rat) : Prop :=
  ∃ slot ∈ db.breedSlot.rows, slot.id = body.slotId ∧ ∃ upgraded middle,
    (surroundings admitted).Runs (BreedController.upgradeSlot body slot) db
      (.ok upgraded) middle ∧
    (surroundings admitted).Runs (BreedService.getStartSuccessRate app body.maleBudId
      body.femaleBudId body.gameItemId upgraded) middle (.ok rate) middle

section Creation

variable {app : App} {admitted : Oracle → Prop} {db after : Db}

theorem ensures_answer {α β : Type} {program : Handler α} {value : β} :
    (surroundings admitted).Ensures (program >>= fun _ => pure value)
      (fun result _ => ∀ answer, result = .ok answer → answer = value) db := by
  rw [World.ensures_bind]
  intro result middle _
  cases result with
  | error error =>
      intro answer impossible
      cases impossible
  | ok _ =>
      refine World.ensures_pure.mpr ?_
      intro answer same
      cases same
      rfl

theorem ensures_placePair_rate (req : Req) (body : CreateBreedPairDto) :
    (surroundings admitted).Ensures (BreedController.placePair app req body)
      (fun result _ => ∀ placed, result = .ok placed →
        StartRate app admitted db body placed.2.rate) db := by
  have refused : ∀ error : Failure, ∀ placed : List BudWithId × BreedPair,
      Except.error error = Except.ok placed →
        StartRate app admitted db body placed.2.rate := by
    intro error placed impossible
    cases impossible
  refine (reads_verifyBudPairs _ _ _ _).ensures_bind refused ?_
  intro metadatas _
  refine (reads_checkGameItem _ _).ensures_bind refused ?_
  intro _ _
  refine (returns_breedPairCount _).ensures_bind ?_
  intro conflicts _
  refine World.reads_throwIf.ensures_bind refused ?_
  intro _ _
  refine (returns_breedSlotFindFirst _).ensures_bind ?_
  intro answer looked
  obtain ⟨oracle, -, rfl⟩ := looked
  cases found : oracle.findFirst db.breedSlot.rows
      (LandService.openBreedSlotById req.user body.slotId) with
  | none => exact World.ensures_throw.mpr (refused _)
  | some slot =>
      obtain ⟨listed, free⟩ := Oracle.findFirst_eq_some found
      have identified := (of_decide_eq_true free).2.2.2.1
      refine World.reads_throwIf.ensures_bind refused ?_
      intro _ _
      rw [World.ensures_bind]
      intro upgrade middle upgrading
      cases upgrade with
      | error error => exact refused error
      | ok upgraded =>
          refine World.ensures_bind.mpr ?_
          intro computed last computing
          obtain ⟨rfl, rate, rfl, -⟩ := returns_getStartSuccessRate app body.maleBudId
            body.femaleBudId body.gameItemId upgraded _ _ computing
          have started : StartRate app admitted db body rate :=
            ⟨slot, listed, identified, upgraded, _, upgrading, computing⟩
          refine ensures_breedPairCreate (fun _ => refused _) ?_
          intro _ now _
          refine World.ensures_pure.mpr ?_
          intro placed same
          cases same
          exact started

theorem startRate_of_created {req : Req} {body : CreateBreedPairDto}
    {created : BreedPair}
    (handled : Handles app admitted db
      ⟨.createPair req body, .ok (.pair created)⟩ after) :
    StartRate app admitted db body created.rate := by
  have every : (surroundings admitted).Ensures
      (BreedController.createPair app req body)
      (fun result _ => ∀ pair, result = .ok pair →
        StartRate app admitted db body pair.rate) db := by
    rw [createPair_eq, World.ensures_bind]
    refine (ensures_placePair_rate req body).mono ?_
    intro result middle placed
    cases result with
    | error error =>
        intro pair impossible
        cases impossible
    | ok placing =>
        have answered : (surroundings admitted).Ensures
            (BreedController.startPair app body placing)
            (fun result _ => ∀ pair, result = .ok pair → pair = placing.2) middle := by
          rw [BreedController.startPair, ← Prog.bind_assoc]
          exact ensures_answer
        refine answered.mono ?_
        intro result _ same pair returned
        rw [same pair returned]
        exact placed placing rfl
  have checked : (surroundings admitted).Ensures (handle app (.createPair req body))
      (fun response _ => ∀ pair, response = .ok (.pair pair) →
        StartRate app admitted db body pair.rate) db := by
    refine World.reads_throwIf.ensures_bind ?_ ?_
    · intro error pair impossible
      cases impossible
    · intro _ _
      rw [World.ensures_map]
      refine every.mono ?_
      intro result _ rates pair answered
      cases result with
      | error error => cases answered
      | ok value =>
          cases answered
          exact rates _ rfl
  exact checked _ _ handled created rfl

end Creation

def Rung.pick (rung : Rung) : Pick :=
  ⟨rung.level.level, rung.level.maleBreedBudId.getD 0,
    rung.level.femaleBreedBudId.getD 0⟩

/-- The picks that the levels below the counter of the pair have on record. -/
def recorded (db : Db) (pair : BreedPair) : List Pick :=
  ((ladder db pair.id).filter fun rung => rung.level.level < pair.currentLevel).map
    Rung.pick

section Records

variable {app : App} {admitted : Oracle → Prop} {db after : Db} {pair other : BreedPair}
  {maleBudId femaleBudId : Int} {level : BreedLevel} {buds : List BreedBud}

theorem recorded_of_ladder (same : ladder after pair.id = ladder db pair.id) :
    recorded after pair = recorded db pair := by
  rw [recorded, same]
  rfl

/-- The rung of an evaluated level belongs to its pair. -/
theorem owner_of_rung {rung : Rung}
    (evaluable : Evaluable app admitted db pair maleBudId femaleBudId level buds)
    (member : rung ∈ ladder db other.id) (same : rung.level.id = level.id) :
    other.id = pair.id ∧ rung.level.level = pair.currentLevel := by
  obtain ⟨owner, number⟩ := of_decide_eq_true evaluable.current
  obtain ⟨listed, own, -⟩ := mem_ladder.mp member
  have row := db.breedLevel.eq_of_key_eq listed evaluable.listed same
  rw [row] at own ⊢
  exact ⟨own.symm.trans owner, number⟩

theorem ladder_evaluate_of_ne
    (evaluable : Evaluable app admitted db pair maleBudId femaleBudId level buds)
    (apart : other.id ≠ pair.id) :
    ladder (db.evaluateLevel app level buds maleBudId femaleBudId) other.id =
      ladder db other.id := by
  rw [Db.evaluateLevel, ladder_updateBreedLevel]
  conv_rhs => rw [← List.map_id (ladder db other.id)]
  apply List.map_congr_left
  intro rung member
  apply Rung.record_of_ne
  intro same
  exact apart (owner_of_rung evaluable member same).1

theorem recorded_evaluate
    (evaluable : Evaluable app admitted db pair maleBudId femaleBudId level buds) :
    recorded (db.evaluateLevel app level buds maleBudId femaleBudId) pair =
      recorded db pair := by
  rw [recorded, Db.evaluateLevel, ladder_updateBreedLevel, List.filter_map,
    List.map_map, recorded]
  have numbers : ((fun rung : Rung => decide (rung.level.level < pair.currentLevel)) ∘
      Rung.record level.id
        { bonusRate := (BreedService.evaluationOf app buds).bonusRate
          maleBreedBudId := maleBudId
          femaleBreedBudId := femaleBudId }) =
      fun rung : Rung => decide (rung.level.level < pair.currentLevel) := by
    funext rung
    rw [Function.comp_apply, Rung.record_number]
  rw [numbers]
  apply List.map_congr_left
  intro rung member
  obtain ⟨present, below⟩ := List.mem_filter.mp member
  rw [Function.comp_apply, Rung.record_of_ne]
  intro same
  have number := (owner_of_rung evaluable present same).2
  exact absurd number (of_decide_eq_true below).ne

/-- An evaluated ladder is what was on record, and the last pick on top. -/
theorem picks_evaluate (structured : LevelStructure app db pair)
    (evaluable : Evaluable app admitted db pair maleBudId femaleBudId level buds) :
    (ladder (db.evaluateLevel app level buds maleBudId femaleBudId) pair.id).map
        Rung.pick =
      recorded db pair ++ [⟨pair.currentLevel, maleBudId, femaleBudId⟩] := by
  have climb := (Structured.ready_evaluate structured evaluable).toClimb
  have begun := structured.begun
  have numbered := climb.numbered
  rw [← Int.sub_add_cancel pair.currentLevel 1, upward_succ (by omega),
    Int.sub_add_cancel] at numbered
  obtain ⟨front, top, split, below, last⟩ := List.map_eq_append_iff.mp numbered
  obtain ⟨rung, rfl, number⟩ := List.map_eq_singleton_iff.mp last
  have lower : ∀ other ∈ front, other.level.level < pair.currentLevel := by
    intro other member
    have bounds := mem_upward.mp (below ▸ List.mem_map_of_mem member)
    omega
  have kept : recorded db pair = front.map Rung.pick := by
    rw [← recorded_evaluate evaluable, recorded, split, List.filter_append,
      List.filter_eq_self.mpr, List.filter_eq_nil_iff.mpr, List.append_nil]
    · intro other member
      rw [List.mem_singleton.mp member, decide_eq_true_eq, number]
      exact lt_irrefl _
    · intro other member
      exact decide_eq_true (lower other member)
  -- The rung of that number is the one that was evaluated.
  have stored : Rung.record level.id
      { bonusRate := (BreedService.evaluationOf app buds).bonusRate
        maleBreedBudId := maleBudId
        femaleBreedBudId := femaleBudId } ⟨level, budsOf db level.id⟩ ∈
      ladder (db.evaluateLevel app level buds maleBudId femaleBudId) pair.id := by
    rw [Db.evaluateLevel, ladder_updateBreedLevel]
    apply List.mem_map_of_mem
    exact mem_ladder.mpr
      ⟨evaluable.listed, (of_decide_eq_true evaluable.current).1, rfl⟩
  have top : rung ∈
      ladder (db.evaluateLevel app level buds maleBudId femaleBudId) pair.id := by
    rw [split]
    exact List.mem_append_right _ (List.mem_singleton_self rung)
  have same := climb.eq_of_number top stored (by
    rw [Rung.record_number, number]
    exact (of_decide_eq_true evaluable.current).2.symm)
  have pick : rung.pick = ⟨pair.currentLevel, maleBudId, femaleBudId⟩ := by
    rw [Rung.pick, number, same, Rung.record, if_pos rfl]
    rfl
  rw [split, List.map_append, kept, List.map_singleton, pick]

theorem ladder_started {busy : Option Int} (structured : Structured app busy db)
    (started : LevelStarted app db pair after) (pairId : Int) :
    ∃ extra, ladder after pairId = ladder db pairId ++ extra ∧
      ∀ rung ∈ extra, pairId = pair.id ∧
        rung.level.level = pair.currentLevel + 1 := by
  cases started with
  | beyond past =>
      refine ⟨[], (List.append_nil _).symm, ?_⟩
      intro rung member
      cases member
  | within reachable free buds genders created bred =>
      refine ⟨_, ladder_createLevel structured.buds, ?_⟩
      intro rung member
      split at member
      · next own =>
          rw [List.mem_singleton.mp member]
          exact ⟨own.symm, rfl⟩
      · cases member

theorem recorded_started {busy : Option Int} (structured : Structured app busy db)
    (started : LevelStarted app db pair after)
    (below : other.id = pair.id → other.currentLevel ≤ pair.currentLevel + 1) :
    recorded after other = recorded db other := by
  obtain ⟨extra, same, new⟩ := ladder_started structured started other.id
  have above : (extra.filter fun rung => rung.level.level < other.currentLevel) = [] := by
    apply List.filter_eq_nil_iff.mpr
    intro rung member
    obtain ⟨own, number⟩ := new rung member
    have bound := below own
    rw [decide_eq_true_eq, number]
    omega
  rw [recorded, same, List.filter_append, above, List.append_nil]
  rfl

/-- Of a ladder without rungs above `currentLevel`, one level up all is on record. -/
theorem recorded_raised {value : Int}
    (below : ∀ rung ∈ ladder db pair.id, rung.level.level < value) :
    recorded db { pair with currentLevel := value } =
      (ladder db pair.id).map Rung.pick := by
  change ((ladder db pair.id).filter fun rung => rung.level.level < value).map _ = _
  rw [List.filter_eq_self.mpr]
  intro rung member
  exact decide_eq_true (below rung member)

theorem recorded_updateBreedPair (filter : BreedPair → Bool) (data : BreedPairUpdate) :
    recorded (db.updateBreedPair filter data) pair = recorded db pair :=
  recorded_of_ladder rfl

end Records

/-- One request created the pair, with the rate that it computed. -/
def Started (app : App) (admitted : Oracle → Prop)
    (steps : List (Transition Db Exchange)) (pairId : Int) (rate : Rat) : Prop :=
  ∃ step req body created, steps.filter (begins pairId) = [step] ∧
    step.label = ⟨.createPair req body, .ok (.pair created)⟩ ∧
    created.rate = rate ∧ StartRate app admitted step.source body rate

/-- What a run has on record is what was asked of it. -/
structure Accounted (app : App) (admitted : Oracle → Prop)
    (steps : List (Transition Db Exchange)) (db : Db) : Prop where
  picks : ∀ pair ∈ db.breedPair.rows,
    steps.filterMap (picked pair.id) = recorded db pair
  starts : ∀ pair ∈ db.breedPair.rows, Started app admitted steps pair.id pair.rate
  unasked : ∀ pairId, db.breedPair.nextId ≤ pairId →
    steps.filterMap (picked pairId) = [] ∧ steps.filter (begins pairId) = []

/-- A step after which nothing else is on record. -/
structure Quiet (step : Transition Db Exchange) : Prop where
  unpicked : ∀ pairId, picked pairId step = none
  unbegun : ∀ pairId, begins pairId step = false
  nextId : step.target.breedPair.nextId = step.source.breedPair.nextId
  pairs : ∀ pair ∈ step.target.breedPair.rows, ∃ old ∈ step.source.breedPair.rows,
    pair.id = old.id ∧ pair.rate = old.rate ∧
      recorded step.target pair = recorded step.source old

section Steps

variable {app : App} {admitted : Oracle → Prop} {db after : Db}
  {steps : List (Transition Db Exchange)} {step : Transition Db Exchange}
  {request : Request} {response : Except Failure Response}

theorem picks_snoc_of_none {pairId : Int} (silent : picked pairId step = none) :
    (steps ++ [step]).filterMap (picked pairId) = steps.filterMap (picked pairId) := by
  rw [List.filterMap_append, List.filterMap_cons_none silent, List.filterMap_nil,
    List.append_nil]

theorem begun_snoc_of_false {pairId : Int} (silent : begins pairId step = false) :
    (steps ++ [step]).filter (begins pairId) = steps.filter (begins pairId) := by
  rw [List.filter_append, List.filter_singleton, silent]
  exact List.append_nil _

theorem Accounted.quiet (accounted : Accounted app admitted steps step.source)
    (quiet : Quiet step) :
    Accounted app admitted (steps ++ [step]) step.target := by
  constructor
  · intro pair listed
    obtain ⟨old, present, id, -, same⟩ := quiet.pairs pair listed
    rw [picks_snoc_of_none (quiet.unpicked _), same, id]
    exact accounted.picks old present
  · intro pair listed
    obtain ⟨old, present, id, rate, -⟩ := quiet.pairs pair listed
    rw [Started, begun_snoc_of_false (quiet.unbegun _), id, rate]
    exact accounted.starts old present
  · intro pairId above
    rw [quiet.nextId] at above
    rw [picks_snoc_of_none (quiet.unpicked _), begun_snoc_of_false (quiet.unbegun _)]
    exact accounted.unasked pairId above

theorem quiet_of_same (same : SameBreeding db after)
    (silent : ∀ pairId, picked pairId ⟨db, ⟨request, response⟩, after⟩ = none ∧
      begins pairId ⟨db, ⟨request, response⟩, after⟩ = false) :
    Quiet ⟨db, ⟨request, response⟩, after⟩ := by
  constructor
  · exact fun pairId => (silent pairId).1
  · exact fun pairId => (silent pairId).2
  · exact congrArg Serial.nextId same.breedPair
  · intro pair listed
    change pair ∈ after.breedPair.rows at listed
    rw [same.breedPair] at listed
    exact ⟨pair, listed, rfl, rfl, recorded_of_ladder (ladder_of_same same)⟩

theorem quiet_of_closed (base : Db) {filter : BreedPair → Bool}
    {status : BreedPairStatus}
    (same : SameBreeding (base.updateBreedPair filter (.status status)) after)
    (pairs : base.breedPair = db.breedPair)
    (kept : ∀ pair ∈ db.breedPair.rows, recorded base pair = recorded db pair)
    (silent : ∀ pairId, picked pairId ⟨db, ⟨request, response⟩, after⟩ = none ∧
      begins pairId ⟨db, ⟨request, response⟩, after⟩ = false) :
    Quiet ⟨db, ⟨request, response⟩, after⟩ := by
  constructor
  · exact fun pairId => (silent pairId).1
  · exact fun pairId => (silent pairId).2
  · change after.breedPair.nextId = db.breedPair.nextId
    rw [same.breedPair, ← pairs]
    rfl
  · intro pair listed
    change pair ∈ after.breedPair.rows at listed
    rw [same.breedPair] at listed
    have ladders : recorded after pair = recorded base pair :=
      (recorded_of_ladder (ladder_of_same same)).trans (recorded_updateBreedPair _ _)
    obtain ⟨old, present, closed⟩ := exists_updateStatus listed
    rw [pairs] at present
    rw [closed] at ladders ⊢
    exact ⟨old, present, rfl, rfl, ladders.trans (kept old present)⟩

theorem quiet_of_finalized {req : Req} {body : BreedFinalizeDto} {pair : BreedPair}
    {level : BreedLevel} {buds : List BreedBud} {status : BreedPairStatus}
    (granted : FinalizeGranted app admitted db req body pair level buds)
    (same : SameBreeding ((db.evaluateLevel app level buds body.maleBudId
      body.femaleBudId).closePair pair status) after) :
    Quiet ⟨db, ⟨.finalizeBreeding req body, response⟩, after⟩ := by
  refine quiet_of_closed
    (db.evaluateLevel app level buds body.maleBudId body.femaleBudId)
    ⟨same.breedPair, same.breedLevel, same.breedBud⟩ rfl ?_ fun _ => ⟨rfl, rfl⟩
  intro other listed
  by_cases own : other.id = pair.id
  · rw [db.breedPair.eq_of_key_eq listed granted.listed own]
    exact recorded_evaluate granted.evaluable
  · exact recorded_of_ladder (ladder_evaluate_of_ne granted.evaluable own)

/-- What a request does to the picks on record. -/
inductive Records (app : App) (admitted : Oracle → Prop) (db : Db) :
    Exchange → Db → Prop
  | quiet {exchange : Exchange} {after : Db} (quiet : Quiet ⟨db, exchange, after⟩) :
      Records app admitted db exchange after
  | created {req : Req} {body : CreateBreedPairDto} {rate : Rat} {now : Time}
      {base after : Db}
      (same : SameBreeding (db.createBreedPair (pairData req body rate) now) base)
      (started : LevelStarted app base
        ((pairData req body rate).row now db.breedPair.nextId) after) :
      Records app admitted db ⟨.createPair req body,
        .ok (.pair ((pairData req body rate).row now db.breedPair.nextId))⟩ after
  | raised {req : Req} {body : BreedUpDto} {pair : BreedPair} {paid after : Db}
      {level : BreedLevel} {buds : List BreedBud} {status : BonusRateStatus}
      (granted : LevelGranted app admitted db req body pair)
      (same : SameBreeding db paid)
      (evaluable : Evaluable app admitted db pair body.maleBudId
        body.femaleBudId level buds)
      (started : LevelStarted app
        (paid.evaluateLevel app level buds body.maleBudId body.femaleBudId)
        pair after) :
      Records app admitted db ⟨.levelBreedingUp req body, .ok (.status status)⟩ after

theorem records_of_outcome (orderly : Orderly app db)
    (outcome : Outcome app admitted db request response after) :
    Records app admitted db ⟨request, response⟩ after := by
  cases outcome with
  | refused =>
      refine .quiet (quiet_of_same (.refl db) ?_)
      intro pairId
      cases request <;> exact ⟨rfl, rfl⟩
  | nothingInvalidated =>
      refine .quiet (quiet_of_same (.refl db) ?_)
      intro pairId
      cases request <;> exact ⟨rfl, rfl⟩
  | @loggedIn body =>
      have added := sameBreeding_addSlots db
        (LandService.freeLandSlot body.address body.gameKeyId)
        (LandService.newSlots body.address (some body.gameKeyId) none)
      refine .quiet (quiet_of_same (added.trans ?_) fun _ => ⟨rfl, rfl⟩)
      exact .of_sameBut (Db.sameBut_upsertUser _ _ _ _) (by decide)
  | slotOpened listed own closed charged =>
      exact .quiet (quiet_of_same
        ((sameBreeding_paid charged).trans ⟨rfl, rfl, rfl⟩) fun _ => ⟨rfl, rfl⟩)
  | slotConverted listed own outdoor charged =>
      exact .quiet (quiet_of_same
        ((sameBreeding_paid charged).trans ⟨rfl, rfl, rfl⟩) fun _ => ⟨rfl, rfl⟩)
  | landPurchased charged =>
      exact .quiet (quiet_of_same
        ((sameBreeding_paid charged).trans (sameBreeding_addSlots _ _ _))
        fun _ => ⟨rfl, rfl⟩)
  | othersPairsFailed selected =>
      exact .quiet (quiet_of_closed db ⟨rfl, rfl, rfl⟩ rfl (fun _ _ => rfl)
        fun _ => ⟨rfl, rfl⟩)
  | ownersPairsFailed selected =>
      exact .quiet (quiet_of_closed db ⟨rfl, rfl, rfl⟩ rfl (fun _ _ => rfl)
        fun _ => ⟨rfl, rfl⟩)
  | keySlotsDeleted deletable selected =>
      exact .quiet (quiet_of_closed db ⟨rfl, rfl, rfl⟩ rfl (fun _ _ => rfl)
        fun _ => ⟨rfl, rfl⟩)
  | pairCanceled listed own answered =>
      exact .quiet (quiet_of_closed db ⟨rfl, rfl, rfl⟩ rfl (fun _ _ => rfl)
        fun _ => ⟨rfl, rfl⟩)
  | pairRejected granted =>
      exact .quiet (quiet_of_same (sameBreeding_upgradeSlot _ _ _)
        fun _ => ⟨rfl, rfl⟩)
  | levelClashed granted taken samePair sameLevel =>
      have bound := orderly.onTrack.known _ taken
      rw [samePair] at bound
      exact absurd bound (lt_irrefl _)
  | pairCreated granted started =>
      exact .created (sameBreeding_insertPair _ _) started
  | levelCharged granted charged =>
      exact .quiet (quiet_of_same (sameBreeding_paid charged) fun _ => ⟨rfl, rfl⟩)
  | levelEvaluated granted charged evaluable taken samePair sameLevel =>
      have bound := orderly.onTrack.reached _ taken _ granted.listed samePair
      omega
  | leveledUp granted charged evaluable started =>
      exact .raised granted (sameBreeding_paid charged) evaluable started
  | finalizeBlocked granted slotless =>
      obtain ⟨slot, listed, same⟩ := orderly.housed _ granted.listed
        (paired_of_ownPair granted.own)
      exact absurd same (Table.find_eq_none.mp slotless slot listed)
  | finalizeLost granted => exact .quiet (quiet_of_finalized granted (.refl _))
  | finalizeUnsigned granted next =>
      have opened : SameBreeding _ _ := .of_sameBut next.sameBut (by decide)
      exact .quiet (quiet_of_finalized granted (opened.trans ⟨rfl, rfl, rfl⟩))
  | finalizeWon granted next =>
      have opened : SameBreeding _ _ := .of_sameBut next.sameBut (by decide)
      exact .quiet (quiet_of_finalized granted (opened.trans ⟨rfl, rfl, rfl⟩))
  | _ => exact .quiet (quiet_of_same ⟨rfl, rfl, rfl⟩ fun _ => ⟨rfl, rfl⟩)

theorem mem_started {pair later : BreedPair} (listed : pair ∈ db.breedPair.rows)
    (started : LevelStarted app db pair after)
    (member : later ∈ after.breedPair.rows) :
    (later ∈ db.breedPair.rows ∧ later.id ≠ pair.id) ∨
      later = { pair with currentLevel := pair.currentLevel + 1 } := by
  rw [started.breedPair] at member
  exact OnTrack.mem_counter listed member

theorem nextId_started {pair : BreedPair} (started : LevelStarted app db pair after) :
    after.breedPair.nextId = db.breedPair.nextId := by
  rw [started.breedPair]
  rfl

theorem begins_of_created {req : Req} {body : CreateBreedPairDto} {pair : BreedPair}
    (label : step.label = ⟨.createPair req body, .ok (.pair pair)⟩) (pairId : Int) :
    picked pairId step = none ∧ begins pairId step = decide (pair.id = pairId) := by
  constructor
  · rw [picked, label]
  · rw [begins, label]

theorem picked_of_raised {req : Req} {body : BreedUpDto} {pair : BreedPair}
    {status : BonusRateStatus}
    (label : step.label = ⟨.levelBreedingUp req body, .ok (.status status)⟩)
    (listed : pair ∈ step.source.breedPair.rows) (named : pair.id = body.pairId)
    (pairId : Int) :
    begins pairId step = false ∧ picked pairId step =
      if pair.id = pairId then
        some ⟨pair.currentLevel, body.maleBudId, body.femaleBudId⟩
      else none := by
  have found : step.source.breedPair.find body.pairId = some pair :=
    Table.find_eq_some.mpr ⟨listed, named⟩
  constructor
  · rw [begins, label]
  · rw [picked, label, named]
    by_cases own : body.pairId = pairId
    · rw [← own, found]
      simp
    · simp [own]

theorem mem_of_created {data : BreedPairCreate} {now : Time} {base : Db} {pair : BreedPair}
    (same : SameBreeding (db.createBreedPair data now) base)
    (listed : pair ∈ base.breedPair.rows) (apart : pair.id ≠ db.breedPair.nextId) :
    pair ∈ db.breedPair.rows := by
  rw [same.breedPair] at listed
  rcases mem_createBreedPair.mp listed with old | rfl
  · exact old
  · exact absurd rfl apart

theorem recorded_first {pair : BreedPair} {rungs reached : Int}
    (climb : Climb app (ladder db pair.id) rungs reached)
    (first : pair.currentLevel ≤ 1) : recorded db pair = [] := by
  rw [recorded, List.map_eq_nil_iff, List.filter_eq_nil_iff]
  intro rung member below
  have bounds := (climb.bounds member).1
  have lower := of_decide_eq_true below
  omega

theorem recorded_climbed {pair : BreedPair} {level : BreedLevel} {buds : List BreedBud}
    {maleBudId femaleBudId : Int} (structured : Structured app none db)
    (listed : pair ∈ db.breedPair.rows)
    (evaluable : Evaluable app admitted db pair maleBudId femaleBudId level buds)
    (started : LevelStarted app (db.evaluateLevel app level buds maleBudId femaleBudId)
      pair after) :
    recorded after { pair with currentLevel := pair.currentLevel + 1 } =
      recorded db pair ++ [⟨pair.currentLevel, maleBudId, femaleBudId⟩] := by
  have own := structured.pairs pair listed (Option.some_ne_none _).symm
  have below : ∀ rung ∈ ladder (db.evaluateLevel app level buds maleBudId
      femaleBudId) pair.id, rung.level.level < pair.currentLevel + 1 := by
    intro rung present
    have bounds := ((Structured.ready_evaluate own evaluable).bounds present).2
    omega
  rw [recorded_started (structured.evaluate evaluable) started fun _ => le_rfl,
    recorded_raised below, picks_evaluate own evaluable]

theorem Accounted.created {req : Req} {body : CreateBreedPairDto} {rate : Rat}
    {now : Time} {base : Db} (accounted : Accounted app admitted steps step.source)
    (before : Structured app none step.source)
    (structured : Structured app none step.target)
    (label : step.label = ⟨.createPair req body,
      .ok (.pair ((pairData req body rate).row now step.source.breedPair.nextId))⟩)
    (same : SameBreeding (step.source.createBreedPair (pairData req body rate) now) base)
    (started : LevelStarted app base
      ((pairData req body rate).row now step.source.breedPair.nextId) step.target)
    (rated : StartRate app admitted step.source body rate) :
    Accounted app admitted (steps ++ [step]) step.target := by
  have placed : (pairData req body rate).row now step.source.breedPair.nextId ∈
      base.breedPair.rows := by
    rw [same.breedPair]
    exact mem_createBreedPair.mpr (.inr rfl)
  have inserted : Structured app (some step.source.breedPair.nextId) base :=
    (before.insert now).of_same same
  have silent := fun pairId => (begins_of_created label pairId).1
  have passed : ∀ pairId, pairId ≠ step.source.breedPair.nextId →
      begins pairId step = false := by
    intro pairId apart
    rw [(begins_of_created label pairId).2]
    exact decide_eq_false apart.symm
  obtain ⟨unpicked, unbegun⟩ := accounted.unasked step.source.breedPair.nextId le_rfl
  constructor
  · intro pair listed
    rw [picks_snoc_of_none (silent pair.id)]
    cases mem_started placed started listed with
    | inl kept =>
        obtain ⟨present, apart⟩ := kept
        rw [accounted.picks pair (mem_of_created same present apart),
          recorded_started inserted started fun own => absurd own apart,
          recorded_of_ladder (ladder_of_same same)]
        rfl
    | inr new =>
        have climb := (structured.pairs pair listed (Option.some_ne_none _).symm).toClimb
        rw [new] at climb ⊢
        exact unpicked.trans (recorded_first climb le_rfl).symm
  · intro pair listed
    cases mem_started placed started listed with
    | inl kept =>
        obtain ⟨present, apart⟩ := kept
        rw [Started, begun_snoc_of_false (passed pair.id apart)]
        exact accounted.starts pair (mem_of_created same present apart)
    | inr new =>
        have begun : begins step.source.breedPair.nextId step = true := by
          rw [(begins_of_created label _).2]
          exact decide_eq_true rfl
        rw [new]
        refine ⟨step, req, body, _, ?_, label, rfl, rated⟩
        change List.filter (begins step.source.breedPair.nextId) _ = _
        rw [List.filter_append, unbegun, List.filter_singleton, begun]
        rfl
  · intro pairId above
    rw [nextId_started started, same.breedPair] at above
    change step.source.breedPair.nextId + 1 ≤ pairId at above
    rw [picks_snoc_of_none (silent pairId), begun_snoc_of_false (passed pairId (by omega))]
    exact accounted.unasked pairId (by omega)

theorem Accounted.raised {req : Req} {body : BreedUpDto} {pair : BreedPair} {paid : Db}
    {level : BreedLevel} {buds : List BreedBud} {status : BonusRateStatus}
    (accounted : Accounted app admitted steps step.source)
    (before : Structured app none step.source)
    (label : step.label = ⟨.levelBreedingUp req body, .ok (.status status)⟩)
    (granted : LevelGranted app admitted step.source req body pair)
    (same : SameBreeding step.source paid)
    (evaluable : Evaluable app admitted step.source pair body.maleBudId body.femaleBudId
      level buds)
    (started : LevelStarted app
      (paid.evaluateLevel app level buds body.maleBudId body.femaleBudId) pair
      step.target) :
    Accounted app admitted (steps ++ [step]) step.target := by
  have current : Evaluable app admitted paid pair body.maleBudId body.femaleBudId level
      buds := evaluable_of_same evaluable same
  have listed : pair ∈ paid.breedPair.rows := by
    rw [same.breedPair]
    exact granted.listed
  have placed : pair ∈ (paid.evaluateLevel app level buds body.maleBudId
      body.femaleBudId).breedPair.rows := listed
  have charged : Structured app none paid := before.of_same same
  have chosen := picked_of_raised label granted.listed (of_decide_eq_true granted.own).1
  have passed : ∀ pairId, pairId ≠ pair.id → picked pairId step = none := by
    intro pairId apart
    rw [(chosen pairId).2, if_neg apart.symm]
  have older : ∀ old : BreedPair, old ∈ paid.breedPair.rows →
      old ∈ step.source.breedPair.rows := by
    rw [same.breedPair]
    exact fun _ present => present
  constructor
  · intro later member
    cases mem_started placed started member with
    | inl kept =>
        obtain ⟨present, apart⟩ := kept
        rw [picks_snoc_of_none (passed later.id apart),
          accounted.picks later (older later present),
          recorded_started (charged.evaluate current) started fun own => absurd own apart,
          recorded_of_ladder (ladder_evaluate_of_ne current apart),
          recorded_of_ladder (ladder_of_same same)]
    | inr raised =>
        have pick := (chosen pair.id).2
        rw [if_pos rfl] at pick
        rw [raised, recorded_climbed charged listed current started,
          recorded_of_ladder (ladder_of_same same), ← accounted.picks pair granted.listed,
          List.filterMap_append, List.filterMap_cons_some pick, List.filterMap_nil]
  · intro later member
    rw [Started, begun_snoc_of_false (chosen later.id).1]
    cases mem_started placed started member with
    | inl kept => exact accounted.starts later (older later kept.1)
    | inr raised =>
        rw [raised]
        exact accounted.starts pair granted.listed
  · intro pairId above
    rw [nextId_started started] at above
    change paid.breedPair.nextId ≤ pairId at above
    rw [same.breedPair] at above
    have bound := step.source.breedPair.bounded pair granted.listed
    rw [picks_snoc_of_none (passed pairId (by omega)), begun_snoc_of_false (chosen pairId).1]
    exact accounted.unasked pairId above

end Steps

section Runs

variable {app : App} {admitted : Oracle → Prop} {db middle : Db}
  {steps : List (Transition Db Exchange)} {req : Req} {body : BreedFinalizeDto}
  {pair : BreedPair} {rate : Rat} {after : Db}
  {result : Except Failure (Option BreedController.Gen1Reward)}

theorem Accounted.empty : Accounted app admitted [] .empty where
  picks _ listed := absurd listed List.not_mem_nil
  starts _ listed := absurd listed List.not_mem_nil
  unasked _ _ := ⟨rfl, rfl⟩

/-- The run lemma: at its end, and so at every time before, nothing else is on record
than what was asked. -/
theorem accounted_of_run (run : Run app admitted .empty steps db) :
    Orderly app db ∧ Structured app none db ∧ Accounted app admitted steps db := by
  induction run with
  | nil => exact ⟨.empty app, .empty app, .empty⟩
  | @snoc steps current target label earlier handled induction =>
      obtain ⟨orderly, structured, accounted⟩ := induction
      have next : Structured app none target := structured.bred (orderly.bred handled)
      refine ⟨orderly.step handled, next, ?_⟩
      obtain ⟨request, response⟩ := label
      cases records_of_outcome orderly (outcome_of_handles handled) with
      | quiet quiet => exact accounted.quiet quiet
      | created same started =>
          exact accounted.created structured next rfl same started
            (startRate_of_created handled)
      | raised granted same evaluable started =>
          exact accounted.raised structured rfl granted same evaluable started

theorem gain_of_evaluated {rung : Rung} {pairId : Int}
    (evaluated : rung.Evaluated app) (member : rung ∈ ladder db pairId) :
    rung.pick.Stored db pairId ∧ rung.pick.gain app db = rung.level.bonusRate := by
  obtain ⟨listed, owner, buds⟩ := mem_ladder.mp member
  obtain ⟨male, maleBred, female, femaleBred, isMale, isFemale, maleId, femaleId,
    bonus⟩ := evaluated
  rw [buds] at maleBred femaleBred
  have names : rung.pick = ⟨rung.level.level, male.id, female.id⟩ := by
    rw [Rung.pick, maleId, femaleId]
    rfl
  rw [names]
  constructor
  · exact ⟨rung.level, listed, owner, rfl, male, female,
      maleBred, femaleBred, rfl, rfl, isMale, isFemale⟩
  · have maleFound : db.breedBud.find male.id = some male :=
      Table.find_eq_some.mpr ⟨(List.mem_filter.mp maleBred).1, rfl⟩
    have femaleFound : db.breedBud.find female.id = some female :=
      Table.find_eq_some.mpr ⟨(List.mem_filter.mp femaleBred).1, rfl⟩
    rw [Pick.gain, rateOf, rateOf, maleFound, femaleFound, bonus]
    rfl

/-- The raw query sums over the whole ladder, whose last level has the number it
names. -/
theorem sum_finalizedLevels {rungs : Int} {reached : Int} (standard : rungs ≤ 5)
    (climb : Climb app (ladder db pair.id) rungs reached) :
    ((db.breedLevel.rows.filter (BreedService.finalizedLevels pair.id)).map
        BreedLevel.bonusRate).sum =
      ((ladder db pair.id).map fun rung => rung.level.bonusRate).sum := by
  have rows : db.breedLevel.rows.filter (BreedService.finalizedLevels pair.id) =
      db.breedLevel.rows.filter fun level => level.pairId = pair.id := by
    apply List.filter_congr
    intro level listed
    rw [BreedService.finalizedLevels, decide_eq_decide]
    constructor
    · exact fun within => within.1
    · intro own
      have bounds := climb.bounds (mem_ladder.mpr
        (⟨listed, own, rfl⟩ : (⟨level, budsOf db level.id⟩ : Rung).level ∈ _ ∧ _ ∧ _))
      exact ⟨own, bounds.1, bounds.2.trans standard⟩
  rw [rows, ladder, List.map_map]
  rfl

/-- A rate for a pair is the one its creation computed, plus the rates of the two buds
that were chosen for each of its levels. -/
structure ExactRate (app : App) (admitted : Oracle → Prop)
    (steps : List (Transition Db Exchange)) (db : Db) (body : BreedFinalizeDto)
    (rate : Rat) : Prop where
  levels : (chosenBy app steps body).map Pick.level = upward app.config.targetLevel
  stored : ∀ pick ∈ chosenBy app steps body, pick.Stored db body.pairId
  total : ∃ start, Started app admitted steps body.pairId start ∧
    rate = start + ((chosenBy app steps body).map (Pick.gain app db)).sum

theorem exactRate_of_beforeDice (standard : app.config.targetLevel = 5)
    (run : Run app admitted .empty steps db)
    (reached : (surroundings admitted).Runs (beforeDice app req body) db
      (.ok (pair, rate)) middle) :
    pair.id = body.pairId ∧ ExactRate app admitted steps db body rate := by
  obtain ⟨-, structured, accounted⟩ := accounted_of_run run
  obtain ⟨level, buds, granted, rfl, rfl⟩ := ensures_beforeDice req body _ _ reached
    pair rate rfl
  have identified : pair.id = body.pairId := (of_decide_eq_true granted.own).1
  have own := structured.pairs pair granted.listed (Option.some_ne_none _).symm
  have ready := Structured.ready_evaluate own granted.evaluable
  have target : pair.currentLevel = app.config.targetLevel :=
    le_antisymm ready.within granted.reached
  have picks : chosenBy app steps body =
      (ladder (db.evaluateLevel app level buds body.maleBudId body.femaleBudId)
        pair.id).map Rung.pick := by
    rw [picks_evaluate own granted.evaluable, chosenBy, ← identified,
      accounted.picks pair granted.listed, target]
  have gains : ∀ rung ∈ ladder (db.evaluateLevel app level buds body.maleBudId
      body.femaleBudId) pair.id, rung.pick.Stored db pair.id ∧
        rung.pick.gain app db = rung.level.bonusRate := by
    intro rung member
    have below := (ready.bounds member).2
    obtain ⟨stored, gain⟩ := gain_of_evaluated
      (ready.evaluated rung member (by omega)) member
    obtain ⟨row, listed, owner, number, male, female, choice⟩ := stored
    obtain ⟨old, present, id, pairId, oldNumber, -⟩ := exists_evaluateLevel listed
    obtain ⟨maleBred, femaleBred, maleId, femaleId, isMale, isFemale⟩ := choice
    rw [id] at maleBred femaleBred
    exact ⟨⟨old, present, pairId.symm.trans owner, oldNumber.symm.trans number, male,
      female, maleBred, femaleBred, maleId, femaleId, isMale, isFemale⟩, gain⟩
  refine ⟨identified, ?_, ?_, pair.rate, ?_, ?_⟩
  · rw [picks, List.map_map, ← target]
    exact ready.numbered
  · intro pick member
    rw [picks] at member
    obtain ⟨rung, present, rfl⟩ := List.mem_map.mp member
    rw [← identified]
    exact (gains rung present).1
  · rw [← identified]
    exact accounted.starts pair granted.listed
  · rw [picks, finalRate, sum_finalizedLevels (standard ▸ ready.within) ready.toClimb,
      List.map_map]
    congr 2
    apply List.map_congr_left
    intro rung member
    exact (gains rung member).2.symm

/-- A request to finalize a pair fails before the dice, or throws it with the exact rate
of the pair and ends as the dice decides. -/
theorem dice_rate_exact (standard : app.config.targetLevel = 5)
    (run : Run app admitted .empty steps db)
    (handled : (surroundings admitted).Runs
      (BreedController.finalizeBreeding app req body) db result after) :
    (∃ error, result = .error error ∧
      (surroundings admitted).Runs (beforeDice app req body) db (.error error) after) ∨
    ∃ pair rate middle, pair.id = body.pairId ∧
      (surroundings admitted).Reaches (BreedController.finalizeBreeding app req body) db
        (BudService.diceGen1Bud app rate >>= afterDice req body pair) middle ∧
      (surroundings admitted).Runs
        (BudService.diceGen1Bud app rate >>= afterDice req body pair) middle result
        after ∧
      ExactRate app admitted steps db body rate := by
  rw [finalizeBreeding_eq] at handled ⊢
  rcases handled.of_bind with failed | ⟨⟨pair, rate⟩, middle, reached, thrown⟩
  · exact .inl failed
  · obtain ⟨identified, exact⟩ := exactRate_of_beforeDice standard run reached
    exact .inr ⟨pair, rate, middle, identified, reached.reaches, thrown, exact⟩

/-- The first pair of `alice` reaches the dice with the buds 17 and 18 of its last
level. -/
theorem dice_rate_exact_breeding :
    ∃ pair rate middle start,
      (surroundings fun _ => True).Reaches
        (BreedController.finalizeBreeding (liveApp .goerli) alice ⟨1, 17, 18⟩)
        (breedingAfter 7)
        (BudService.diceGen1Bud (liveApp .goerli) rate >>=
          afterDice alice ⟨1, 17, 18⟩ pair) middle ∧
      Started (liveApp .goerli) (fun _ => True)
        (serve (liveApp .goerli) breedingScript .empty).1 1 start ∧
      rate = start + ((chosenBy (liveApp .goerli)
        (serve (liveApp .goerli) breedingScript .empty).1 ⟨1, 17, 18⟩).map
          (Pick.gain (liveApp .goerli) (breedingAfter 7))).sum := by
  have run : Run (liveApp .goerli) (fun _ => True) .empty
      (serve (liveApp .goerli) breedingScript .empty).1 (breedingAfter 7) :=
    run_breedingAfter (fun _ => trivial) 7
  have runs := @World.runs_run _ _ _ _ _ _ (surroundings fun _ => True)
    (fun _ => .agreeable "alice" (period 5)) (fun _ _ => trivial)
    (BreedController.finalizeBreeding (liveApp .goerli) alice ⟨1, 17, 18⟩)
    (breedingAfter 7)
  have answered : ((surroundings fun _ => True).run
      (fun _ => .agreeable "alice" (period 5))
      (BreedController.finalizeBreeding (liveApp .goerli) alice ⟨1, 17, 18⟩)
      (breedingAfter 7)).1.isOk = true := by
    rw [breedingAfter_succ 6]
    decide +kernel
  rcases dice_rate_exact rfl run runs with ⟨error, failed, -⟩ | ⟨pair, rate, middle, -,
    reaches, -, exact⟩
  · rw [failed] at answered
    cases answered
  · obtain ⟨start, started, total⟩ := exact.total
    exact ⟨pair, rate, middle, start, reaches, started, total⟩

end Runs

end BudBreeding.Lifecycle
