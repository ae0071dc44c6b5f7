import BudBreeding.Lifecycle.Structure

namespace BudBreeding.Lifecycle

open Data Program Backend

/-! Whether a pair that is breeding can always be leveled up or finalized. -/

/-- The breed time of the level has elapsed, and the user of the pair still holds
what it was bred with. -/
structure Favourable (app : App) (db : Db) (pair : BreedPair)
    (oracle : Oracle) : Prop where
  elapsed : ∀ level ∈ db.breedLevel.rows,
    BreedService.currentLevelOf pair level = true →
    BreedService.breedTimeElapsed app oracle.now level.createdAt
      pair.gameItemId = true
  maleOwner : oracle.budOwner pair.maleBudId = some pair.userAddress
  femaleOwner : oracle.budOwner pair.femaleBudId = some pair.userAddress
  item : HoldsItem (Eq oracle) db pair

/-- No favourable run of the request throws. -/
def Accepted (app : App) (db : Db) (pair : BreedPair) (request : Request) :
    Prop :=
  (surroundings (Favourable app db pair)).Ensures (handle app request)
    (fun result _ => ∃ response, result = .ok response) db

def CanPayLevel (app : App) (db : Db) (address : Address) : Prop :=
  ∃ user ∈ db.user.rows, user.address = address ∧
    app.config.breedingPointPerLevel ≤ user.breedingPoint

/-- Some two buds of its current level take a pair to the next one or to its
end. -/
def Advanceable (app : App) (db : Db) (pair : BreedPair) : Prop :=
  ∃ level ∈ db.breedLevel.rows,
    BreedService.currentLevelOf pair level = true ∧
    ∃ male ∈ db.breedBud.rows, ∃ female ∈ db.breedBud.rows,
      male.levelId = level.id ∧ female.levelId = level.id ∧
      ∀ req : Req, req.user = pair.userAddress → CanPayLevel app db req.user →
        Accepted app db pair
            (.levelBreedingUp req ⟨pair.id, male.id, female.id⟩) ∨
          Accepted app db pair
            (.finalizeBreeding req ⟨pair.id, male.id, female.id⟩)

section Points

variable {db : Db}

def PointsFit (db : Db) : Prop :=
  ∀ user ∈ db.user.rows, user.breedingPoint ≤ 2147483647

theorem pointsFit_upsertUser (address : Address) (signature : String)
    (gameKeyId : Int) (fit : PointsFit db) :
    PointsFit (db.upsertUser address signature gameKeyId) := by
  intro user member
  simp only [Db.upsertUser] at member
  split at member
  · rw [Table.mem_modify] at member
    obtain ⟨old, present, rewritten⟩ := member
    rw [← rewritten]
    split <;> exact fit old present
  · rw [Table.mem_insert] at member
    rcases member with old | rfl
    · exact fit user old
    · change (0 : Int) ≤ 2147483647
      omega

theorem pointsFit_exec (oracle : Oracle) (query : Query)
    (fit : PointsFit db) : PointsFit (exec oracle query db).2 := by
  by_cases written : query.written = some .user
  · cases query with
    | userUpdate address breedingPoint =>
        simp only [exec]
        split
        · exact fit
        · next column accepted =>
            intro user member
            rw [Db.setBreedingPoint, Table.mem_modify] at member
            obtain ⟨old, present, rewritten⟩ := member
            rw [← rewritten]
            split
            · exact le_of_toIntColumn accepted
            · exact fit old present
    | userUpsert address signature gameKeyId =>
        simp only [exec]
        split
        · exact pointsFit_upsertUser address signature gameKeyId fit
        · exact fit
    | _ => cases written
  · rw [PointsFit, (exec_sameBut oracle query db).user written]
    exact fit

theorem pointsFit_of_handles {app : App} {admitted : Oracle → Prop}
    {exchange : Exchange} {after : Db}
    (handles : Handles app admitted db exchange after) (fit : PointsFit db) :
    PointsFit after := by
  have every : (surroundings admitted).Ensures (handle app exchange.request)
      (fun _ final => PointsFit final) db :=
    World.ensures_of_uses (fun query _ state oracle _ before =>
      pointsFit_exec oracle query before) (Prog.uses_all _) fit
  exact every _ _ handles

end Points

section Acceptance

variable {app : App} {admitted : Oracle → Prop} {db : Db} {pair : BreedPair}
  {busy : Option Int}

theorem returns_ownPair {req : Req} (listed : pair ∈ db.breedPair.rows)
    (paired : pair.status = .PAIRED) (owner : req.user = pair.userAddress) :
    (surroundings admitted).Returns
      (Prisma.breedPairFindFirst (BreedController.ownPair req.user pair.id))
      (fun found => found = some pair) db := by
  refine (returns_breedPairFindFirst _).mono ?_
  intro found answer
  obtain ⟨oracle, -, rfl⟩ := answer
  cases found : oracle.findFirst db.breedPair.rows
      (BreedController.ownPair req.user pair.id) with
  | none =>
      have unmatched := Oracle.findFirst_eq_none.mp found pair listed
      simp [BreedController.ownPair, owner, paired] at unmatched
  | some other =>
      obtain ⟨present, own⟩ := Oracle.findFirst_eq_some found
      rw [db.breedPair.eq_of_key_eq present listed
        (decide_eq_true_iff.mp own).1]

theorem two_le_length {α : Type} {rows : List α} {first second : α}
    (left : first ∈ rows) (right : second ∈ rows) (differ : first ≠ second) :
    2 ≤ rows.length := by
  match rows with
  | [] => exact absurd left List.not_mem_nil
  | [only] =>
      rw [List.mem_singleton.mp left, List.mem_singleton.mp right] at differ
      exact absurd rfl differ
  | _ :: _ :: rest => simp

theorem genders_chosen {level : BreedLevel} {male female : BreedBud}
    {buds : List BreedBud} (maleStored : male ∈ db.breedBud.rows)
    (femaleStored : female ∈ db.breedBud.rows)
    (maleLevel : male.levelId = level.id)
    (femaleLevel : female.levelId = level.id) (isMale : male.gender = .M)
    (isFemale : female.gender = .F)
    (chosen : buds.Perm (db.breedBud.rows.filter
      (BreedService.chosenBuds male.id female.id level.id))) :
    BudService.checkBudPairGenders (buds.map fun bud => (bud.id, bud.gender))
      male.id female.id = true := by
  have maleChosen : male ∈ buds := by
    rw [chosen.mem_iff, List.mem_filter]
    exact ⟨maleStored, decide_eq_true ⟨.inl rfl, maleLevel⟩⟩
  have femaleChosen : female ∈ buds := by
    rw [chosen.mem_iff, List.mem_filter]
    exact ⟨femaleStored, decide_eq_true ⟨.inr rfl, femaleLevel⟩⟩
  have differ : male ≠ female := by
    rintro rfl
    rw [isMale] at isFemale
    cases isFemale
  have two := two_le_length maleChosen femaleChosen differ
  unfold BudService.checkBudPairGenders
  rw [if_neg (by rw [List.length_map]; omega), List.all_eq_true]
  intro entry member
  obtain ⟨bud, present, rfl⟩ := List.mem_map.mp member
  have stored : bud ∈ db.breedBud.rows :=
    (List.mem_filter.mp (chosen.mem_iff.mp present)).1
  by_cases atMale : bud.id = male.id
  · obtain rfl := db.breedBud.eq_of_key_eq stored maleStored atMale
    have apart : bud.id ≠ female.id := fun same =>
      differ (db.breedBud.eq_of_key_eq stored femaleStored same)
    simp [isMale, apart]
  · by_cases atFemale : bud.id = female.id
    · obtain rfl := db.breedBud.eq_of_key_eq stored femaleStored atFemale
      simp [isFemale, atMale]
    · simp [atMale, atFemale]

theorem levelUp_accepted (onTrack : OnTrack app none db) (fit : PointsFit db)
    (priced : 0 ≤ app.config.breedingPointPerLevel)
    (listed : pair ∈ db.breedPair.rows) (paired : pair.status = .PAIRED)
    (below : pair.currentLevel ≤ app.config.targetLevel) {level : BreedLevel}
    (present : level ∈ db.breedLevel.rows)
    (current : BreedService.currentLevelOf pair level = true)
    (unevaluated : level.bonusRate = 0) {male female : BreedBud}
    (maleStored : male ∈ db.breedBud.rows)
    (femaleStored : female ∈ db.breedBud.rows)
    (maleLevel : male.levelId = level.id)
    (femaleLevel : female.levelId = level.id) (isMale : male.gender = .M)
    (isFemale : female.gender = .F) {req : Req}
    (owner : req.user = pair.userAddress)
    (paying : CanPayLevel app db req.user) :
    Accepted app db pair
      (.levelBreedingUp req ⟨pair.id, male.id, female.id⟩) := by
  obtain ⟨owned, leveled⟩ := decide_eq_true_iff.mp current
  have only : ∀ other ∈ db.breedLevel.rows,
      BreedService.currentLevelOf pair other = true → other = level := by
    intro other member its
    obtain ⟨otherOwned, otherLeveled⟩ := decide_eq_true_iff.mp its
    exact onTrack.single other member level present
      (otherOwned.trans owned.symm) (otherLeveled.trans leveled.symm)
  rw [Accepted, handle, World.ensures_map]
  refine (returns_ownPair listed paired owner).ensures_bind ?_
  rintro found rfl
  refine (World.returns_throwIf (not_lt.mpr below)).ensures_bind fun _ _ => ?_
  refine (returns_verifyGameItemPossession listed paired
    fun oracle favourable => favourable.item).ensures_bind fun _ _ => ?_
  obtain ⟨maleValid, femaleValid⟩ := onTrack.valid pair listed
  refine (returns_verifyBudPairs maleValid femaleValid fun oracle favourable =>
    ⟨favourable.maleOwner, favourable.femaleOwner⟩).ensures_bind fun _ _ => ?_
  refine ensures_consumeBreedingPoint ?_ ?_
  · intro short
    obtain ⟨user, stored, same, enough⟩ := paying
    have rejected := short user (Table.find_eq_some.mpr ⟨stored, same⟩) enough
    have bound := fit user stored
    have accepted := toIntColumn_intCast
      (show 0 ≤ user.breedingPoint - app.config.breedingPointPerLevel by omega)
      (by omega)
    rw [Int.cast_sub, rejected] at accepted
    cases accepted
  intro user _ given
  obtain ⟨payer, found, covered, rfl⟩ := given
  refine ensures_evaluateBreedLevel ?_ ?_ ?_
  · intro missing
    have unmatched := missing level present
    rw [current] at unmatched
    cases unmatched
  · intro other member its unready
    obtain rfl := only other member its
    rcases unready with evaluated | ⟨oracle, favourable, early⟩ |
      ⟨buds, chosen, mismatch⟩
    · exact absurd unevaluated evaluated
    · have elapsed := favourable.elapsed other present current
      rw [early] at elapsed
      cases elapsed
    · have matched := genders_chosen maleStored femaleStored maleLevel
        femaleLevel isMale isFemale chosen
      rw [mismatch] at matched
      cases matched
  · intro other buds evaluable
    obtain ⟨maleBud, femaleBud, maleFound, femaleFound⟩ := evaluable.parents
    rw [maleFound, femaleFound]
    refine ensures_startBreedLevel ?_ ?_ fun after started => ?_
    · intro absent
      exact absurd rfl (Table.find_eq_none.mp absent pair listed)
    · intro _ taken member samePair sameLevel
      have bound : taken.level ≤ pair.currentLevel := by
        obtain ⟨old, stored, -, pairId, number, -⟩ := exists_evaluateLevel member
        rw [number]
        exact onTrack.reached old stored pair listed (pairId.symm.trans samePair)
      omega
    · exact World.ensures_pure.mpr ⟨_, rfl⟩

theorem advanceable_of_onTrack (onTrack : OnTrack app none db)
    (fit : PointsFit db) (priced : 0 ≤ app.config.breedingPointPerLevel)
    (listed : pair ∈ db.breedPair.rows) (paired : pair.status = .PAIRED)
    (below : pair.currentLevel ≤ app.config.targetLevel) :
    Advanceable app db pair := by
  obtain ⟨level, present, current, unevaluated, both⟩ :=
    onTrack.opened pair listed paired (by simp) below
  obtain ⟨male, maleStored, maleLevel, isMale⟩ := both .M
  obtain ⟨female, femaleStored, femaleLevel, isFemale⟩ := both .F
  refine ⟨level, present, current, male, maleStored, female, femaleStored,
    maleLevel, femaleLevel, fun req owner paying => .inl ?_⟩
  exact levelUp_accepted onTrack fit priced listed paired below present current
    unevaluated maleStored femaleStored maleLevel femaleLevel isMale isFemale
    owner paying

end Acceptance

section Refusal

variable {app : App} {db : Db} {pair : BreedPair} {req : Req}

theorem not_accepted {request : Request} {oracle : Oracle}
    (favourable : Favourable app db pair oracle)
    (refused : (surroundings (Favourable app db pair)).Ensures
      (handle app request) (fun result _ => ∃ error, result = .error error)
      db) : ¬ Accepted app db pair request := by
  intro accepted
  have handled := handles_run app favourable request db
  obtain ⟨response, answered⟩ := accepted _ _ handled
  obtain ⟨error, failed⟩ := refused _ _ handled
  cases answered.symm.trans failed

/-- A pair past the target level can neither be leveled up nor be finalized. -/
theorem stuck_past_target (listed : pair ∈ db.breedPair.rows)
    (paired : pair.status = .PAIRED) (owner : req.user = pair.userAddress)
    (past : app.config.targetLevel < pair.currentLevel)
    (closed : ∀ level ∈ db.breedLevel.rows,
      BreedService.currentLevelOf pair level = false) {oracle : Oracle}
    (favourable : Favourable app db pair oracle)
    (maleBudId femaleBudId : Int) :
    ¬ Accepted app db pair
        (.levelBreedingUp req ⟨pair.id, maleBudId, femaleBudId⟩) ∧
      ¬ Accepted app db pair
        (.finalizeBreeding req ⟨pair.id, maleBudId, femaleBudId⟩) := by
  constructor
  · apply not_accepted favourable
    rw [handle, World.ensures_map]
    refine (returns_ownPair listed paired owner).ensures_bind ?_
    rintro found rfl
    rw [World.ensures_bind, World.ensures_throwIf]
    exact ⟨fun _ => ⟨_, rfl⟩, fun below => absurd past below⟩
  · apply not_accepted favourable
    rw [handle, World.ensures_map]
    refine (returns_ownPair listed paired owner).ensures_bind ?_
    rintro found rfl
    rw [World.ensures_bind, World.ensures_throwIf]
    refine ⟨fun _ => ⟨_, rfl⟩, fun _ => ?_⟩
    refine ensures_evaluateBreedLevel (fun _ _ => ⟨_, rfl⟩)
      (fun _ _ _ _ _ => ⟨_, rfl⟩) ?_
    intro level buds evaluable
    have unmatched := closed level evaluable.listed
    rw [evaluable.current] at unmatched
    cases unmatched

end Refusal

section Runs

variable {network : Network} {admitted : Oracle → Prop} {final : Db}
  {steps : List (Transition Db Exchange)}

/-- What keeps every breeding pair advanceable. -/
structure Progressing (app : App) (db : Db) : Prop where
  consistent : (Occupancy.board db).Consistent
  onTrack : OnTrack app none db
  within : WithinTarget app db
  fit : PointsFit db

theorem Progressing.empty (app : App) : Progressing app .empty where
  consistent := (Orderly.empty app).consistent
  onTrack := .empty app
  within _ member := absurd member List.not_mem_nil
  fit _ member := absurd member List.not_mem_nil

theorem Progressing.step {app : App} {db after : Db} {exchange : Exchange}
    (progressing : Progressing app db)
    (handles : Handles app admitted db exchange after)
    (careful : ¬ Overshoots app admitted db exchange.request) :
    Progressing app after := by
  have orderly : Orderly app db :=
    ⟨progressing.consistent, progressing.onTrack⟩
  have next := orderly.step handles
  constructor
  · exact next.consistent
  · exact next.onTrack
  · exact progressing.within.bred (orderly.bred handles) careful
  · exact pointsFit_of_handles handles progressing.fit

/-- Every pair that is breeding can be leveled up or finalized, as long as no
pair is leveled up at the target level. -/
theorem pairs_advanceable
    (run : Run (liveApp network) admitted .empty steps final)
    (careful : ∀ step ∈ steps,
      ¬ Overshoots (liveApp network) admitted step.source step.label.request) :
    ∀ state ∈ states .empty steps, ∀ pair ∈ state.breedPair.rows,
      pair.status = .PAIRED → Advanceable (liveApp network) state pair := by
  have progressing : ∀ state ∈ states .empty steps,
      Progressing (liveApp network) state :=
    run.forall_states (.empty _) fun step member before handles =>
      before.step handles (careful step member)
  intro state reached pair listed paired
  obtain ⟨-, onTrack, within, fit⟩ := progressing state reached
  have priced : (0 : Int) ≤ 15 := by decide
  exact advanceable_of_onTrack onTrack fit priced listed paired
    (within pair listed paired)

end Runs

/-- The pair of `breedingScript`, leveled up once more. -/
def overshootScript : List (Request × Oracle) :=
  breedingScript ++
    [(.levelBreedingUp alice ⟨1, 17, 18⟩, .agreeable "alice" (period 5))]

theorem breeding_pair_stuck :
    Run (liveApp .goerli) (fun _ => True) .empty
        (serve (liveApp .goerli) overshootScript .empty).1
        (serve (liveApp .goerli) overshootScript .empty).2 ∧
      ∃ pair ∈ (serve (liveApp .goerli) overshootScript .empty).2.breedPair.rows,
        pair.status = .PAIRED ∧
        ¬ Advanceable (liveApp .goerli)
          (serve (liveApp .goerli) overshootScript .empty).2 pair ∧
        ∀ maleBudId femaleBudId,
          ¬ Accepted (liveApp .goerli)
              (serve (liveApp .goerli) overshootScript .empty).2 pair
              (.levelBreedingUp alice ⟨pair.id, maleBudId, femaleBudId⟩) ∧
            ¬ Accepted (liveApp .goerli)
              (serve (liveApp .goerli) overshootScript .empty).2 pair
              (.finalizeBreeding alice ⟨pair.id, maleBudId, femaleBudId⟩) := by
  have reached :
      ∃ pair ∈ (serve (liveApp .goerli) overshootScript .empty).2.breedPair.rows,
        pair.status = .PAIRED ∧ pair.userAddress = "alice" ∧
          pair.gameItemId = none ∧ 5 < pair.currentLevel ∧
          ∀ level ∈ (serve (liveApp .goerli) overshootScript
            .empty).2.breedLevel.rows,
              BreedService.currentLevelOf pair level = false := by
    rw [overshootScript, serve_breedingScript]
    decide +kernel
  obtain ⟨pair, listed, paired, owner, item, past, closed⟩ := reached
  refine ⟨run_of_serve _ _ _, pair, listed, paired, ?_, ?_⟩
  · intro given
    obtain ⟨level, present, current, -⟩ := given
    rw [closed level present] at current
    cases current
  · have favourable : Favourable (liveApp .goerli)
        (serve (liveApp .goerli) overshootScript .empty).2 pair
        (.agreeable "alice" 0) := by
      constructor
      · intro level present current
        rw [closed level present] at current
        cases current
      · rw [owner]
        rfl
      · rw [owner]
        rfl
      · intro gameItemId used
        rw [item] at used
        cases used
    exact stuck_past_target listed paired owner.symm past closed favourable

theorem pairs_advanceable_breeding :
    ∃ pair ∈ (serve (liveApp .goerli) breedingScript .empty).2.breedPair.rows,
      pair.currentLevel = 5 ∧
        Advanceable (liveApp .goerli)
          (serve (liveApp .goerli) breedingScript .empty).2 pair := by
  have served := serve_breedingScript []
  rw [List.append_nil] at served
  have below : ∀ step ∈ (serve (liveApp .goerli) breedingScript .empty).1,
      ∀ pair ∈ step.source.breedPair.rows, pair.currentLevel ≠ 5 := by
    rw [served]
    decide +kernel
  have bred : ∃ pair ∈
      (serve (liveApp .goerli) breedingScript .empty).2.breedPair.rows,
        pair.status = .PAIRED ∧ pair.currentLevel = 5 := by
    rw [served]
    decide +kernel
  have run := run_of_serve (liveApp .goerli) breedingScript .empty
  obtain ⟨pair, listed, paired, reached⟩ := bred
  refine ⟨pair, listed, reached, ?_⟩
  apply pairs_advanceable run _ _ run.final_mem_states pair listed paired
  intro step member overshoots
  cases asked : step.label.request with
  | levelBreedingUp req body =>
      rw [asked] at overshoots
      obtain ⟨other, level, buds, paid, granted, atTarget, -⟩ := overshoots
      exact below step member other granted.listed atTarget
  | _ =>
      rw [asked] at overshoots
      exact overshoots

end BudBreeding.Lifecycle
