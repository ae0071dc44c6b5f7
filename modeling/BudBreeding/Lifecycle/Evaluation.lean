import Mathlib.Data.List.Permutation
import BudBreeding.Lifecycle.Retries

namespace BudBreeding.Lifecycle

open Data Program Backend

/-! `evaluateBreedLevel` on its own: the buds it takes, and the mark it leaves. -/

/-- A male and a female bud of the level, named by their ids. -/
structure Choice (db : Db) (level : BreedLevel) (maleBudId femaleBudId : Int)
    (male female : BreedBud) : Prop where
  maleBred : male ∈ budsOf db level.id
  femaleBred : female ∈ budsOf db level.id
  maleId : male.id = maleBudId
  femaleId : female.id = femaleBudId
  isMale : male.gender = .M
  isFemale : female.gender = .F

/-- The current level of the pair is not evaluated yet, and its time has elapsed
whenever the clock is read. -/
structure Awaiting (app : App) (admitted : Oracle → Prop) (db : Db)
    (pair : BreedPair) (level : BreedLevel) : Prop where
  listed : level ∈ db.breedLevel.rows
  current : BreedService.currentLevelOf pair level = true
  unevaluated : level.bonusRate = 0
  elapsed : ∀ oracle, admitted oracle →
    BreedService.breedTimeElapsed app oracle.now level.createdAt
      pair.gameItemId = true

section Selection

variable {app : App} {admitted : Oracle → Prop} {db : Db} {pair : BreedPair}
  {level : BreedLevel} {buds : List BreedBud} {maleBudId femaleBudId : Int}
  {male female : BreedBud}

/-- What `evaluateBreedLevel` records and returns for two buds. -/
def verdict (app : App) (male female : BreedBud) : BreedService.Evaluation where
  bonusRate := breedRate app male + breedRate app female
  maleBud := some male.toBud
  femaleBud := some female.toBud

theorem evaluationOf_perm (isMale : male.gender = .M) (isFemale : female.gender = .F)
    (chosen : buds.Perm [male, female]) :
    BreedService.evaluationOf app buds = verdict app male female := by
  have summed : (buds.map (breedRate app)).sum =
      breedRate app male + breedRate app female := by
    rw [(chosen.map (breedRate app)).sum_eq]
    simp
  -- Whichever row comes first, the loop ends with one bud of each gender.
  have last : BreedService.lastOfGender .M buds[0]? buds = some male ∧
      BreedService.lastOfGender .F buds[1]? buds = some female := by
    cases List.perm_pair.mp chosen with
    | inl inOrder =>
        rw [inOrder]
        simp [BreedService.lastOfGender, isMale, isFemale]
    | inr swapped =>
        rw [swapped]
        simp [BreedService.lastOfGender, isMale, isFemale]
  unfold BreedService.evaluationOf verdict
  rw [last.1, last.2]
  exact congrArg (fun bonus => BreedService.Evaluation.mk bonus _ _) summed

theorem choice_of_evaluable
    (evaluable : Evaluable app admitted db pair maleBudId femaleBudId level buds) :
    ∃ male female, Choice db level maleBudId femaleBudId male female ∧
      buds.Perm [male, female] := by
  obtain ⟨male, maleBred, female, femaleBred, isMale, isFemale, maleId, femaleId,
    chosen⟩ := exists_chosen evaluable
  exact ⟨male, female, ⟨maleBred, femaleBred, maleId, femaleId, isMale, isFemale⟩,
    chosen⟩

theorem Choice.eq {other rival : BreedBud}
    (choice : Choice db level maleBudId femaleBudId male female)
    (same : Choice db level maleBudId femaleBudId other rival) :
    other = male ∧ rival = female := by
  have stored : ∀ {bud : BreedBud}, bud ∈ budsOf db level.id → bud ∈ db.breedBud.rows :=
    fun bred => (List.mem_filter.mp bred).1
  constructor
  · exact db.breedBud.eq_of_key_eq (stored same.maleBred) (stored choice.maleBred)
      (same.maleId.trans choice.maleId.symm)
  · exact db.breedBud.eq_of_key_eq (stored same.femaleBred) (stored choice.femaleBred)
      (same.femaleId.trans choice.femaleId.symm)

theorem Choice.gendered (choice : Choice db level maleBudId femaleBudId male female)
    (chosen : buds.Perm (db.breedBud.rows.filter
      (BreedService.chosenBuds maleBudId femaleBudId level.id))) :
    BudService.checkBudPairGenders (buds.map fun bud => (bud.id, bud.gender))
      maleBudId femaleBudId = true := by
  obtain ⟨maleBred, femaleBred, rfl, rfl, isMale, isFemale⟩ := choice
  obtain ⟨maleStored, maleLevel⟩ := List.mem_filter.mp maleBred
  obtain ⟨femaleStored, femaleLevel⟩ := List.mem_filter.mp femaleBred
  exact genders_chosen maleStored femaleStored (of_decide_eq_true maleLevel)
    (of_decide_eq_true femaleLevel) isMale isFemale chosen

theorem evaluateLevel_of_choice
    (choice : Choice db level maleBudId femaleBudId male female)
    (chosen : buds.Perm [male, female]) :
    db.evaluateLevel app level buds maleBudId femaleBudId =
      db.updateBreedLevel (fun other => other.id = level.id)
        { bonusRate := breedRate app male + breedRate app female
          maleBreedBudId := maleBudId
          femaleBreedBudId := femaleBudId } := by
  rw [Db.evaluateLevel, evaluationOf_perm choice.isMale choice.isFemale chosen]
  rfl

/-- `evaluateBreedLevel` takes just a male and a female bud of the level, in whatever
order their rows come back, and records the sum of their rates. -/
theorem selection_exact (unique : LevelsUnique db)
    (awaiting : Awaiting app admitted db pair level) (maleBudId femaleBudId : Int) :
    (surroundings admitted).Ensures
      (BreedService.evaluateBreedLevel app pair maleBudId femaleBudId)
      (fun result after =>
        ((∃ evaluation, result = .ok evaluation) ↔
          ∃ male female, Choice db level maleBudId femaleBudId male female) ∧
        (∀ evaluation male female, result = .ok evaluation →
          Choice db level maleBudId femaleBudId male female →
            evaluation = verdict app male female ∧
            after = db.updateBreedLevel (fun other => other.id = level.id)
              { bonusRate := breedRate app male + breedRate app female
                maleBreedBudId := maleBudId
                femaleBreedBudId := femaleBudId }) ∧
        ∀ error, result = .error error → after = db) db := by
  refine World.ensures_tail.mp (ensures_evaluateBreedLevel ?_ ?_ ?_)
  · intro missing
    have unmatched := missing level awaiting.listed
    rw [awaiting.current] at unmatched
    cases unmatched
  · intro other listed current reason error
    obtain rfl := unique.current_eq awaiting.listed listed awaiting.current current
    have unfit : ¬ ∃ male female,
        Choice db other maleBudId femaleBudId male female := by
      intro fit
      obtain ⟨male, female, choice⟩ := fit
      rcases reason with changed | ⟨oracle, allowed, early⟩ | ⟨buds, chosen, mismatch⟩
      · exact changed awaiting.unevaluated
      · rw [awaiting.elapsed oracle allowed] at early
        cases early
      · rw [choice.gendered chosen] at mismatch
        cases mismatch
    refine ⟨iff_of_false ?_ unfit, ?_, fun _ _ => rfl⟩
    · intro succeeded
      obtain ⟨evaluation, answered⟩ := succeeded
      cases answered
    · intro evaluation male female answered
      cases answered
  · intro other buds evaluable
    obtain rfl := unique.current_eq awaiting.listed evaluable.listed awaiting.current
      evaluable.current
    obtain ⟨male, female, choice, chosen⟩ := choice_of_evaluable evaluable
    refine World.ensures_pure.mpr ⟨iff_of_true ⟨_, rfl⟩ ⟨male, female, choice⟩, ?_, ?_⟩
    · intro evaluation picked partner answered same
      obtain ⟨rfl, rfl⟩ := choice.eq same
      cases answered
      exact ⟨evaluationOf_perm choice.isMale choice.isFemale chosen,
        evaluateLevel_of_choice choice chosen⟩
    · intro error failed
      cases failed

theorem selection_exact_paired :
    ∃ pair ∈ paired.breedPair.rows,
      (surroundings (Eq (.agreeable "alice" (period 1)))).Ensures
        (BreedService.evaluateBreedLevel (liveApp .goerli) pair 1 2)
        (fun result _ => ∃ evaluation, result = .ok evaluation) paired ∧
      (surroundings (Eq (.agreeable "alice" (period 1)))).Ensures
        (BreedService.evaluateBreedLevel (liveApp .goerli) pair 2 1)
        (fun result _ => ¬ ∃ evaluation, result = .ok evaluation) paired := by
  have stored : ∃ pair ∈ paired.breedPair.rows, ∃ level ∈ paired.breedLevel.rows,
      BreedService.currentLevelOf pair level = true ∧ level.bonusRate = 0 ∧
      BreedService.breedTimeElapsed (liveApp .goerli) (period 1) level.createdAt
        pair.gameItemId = true ∧
      (∃ male ∈ budsOf paired level.id, ∃ female ∈ budsOf paired level.id,
        male.id = 1 ∧ female.id = 2 ∧ male.gender = .M ∧ female.gender = .F) ∧
      ∀ bud ∈ budsOf paired level.id, bud.id = 2 → bud.gender ≠ .M := by
    rw [paired_eq]
    decide +kernel
  obtain ⟨pair, present, level, listed, current, unevaluated, elapsed, both, apart⟩ :=
    stored
  obtain ⟨male, maleBred, female, femaleBred, maleId, femaleId, isMale, isFemale⟩ := both
  have awaiting : Awaiting (liveApp .goerli) (Eq (.agreeable "alice" (period 1))) paired
      pair level := by
    refine ⟨listed, current, unevaluated, ?_⟩
    intro oracle same
    rw [← same]
    exact elapsed
  refine ⟨pair, present, ?_, ?_⟩
  · refine (selection_exact levelsUnique_paired awaiting 1 2).mono ?_
    intro result after exact
    exact exact.1.mpr
      ⟨male, female, maleBred, femaleBred, maleId, femaleId, isMale, isFemale⟩
  · refine (selection_exact levelsUnique_paired awaiting 2 1).mono ?_
    intro result after exact succeeded
    obtain ⟨other, _, choice⟩ := exact.1.mp succeeded
    exact apart other choice.maleBred choice.maleId choice.isMale

end Selection

section Once

variable {app : App} {admitted : Oracle → Prop} {db after last : Db}
  {request : Request} {response : Except Failure Response}

/-- Levels that carry a bonus stay as they are, and levels stay unique. -/
structure Settles (db after : Db) : Prop where
  kept : ∀ level ∈ db.breedLevel.rows, level.bonusRate ≠ 0 →
    level ∈ after.breedLevel.rows
  unique : LevelsUnique db → LevelsUnique after

namespace Settles

theorem of_same (same : after.breedLevel = db.breedLevel) : Settles db after := by
  constructor
  · intro level listed _
    rw [same]
    exact listed
  · intro unique
    rw [LevelsUnique, same]
    exact unique

theorem trans (first : Settles db after) (second : Settles after last) :
    Settles db last where
  kept level listed marked := second.kept level (first.kept level listed marked) marked
  unique unique := second.unique (first.unique unique)

theorem evaluate {level : BreedLevel} {buds : List BreedBud}
    {maleBudId femaleBudId : Int} (listed : level ∈ db.breedLevel.rows)
    (unevaluated : level.bonusRate = 0) :
    Settles db (db.evaluateLevel app level buds maleBudId femaleBudId) := by
  constructor
  · intro other present marked
    apply Serial.mem_modify.mpr
    refine ⟨other, present, ?_⟩
    rw [if_neg]
    intro chosen
    rw [db.breedLevel.eq_of_key_eq present listed (of_decide_eq_true chosen)] at marked
    exact marked unevaluated
  · intro unique first firstListed second secondListed samePair sameNumber
    obtain ⟨old, present, id, pairId, number, -⟩ := exists_evaluateLevel firstListed
    obtain ⟨other, stored, otherId, otherPairId, otherNumber, -⟩ :=
      exists_evaluateLevel secondListed
    have same := unique old present other stored
      (by rw [← pairId, ← otherPairId, samePair])
      (by rw [← number, ← otherNumber, sameNumber])
    apply (db.evaluateLevel app level buds maleBudId
      femaleBudId).breedLevel.eq_of_key_eq firstListed secondListed
    rw [id, otherId, same]

theorem start {pair : BreedPair} (started : LevelStarted app db pair after) :
    Settles db after := by
  cases started with
  | beyond past => exact of_same rfl
  | within reachable free buds genders created bred =>
      constructor
      · intro level listed _
        exact List.mem_append_left _ listed
      · intro unique first firstListed second secondListed samePair sameNumber
        cases List.mem_append.mp firstListed with
        | inl firstOld =>
            cases List.mem_append.mp secondListed with
            | inl secondOld => exact unique first firstOld second secondOld samePair sameNumber
            | inr secondNew =>
                rw [List.mem_singleton.mp secondNew] at samePair sameNumber
                exact absurd sameNumber (free first firstOld samePair)
        | inr firstNew =>
            cases List.mem_append.mp secondListed with
            | inl secondOld =>
                rw [List.mem_singleton.mp firstNew] at samePair sameNumber
                exact absurd sameNumber.symm (free second secondOld samePair.symm)
            | inr secondNew =>
                rw [List.mem_singleton.mp firstNew, List.mem_singleton.mp secondNew]

end Settles

theorem settles_sameBut {name : Option TableName} (same : Db.SameBut name db after)
    (apart : name ≠ some .breedLevel) : Settles db after :=
  .of_same (same.breedLevel apart)

theorem settles_granted {req : Req} {body : BreedFinalizeDto} {pair : BreedPair}
    {level : BreedLevel} {buds : List BreedBud}
    (granted : FinalizeGranted app admitted db req body pair level buds) :
    Settles db (db.evaluateLevel app level buds body.maleBudId body.femaleBudId) :=
  .evaluate granted.evaluable.listed granted.evaluable.unevaluated

/-- The step lemma: no request changes a level that carries a bonus. -/
theorem settles_of_outcome (outcome : Outcome app admitted db request response after) :
    Settles db after := by
  cases outcome with
  | @loggedIn body =>
      refine .of_same (((Db.sameBut_upsertUser _ _ _ _).breedLevel (by decide)).trans ?_)
      exact (Db.sameBut_addSlots _ _ _).breedLevel (by decide)
  | slotOpened listed own closed charged =>
      exact .of_same charged.breedLevel
  | slotConverted listed own outdoor charged =>
      exact .of_same charged.breedLevel
  | landPurchased charged =>
      refine .of_same (((Db.sameBut_addSlots _ _ _).breedLevel (by decide)).trans ?_)
      exact charged.breedLevel
  | pairRejected granted =>
      exact settles_sameBut (Db.sameBut_upgradeSlot _ _ _) (by decide)
  | @levelClashed req body slot =>
      exact .of_same (db.breedLevel_upgradeSlot body slot)
  | @pairCreated req body slot _ _ _ _ granted started =>
      refine Settles.trans (.of_same ?_) (.start started)
      exact db.breedLevel_upgradeSlot body slot
  | levelCharged granted charged =>
      exact settles_sameBut charged.sameBut (by decide)
  | levelEvaluated granted charged evaluable =>
      have paid := settles_sameBut charged.sameBut (by decide)
      refine paid.trans (.evaluate ?_ evaluable.unevaluated)
      rw [charged.breedLevel]
      exact evaluable.listed
  | leveledUp granted charged evaluable started =>
      have paid := settles_sameBut charged.sameBut (by decide)
      refine (paid.trans (.evaluate ?_ evaluable.unevaluated)).trans (.start started)
      rw [charged.breedLevel]
      exact evaluable.listed
  | finalizeBlocked granted => exact settles_granted granted
  | finalizeLost granted => exact (settles_granted granted).trans (.of_same rfl)
  | finalizeUnsigned granted next =>
      refine (settles_granted granted).trans (.of_same ?_)
      exact next.breedLevel
  | finalizeWon granted next =>
      refine (settles_granted granted).trans (.of_same ?_)
      exact next.breedLevel
  | _ => exact .of_same rfl

/-- Something the server does: it handles a request, or a level is evaluated apart from
any request. -/
inductive Activity where
  | request (exchange : Exchange)
  | evaluation (pair : BreedPair) (maleBudId femaleBudId : Int)
      (result : Except Failure BreedService.Evaluation)

def Acts (app : App) (admitted : Oracle → Prop) (db : Db) : Activity → Db → Prop
  | .request exchange, after => Handles app admitted db exchange after
  | .evaluation pair maleBudId femaleBudId result, after =>
      (surroundings admitted).Runs
        (BreedService.evaluateBreedLevel app pair maleBudId femaleBudId) db result after

/-- No later evaluation of this level of the pair succeeds, and its row does not change
again. -/
def Final (app : App) (admitted : Oracle → Prop) (db : Db) (pair : BreedPair) : Prop :=
  ∀ (steps : List (Transition Db Activity)) (last : Db),
    History (Acts app admitted) db steps last →
    (∀ step ∈ steps, ∀ later maleBudId femaleBudId result,
      step.label = .evaluation later maleBudId femaleBudId result →
      later.id = pair.id → later.currentLevel = pair.currentLevel →
      ∃ error, result = .error error) ∧
    ∀ level ∈ db.breedLevel.rows, BreedService.currentLevelOf pair level = true →
      level ∈ last.breedLevel.rows

theorem ensures_evaluated (pair : BreedPair) (maleBudId femaleBudId : Int) :
    (surroundings admitted).Ensures
      (BreedService.evaluateBreedLevel app pair maleBudId femaleBudId)
      (fun result after => ((∃ error, result = .error error) ∧ after = db) ∨
        ∃ level buds,
          Evaluable app admitted db pair maleBudId femaleBudId level buds ∧
          result = .ok (BreedService.evaluationOf app buds) ∧
          after = db.evaluateLevel app level buds maleBudId femaleBudId) db := by
  refine World.ensures_tail.mp (ensures_evaluateBreedLevel ?_ ?_ ?_)
  · intro _ error
    exact .inl ⟨⟨error, rfl⟩, rfl⟩
  · intro _ _ _ _ error
    exact .inl ⟨⟨error, rfl⟩, rfl⟩
  · intro level buds evaluable
    exact World.ensures_pure.mpr (.inr ⟨level, buds, evaluable, rfl, rfl⟩)

theorem settles_of_acts {activity : Activity} (acts : Acts app admitted db activity after) :
    Settles db after := by
  cases activity with
  | request exchange => exact settles_of_outcome (outcome_of_handles acts)
  | evaluation pair maleBudId femaleBudId result =>
      cases ensures_evaluated pair maleBudId femaleBudId result after acts with
      | inl failed =>
          rw [failed.2]
          exact .of_same rfl
      | inr evaluated =>
          obtain ⟨level, buds, evaluable, -, rfl⟩ := evaluated
          exact .evaluate evaluable.listed evaluable.unevaluated

/-- A current level that carries a bonus is final. -/
theorem final_of_marked {pair : BreedPair} {level : BreedLevel} (unique : LevelsUnique db)
    (listed : level ∈ db.breedLevel.rows)
    (current : BreedService.currentLevelOf pair level = true)
    (marked : level.bonusRate ≠ 0) : Final app admitted db pair := by
  intro steps last history
  have settled : ∀ state ∈ states db steps,
      level ∈ state.breedLevel.rows ∧ LevelsUnique state := by
    refine history.forall_states ⟨listed, unique⟩ ?_
    intro step _ before acts
    have settles := settles_of_acts acts
    exact ⟨settles.kept level before.1 marked, settles.unique before.2⟩
  constructor
  · intro step member later maleBudId femaleBudId result evaluates samePair sameNumber
    obtain ⟨reached, -, acts⟩ := history.source_mem_states member
    obtain ⟨present, distinct⟩ := settled step.source reached
    rw [evaluates] at acts
    cases ensures_evaluated later maleBudId femaleBudId result step.target acts with
    | inl failed => exact failed.1
    | inr evaluated =>
        obtain ⟨other, buds, evaluable, -, -⟩ := evaluated
        have its : BreedService.currentLevelOf later level = true := by
          rw [BreedService.currentLevelOf, samePair, sameNumber]
          exact current
        have same := distinct.current_eq present evaluable.listed its evaluable.current
        rw [← same] at marked
        exact absurd evaluable.unevaluated marked
  · intro other otherListed its
    rw [unique.current_eq listed otherListed current its]
    exact (settled last history.final_mem_states).1

theorem mem_evaluated {level : BreedLevel} {buds : List BreedBud}
    {maleBudId femaleBudId : Int} {male female : BreedBud}
    (listed : level ∈ db.breedLevel.rows)
    (choice : Choice db level maleBudId femaleBudId male female)
    (chosen : buds.Perm [male, female]) :
    { level with
      bonusRate := breedRate app male + breedRate app female
      maleBreedBudId := some maleBudId
      femaleBreedBudId := some femaleBudId } ∈
      (db.evaluateLevel app level buds maleBudId femaleBudId).breedLevel.rows := by
  rw [evaluateLevel_of_choice choice chosen]
  apply Serial.mem_modify.mpr
  refine ⟨level, listed, ?_⟩
  rw [if_pos (decide_eq_true rfl)]
  rfl

/-- A level whose evaluation came to nothing can be evaluated again. -/
theorem not_final_of_unmarked {pair : BreedPair} {level : BreedLevel}
    {buds : List BreedBud} {maleBudId femaleBudId : Int} (unique : LevelsUnique db)
    (evaluable : Evaluable app admitted db pair maleBudId femaleBudId level buds) :
    ¬ Final app admitted db pair := by
  intro final
  have rejected : (surroundings admitted).Ensures
      (BreedService.evaluateBreedLevel app pair maleBudId femaleBudId)
      (fun result _ => ∃ error, result = .error error) db := by
    intro result last runs
    have history : History (Acts app admitted) db
        ([] ++ [⟨db, .evaluation pair maleBudId femaleBudId result, last⟩]) last :=
      History.nil.snoc runs
    exact (final _ last history).1 _ (List.mem_singleton_self _) _ _ _ _ rfl rfl rfl
  obtain ⟨result, last, runs, evaluation, rfl⟩ := may_evaluateBreedLevel unique evaluable
    (fun evaluation =>
      (⟨_, _, .pure, evaluation, rfl⟩ : (surroundings admitted).May (Pure.pure evaluation)
        (fun result _ => ∃ evaluation, result = .ok evaluation) _))
  obtain ⟨error, failed⟩ := World.ensures_tail.mpr rejected _ _ runs
  cases failed

/-- The evaluation of a level is final just when the rates of the chosen buds leave a
bonus. -/
theorem evaluated_once_iff {pair : BreedPair} {maleBudId femaleBudId : Int}
    {evaluation : BreedService.Evaluation} (unique : LevelsUnique db)
    (evaluated : (surroundings admitted).Runs
      (BreedService.evaluateBreedLevel app pair maleBudId femaleBudId) db
      (.ok evaluation) after) :
    Final app admitted after pair ↔
      ∀ male ∈ db.breedBud.rows, ∀ female ∈ db.breedBud.rows,
        male.id = maleBudId → female.id = femaleBudId →
        breedRate app male + breedRate app female ≠ 0 := by
  have known := ensures_evaluated pair maleBudId femaleBudId _ _ evaluated
  obtain ⟨⟨error, failed⟩, -⟩ | ⟨level, buds, evaluable, -, rfl⟩ := known
  · cases failed
  obtain ⟨male, female, choice, chosen⟩ := choice_of_evaluable evaluable
  have maleStored : male ∈ db.breedBud.rows := (List.mem_filter.mp choice.maleBred).1
  have femaleStored : female ∈ db.breedBud.rows :=
    (List.mem_filter.mp choice.femaleBred).1
  have listed := @mem_evaluated app db level buds maleBudId femaleBudId male female
    evaluable.listed choice chosen
  have distinct := (@Settles.evaluate app db level buds maleBudId femaleBudId
    evaluable.listed evaluable.unevaluated).unique unique
  constructor
  · intro final other otherStored rival rivalStored otherId rivalId cancelled
    obtain rfl := db.breedBud.eq_of_key_eq otherStored maleStored
      (otherId.trans choice.maleId.symm)
    obtain rfl := db.breedBud.eq_of_key_eq rivalStored femaleStored
      (rivalId.trans choice.femaleId.symm)
    rw [cancelled] at listed
    have again : Evaluable app admitted
        (db.evaluateLevel app level buds maleBudId femaleBudId) pair maleBudId
        femaleBudId _ buds := ⟨listed, evaluable.current, rfl, evaluable.elapsed,
      evaluable.chosen, evaluable.gendered⟩
    exact not_final_of_unmarked distinct again final
  · intro rated
    exact final_of_marked distinct listed evaluable.current
      (rated male maleStored female femaleStored choice.maleId choice.femaleId)

/-- An oracle that draws a number near one: the buds it draws are too big for the
table of rates. -/
def generous (now : Time) : Oracle :=
  { Oracle.agreeable "alice" now with
    random := ⟨99/100, by decide +kernel, by decide +kernel⟩ }

def unrated : Db :=
  (serve (liveApp .goerli) [(.createPair alice ⟨1, 2, 1, none, none⟩, generous (period 0))]
    signedUp).2

def evaluateFirst (pair : BreedPair) (db : Db) :
    Except Failure BreedService.Evaluation × Db :=
  (surroundings fun _ => True).run (fun _ => .agreeable "alice" (period 1))
    (BreedService.evaluateBreedLevel (liveApp .goerli) pair 1 2) db

theorem runs_evaluateFirst (pair : BreedPair) (db : Db) :
    (surroundings fun _ => True).Runs
      (BreedService.evaluateBreedLevel (liveApp .goerli) pair 1 2) db
      (evaluateFirst pair db).1 (evaluateFirst pair db).2 :=
  World.runs_run (fun _ _ => trivial) _ _

theorem evaluated_once_iff_paired :
    ∃ pair ∈ paired.breedPair.rows,
      Final (liveApp .goerli) (fun _ => True) (evaluateFirst pair paired).2 pair := by
  have succeeds : ∃ pair ∈ paired.breedPair.rows,
      (evaluateFirst pair paired).1.isOk = true := by
    rw [paired_eq]
    decide +kernel
  have rated : ∀ male ∈ paired.breedBud.rows, ∀ female ∈ paired.breedBud.rows,
      male.id = 1 → female.id = 2 →
      breedRate (liveApp .goerli) male + breedRate (liveApp .goerli) female ≠ 0 := by
    rw [paired_eq]
    decide +kernel
  obtain ⟨pair, present, answered⟩ := succeeds
  have runs := runs_evaluateFirst pair paired
  cases outcome : (evaluateFirst pair paired).1 with
  | error error =>
      rw [outcome] at answered
      cases answered
  | ok evaluation =>
      rw [outcome] at runs
      exact ⟨pair, present, (evaluated_once_iff levelsUnique_paired runs).mpr rated⟩

/-- Two buds without rates are chosen, and chosen again. -/
theorem unrated_level_evaluated_twice :
    ¬ ∀ (app : App) (admitted : Oracle → Prop) (db after : Db) (pair : BreedPair)
        (maleBudId femaleBudId : Int) (evaluation : BreedService.Evaluation),
      LevelsUnique db →
      (surroundings admitted).Runs
        (BreedService.evaluateBreedLevel app pair maleBudId femaleBudId) db
        (.ok evaluation) after →
      Final app admitted after pair := by
  intro always
  have unique : LevelsUnique unrated := by
    unfold LevelsUnique
    decide +kernel
  have twice : ∃ pair ∈ unrated.breedPair.rows,
      (evaluateFirst pair unrated).1.isOk = true ∧
      (evaluateFirst pair (evaluateFirst pair unrated).2).1.isOk = true := by
    decide +kernel
  obtain ⟨pair, -, first, second⟩ := twice
  have runs := runs_evaluateFirst pair unrated
  cases outcome : (evaluateFirst pair unrated).1 with
  | error error =>
      rw [outcome] at first
      cases first
  | ok evaluation =>
      rw [outcome] at runs
      have final := always _ _ _ _ _ _ _ _ unique runs
      have again := runs_evaluateFirst pair (evaluateFirst pair unrated).2
      have history : History (Acts (liveApp .goerli) fun _ => True)
          (evaluateFirst pair unrated).2 ([] ++ [⟨_, .evaluation pair 1 2 _, _⟩]) _ :=
        History.nil.snoc again
      obtain ⟨error, failed⟩ := (final _ _ history).1 _ (List.mem_singleton_self _)
        _ _ _ _ rfl rfl rfl
      rw [failed] at second
      cases second

end Once

end BudBreeding.Lifecycle
