import BudBreeding.Lifecycle.Odds
import BudBreeding.Lifecycle.Progress
import BudBreeding.Points.Book

namespace BudBreeding.Lifecycle

open Data Program Backend

/-! Requests that can fail after they have written something. -/

/-- Every failing run of the request leaves the database as it was. -/
def Atomic (app : App) (admitted : Oracle → Prop) (db : Db) (request : Request) : Prop :=
  ∀ response after, Handles app admitted db ⟨request, response⟩ after →
    ∀ error, response = .error error → after = db

theorem not_atomic_of_may {app : App} {admitted : Oracle → Prop} {db : Db}
    {request : Request}
    (may : (surroundings admitted).May (handle app request)
      (fun response after => (∃ error, response = .error error) ∧ after ≠ db) db) :
    ¬ Atomic app admitted db request := by
  intro atomic
  obtain ⟨response, after, runs, ⟨error, failed⟩, changed⟩ := may
  exact changed (atomic response after runs error failed)

section LevelUp

variable {app : App} {admitted : Oracle → Prop} {db : Db} {req : Req}
  {body : BreedUpDto} {pair : BreedPair}

/-- `levelBreedingUp` gets past its debit. -/
structure Chargeable (app : App) (admitted : Oracle → Prop) (db : Db) (req : Req)
    (body : BreedUpDto) (pair : BreedPair) : Prop where
  granted : LevelGranted app admitted db req body pair
  valid : ValidBudId pair.maleBudId ∧ ValidBudId pair.femaleBudId
  covered : CanPayLevel app db req.user

/-- What keeps `levelBreedingUp` from evaluating the level of the pair, or from starting
the next one. -/
inductive Unready (app : App) (admitted : Oracle → Prop) (db : Db) (pair : BreedPair)
    (body : BreedUpDto) : Prop
  | missing (none : ∀ level ∈ db.breedLevel.rows,
      BreedService.currentLevelOf pair level = false)
  | evaluated {level : BreedLevel} (listed : level ∈ db.breedLevel.rows)
      (current : BreedService.currentLevelOf pair level = true)
      (changed : level.bonusRate ≠ 0)
  | early {level : BreedLevel} {clock : Oracle} (listed : level ∈ db.breedLevel.rows)
      (current : BreedService.currentLevelOf pair level = true)
      (allowed : admitted clock)
      (breeding : BreedService.breedTimeElapsed app clock.now level.createdAt
        pair.gameItemId = false)
  | mismatched {level : BreedLevel} (listed : level ∈ db.breedLevel.rows)
      (current : BreedService.currentLevelOf pair level = true)
      (mismatch : BudService.checkBudPairGenders
        ((db.breedBud.rows.filter (BreedService.chosenBuds body.maleBudId
          body.femaleBudId level.id)).map fun bud => (bud.id, bud.gender))
        body.maleBudId body.femaleBudId = false)
  | taken {other : BreedLevel} (listed : other ∈ db.breedLevel.rows)
      (within : pair.currentLevel + 1 ≤ app.config.targetLevel)
      (samePair : other.pairId = pair.id)
      (sameLevel : other.level = pair.currentLevel + 1)

def LevelsUnique (db : Db) : Prop :=
  ∀ first ∈ db.breedLevel.rows, ∀ second ∈ db.breedLevel.rows,
    first.pairId = second.pairId → first.level = second.level → first = second

theorem LevelsUnique.current_eq (unique : LevelsUnique db) {level other : BreedLevel}
    (listed : level ∈ db.breedLevel.rows) (present : other ∈ db.breedLevel.rows)
    (current : BreedService.currentLevelOf pair level = true)
    (its : BreedService.currentLevelOf pair other = true) : other = level := by
  obtain ⟨owned, numbered⟩ := of_decide_eq_true its
  obtain ⟨levelOwned, levelNumbered⟩ := of_decide_eq_true current
  exact unique other present level listed (owned.trans levelOwned.symm)
    (numbered.trans levelNumbered.symm)

theorem checkBudPairGenders_perm {buds others : List BreedBud} (same : buds.Perm others)
    (maleBudId femaleBudId : Int) :
    BudService.checkBudPairGenders (buds.map fun bud => (bud.id, bud.gender)) maleBudId
        femaleBudId =
      BudService.checkBudPairGenders (others.map fun bud => (bud.id, bud.gender))
        maleBudId femaleBudId := by
  have mapped := same.map fun bud => (bud.id, bud.gender)
  unfold BudService.checkBudPairGenders
  rw [mapped.length_eq, mapped.all_eq]

theorem exists_evaluated {level other : BreedLevel} {buds : List BreedBud}
    {male female : Int} (listed : other ∈ db.breedLevel.rows) :
    ∃ row ∈ (db.evaluateLevel app level buds male female).breedLevel.rows,
      row.pairId = other.pairId ∧ row.level = other.level := by
  refine ⟨_, List.mem_map_of_mem listed, ?_⟩
  split
  · exact ⟨rfl, rfl⟩
  · exact ⟨rfl, rfl⟩

theorem paid_ne {address : Address} {amount : Int} {paid : Db}
    (positive : 0 < amount) (charged : db.Paid address amount paid) :
    paid.user ≠ db.user := by
  obtain ⟨user, found, covered, rfl⟩ := charged
  intro same
  have before := Points.book_eq_some.mpr ⟨user, found, rfl⟩
  have after := @Points.balance_setBreedingPoint db address user
    (user.breedingPoint - amount) found
  rw [Points.book_congr same, before] at after
  have unchanged := Option.some.inj after
  omega

theorem Unready.paid {address : Address} {amount : Int} {paid : Db} {oracle : Oracle}
    (unready : Unready app admitted db pair body) (allowed : admitted oracle)
    (charged : db.Paid address amount paid) :
    ∃ clock, admitted clock ∧ Unready app (Eq clock) paid pair body := by
  obtain ⟨user, -, -, rfl⟩ := charged
  cases unready with
  | missing none => exact ⟨oracle, allowed, .missing none⟩
  | evaluated listed current changed =>
      exact ⟨oracle, allowed, .evaluated listed current changed⟩
  | @early level clock listed current ticking breeding =>
      exact ⟨clock, ticking, .early listed current rfl breeding⟩
  | mismatched listed current mismatch =>
      exact ⟨oracle, allowed, .mismatched listed current mismatch⟩
  | taken listed within samePair sameLevel =>
      exact ⟨oracle, allowed, .taken listed within samePair sameLevel⟩

theorem fails_raiseLevel {clock : Oracle} (unique : LevelsUnique db)
    (unready : Unready app (Eq clock) db pair body)
    (stored : pair ∈ db.breedPair.rows) :
    (surroundings (Eq clock)).Ensures (BreedController.raiseLevel app body pair)
      (fun result after => (∃ error, result = .error error) ∧ after.user = db.user)
      db := by
  refine ensures_evaluateBreedLevel ?_ ?_ ?_
  · intro _ error
    exact ⟨⟨error, rfl⟩, rfl⟩
  · intro _ _ _ _ error
    exact ⟨⟨error, rfl⟩, rfl⟩
  · intro level buds evaluable
    have only : ∀ {other : BreedLevel}, other ∈ db.breedLevel.rows →
        BreedService.currentLevelOf pair other = true → other = level :=
      fun listed its => unique.current_eq evaluable.listed listed evaluable.current its
    cases unready with
    | missing none =>
        have unmatched := none level evaluable.listed
        rw [evaluable.current] at unmatched
        cases unmatched
    | evaluated listed current changed =>
        rw [only listed current] at changed
        exact absurd evaluable.unevaluated changed
    | early listed current allowed breeding =>
        rw [only listed current, ← allowed] at breeding
        obtain ⟨oracle, same, elapsed⟩ := evaluable.elapsed
        rw [← same, breeding] at elapsed
        cases elapsed
    | mismatched listed current mismatch =>
        rw [only listed current, ← checkBudPairGenders_perm evaluable.chosen,
          evaluable.gendered] at mismatch
        cases mismatch
    | @taken other listed within samePair sameLevel =>
        obtain ⟨maleBud, femaleBud, male, female⟩ := evaluable.parents
        rw [male, female]
        refine ensures_startBreedLevel ?_ ?_ ?_
        · intro absent
          exact absurd rfl (Table.find_eq_none.mp absent pair stored)
        · intro _ _ _ _ _ error
          exact ⟨⟨error, rfl⟩, rfl⟩
        · intro after started
          cases started with
          | beyond past => exact absurd past (not_lt.mpr within)
          | within reachable free buds genders created bred =>
              obtain ⟨row, present, same⟩ := exists_evaluated listed
              exact absurd (same.2.trans sameLevel)
                (free row present (same.1.trans samePair))

theorem exists_holder (holds : HoldsItem admitted db pair) {oracle : Oracle}
    (allowed : admitted oracle) :
    ∃ holder, admitted holder ∧ HoldsItem (Eq holder) db pair := by
  unfold HoldsItem at holds
  cases item : pair.gameItemId with
  | none =>
      refine ⟨oracle, allowed, ?_⟩
      intro id same
      cases item.symm.trans same
  | some id =>
      by_cases zero : id = 0
      · refine ⟨oracle, allowed, ?_⟩
        intro other same nonzero
        cases item.symm.trans same
        exact absurd zero nonzero
      · obtain ⟨holder, balance, granted, covered⟩ := holds id item zero
        refine ⟨holder, granted, ?_⟩
        intro other same _
        cases item.symm.trans same
        exact ⟨holder, balance, rfl, covered⟩

theorem may_chargeLevel {β : Type} {rest : BreedPair → Handler β}
    {post : Except Failure β → Db → Prop} (fit : PointsFit db)
    (price : 0 < app.config.breedingPointPerLevel)
    (chargeable : Chargeable app admitted db req body pair)
    (continued : ∀ paid, db.Paid req.user app.config.breedingPointPerLevel paid →
      (surroundings admitted).May (rest pair) post paid) :
    (surroundings admitted).May (BreedController.chargeLevel app req body >>= rest) post
      db := by
  obtain ⟨granted, ⟨male, female⟩, payer, stored, named, covered⟩ := chargeable
  obtain ⟨identified, owner, paired⟩ := of_decide_eq_true granted.own
  obtain ⟨oracle, allowed, maleOwner, femaleOwner⟩ := granted.owns
  obtain ⟨holder, holding, holds⟩ := exists_holder granted.item allowed
  apply World.May.bind
  rw [BreedController.chargeLevel, ← identified]
  refine returns_may_bind allowed (returns_ownPair granted.listed paired owner.symm) ?_
  intro found same
  rw [same]
  refine returns_may_bind allowed (World.returns_throwIf (not_lt.mpr granted.below)) ?_
  intro _ _
  refine returns_may_bind holding (returns_verifyGameItemPossession granted.listed paired
    fun _ same => same ▸ holds) ?_
  intro _ _
  refine returns_may_bind allowed (returns_verifyBudPairs male female
    fun _ same => same ▸ ⟨maleOwner, femaleOwner⟩) ?_
  intro _ _
  apply World.May.bind
  apply may_of_ensures allowed
  refine World.ensures_tail.mp (ensures_consumeBreedingPoint ?_ ?_)
  · intro short
    have rejected := short payer (Table.find_eq_some.mpr ⟨stored, named⟩) covered
    have bound := fit payer stored
    have accepted := toIntColumn_intCast
      (show 0 ≤ payer.breedingPoint - app.config.breedingPointPerLevel by omega)
      (by omega)
    rw [Int.cast_sub, rejected] at accepted
    cases accepted
  · intro user paid charged
    exact World.ensures_pure.mpr ⟨_, _, .pure, continued paid charged⟩

theorem may_levelUp (price : 0 < app.config.breedingPointPerLevel)
    (fit : PointsFit db) (unique : LevelsUnique db)
    (chargeable : Chargeable app admitted db req body pair)
    (unready : Unready app admitted db pair body) :
    (surroundings admitted).May (handle app (.levelBreedingUp req body))
      (fun response after => (∃ error, response = .error error) ∧ after ≠ db) db := by
  rw [handle]
  apply World.May.map
  rw [levelBreedingUp_eq]
  refine may_chargeLevel fit price chargeable ?_
  intro paid charged
  obtain ⟨oracle, allowed, -⟩ := chargeable.granted.owns
  obtain ⟨clock, ticking, reason⟩ := unready.paid allowed charged
  have changed := paid_ne price charged
  have levels : LevelsUnique paid := by
    rw [LevelsUnique, charged.breedLevel]
    exact unique
  have stored : pair ∈ paid.breedPair.rows := by
    rw [charged.breedPair]
    exact chargeable.granted.listed
  apply may_of_ensures ticking
  refine (fails_raiseLevel levels reason stored).mono ?_
  intro result after failed
  obtain ⟨⟨error, rfl⟩, users⟩ := failed
  refine ⟨⟨error, rfl⟩, ?_⟩
  intro restored
  rw [restored] at users
  exact changed users.symm

/-- With every chargeable level ready, what fails has failed before the debit. -/
theorem ensures_atomic
    (ready : ∀ pair, Chargeable app admitted db req body pair →
      ¬ Unready app admitted db pair body) :
    (surroundings admitted).Ensures (handle app (.levelBreedingUp req body))
      (fun response after => ∀ error, response = .error error → after = db) db := by
  rw [handle, World.ensures_map, levelBreedingUp_eq]
  refine ensures_chargeLevel (fun _ _ _ => rfl) ?_
  intro pair paid granted valid charged
  obtain ⟨payer, found, covered, rfl⟩ := charged
  obtain ⟨stored, named⟩ := Table.find_eq_some.mp found
  have settled := ready pair ⟨granted, valid, payer, stored, named, covered⟩
  refine ensures_evaluateBreedLevel ?_ ?_ ?_
  · intro none
    exact absurd (.missing none) settled
  · intro level listed current reason
    exfalso
    apply settled
    rcases reason with changed | ⟨clock, allowed, breeding⟩ | ⟨buds, chosen, mismatch⟩
    · exact .evaluated listed current changed
    · exact .early listed current allowed breeding
    · rw [checkBudPairGenders_perm chosen] at mismatch
      exact .mismatched listed current mismatch
  · intro level buds evaluable
    obtain ⟨maleBud, femaleBud, male, female⟩ := evaluable.parents
    rw [male, female]
    refine ensures_startBreedLevel ?_ ?_ ?_
    · intro absent
      exact absurd rfl (Table.find_eq_none.mp absent pair granted.listed)
    · intro within other listed samePair sameLevel
      obtain ⟨row, present, -, pairId, number, -⟩ := exists_evaluateLevel listed
      exact absurd (.taken present within (pairId.symm.trans samePair)
        (number.symm.trans sameLevel)) settled
    · intro after started
      refine World.ensures_pure.mpr ?_
      intro error impossible
      cases impossible

/-- `levelUp` is all or nothing just when nothing keeps the level from being evaluated,
and the next one from being started, once the user can be charged. -/
theorem levelUp_atomic_iff (price : 0 < app.config.breedingPointPerLevel)
    (fit : PointsFit db) (unique : LevelsUnique db) :
    Atomic app admitted db (.levelBreedingUp req body) ↔
      ∀ pair, Chargeable app admitted db req body pair →
        ¬ Unready app admitted db pair body := by
  constructor
  · intro atomic pair chargeable unready
    exact not_atomic_of_may (may_levelUp price fit unique chargeable unready) atomic
  · intro ready response after handled error failed
    exact ensures_atomic ready response after handled error failed

theorem levelsUnique_of_run {final : Db} {steps : List (Transition Db Exchange)}
    (run : Run app admitted .empty steps final) : LevelsUnique final :=
  (orderly_of_run run final run.final_mem_states).onTrack.single

theorem pointsFit_of_run {final : Db} {steps : List (Transition Db Exchange)}
    (run : Run app admitted .empty steps final) : PointsFit final := by
  have start : PointsFit .empty := by
    intro user member
    cases member
  refine run.forall_states start ?_ final run.final_mem_states
  intro step _ fit handles
  exact pointsFit_of_handles handles fit

def paired : Db :=
  breedingAfter 3

theorem paired_eq :
    paired = (serve (liveApp .goerli) (breedingScript.tail.take 2) signedUp).2 :=
  breedingAfter_succ 2

theorem run_paired :
    Run (liveApp .goerli) (fun _ => True) .empty
      (serve (liveApp .goerli) (breedingScript.take 3) .empty).1 paired :=
  run_breedingAfter (fun _ => trivial) 3

theorem fit_paired : PointsFit paired :=
  pointsFit_of_run run_paired

theorem levelsUnique_paired : LevelsUnique paired :=
  levelsUnique_of_run run_paired

theorem ready_paired :
    ∀ pair ∈ paired.breedPair.rows, ∃ level ∈ paired.breedLevel.rows,
      paired.breedLevel.rows.filter (BreedService.currentLevelOf pair) = [level] ∧
      level.bonusRate = 0 ∧
      BreedService.breedTimeElapsed (liveApp .goerli) (period 1) level.createdAt
        pair.gameItemId = true ∧
      BudService.checkBudPairGenders ((paired.breedBud.rows.filter
        (BreedService.chosenBuds 1 2 level.id)).map fun bud => (bud.id, bud.gender))
        1 2 = true ∧
      ∀ other ∈ paired.breedLevel.rows, other.pairId = pair.id →
        other.level ≠ pair.currentLevel + 1 := by
  rw [paired_eq]
  decide +kernel

/-- The buds of the pair have changed hands. -/
def strippedLevelUp (db : Db) : Except Failure Response × Db :=
  (surroundings fun _ => True).run (fun _ => .agreeable "bob" (period 1))
    (handle (liveApp .goerli) (.levelBreedingUp alice ⟨1, 1, 2⟩)) db

def Punctual (oracle : Oracle) : Prop :=
  ∃ account, oracle = .agreeable account (period 1)

theorem levelUp_atomic_iff_punctual :
    Atomic (liveApp .goerli) Punctual paired (.levelBreedingUp alice ⟨1, 1, 2⟩) ∧
      (strippedLevelUp paired).1 =
        .error (UnproceesableEntityError "Not the buds owner") ∧
      (strippedLevelUp paired).2 = paired := by
  have failed : (strippedLevelUp paired).1 =
      .error (UnproceesableEntityError "Not the buds owner") := by
    rw [paired_eq]
    decide +kernel
  suffices atomic : Atomic (liveApp .goerli) Punctual paired
      (.levelBreedingUp alice ⟨1, 1, 2⟩) from
    ⟨atomic, failed, atomic _ _ (handles_run _ ⟨"bob", rfl⟩ _ paired) _ failed⟩
  apply (levelUp_atomic_iff (by decide) fit_paired levelsUnique_paired).mpr
  intro pair chargeable unready
  obtain ⟨level, listed, single, unevaluated, elapsed, gendered, free⟩ :=
    ready_paired pair chargeable.granted.listed
  have only : ∀ {other : BreedLevel}, other ∈ paired.breedLevel.rows →
      BreedService.currentLevelOf pair other = true → other = level := by
    intro other present current
    apply List.mem_singleton.mp
    rw [← single]
    exact List.mem_filter.mpr ⟨present, current⟩
  cases unready with
  | missing none =>
      have current : level ∈ paired.breedLevel.rows.filter
          (BreedService.currentLevelOf pair) := by
        rw [single]
        exact List.mem_cons_self
      have unmatched := none level listed
      rw [(List.mem_filter.mp current).2] at unmatched
      cases unmatched
  | evaluated present current changed =>
      rw [only present current] at changed
      exact changed unevaluated
  | early present current allowed breeding =>
      obtain ⟨account, rfl⟩ := allowed
      rw [only present current] at breeding
      cases breeding.symm.trans elapsed
  | mismatched present current mismatch =>
      rw [only present current] at mismatch
      cases mismatch.symm.trans gendered
  | taken present within samePair sameLevel => exact free _ present samePair sameLevel

def earlyLevelUp (db : Db) : Except Failure Response × Db :=
  (surroundings fun _ => True).run (fun _ => .agreeable "alice" (period 0))
    (handle (liveApp .goerli) (.levelBreedingUp alice ⟨1, 1, 2⟩)) db

/-- A level-up that comes too early fails, and is paid for. -/
theorem early_levelUp_charged :
    ¬ ∀ (app : App) (admitted : Oracle → Prop) (db : Db) (req : Req) (body : BreedUpDto),
      0 < app.config.breedingPointPerLevel → PointsFit db → LevelsUnique db →
        Atomic app admitted db (.levelBreedingUp req body) := by
  intro atomic
  have failed : (earlyLevelUp paired).1 =
      .error (UnproceesableEntityError "Breeding time not elapsed") := by
    rw [paired_eq]
    decide +kernel
  have charged : (earlyLevelUp paired).2.user.rows.map User.breedingPoint ≠
      paired.user.rows.map User.breedingPoint := by
    rw [paired_eq]
    decide +kernel
  apply charged
  rw [atomic (liveApp .goerli) (fun _ => True) paired alice ⟨1, 1, 2⟩ (by decide)
    fit_paired levelsUnique_paired (earlyLevelUp paired).1 (earlyLevelUp paired).2
    (handles_run _ trivial _ _) _ failed]

end LevelUp

end BudBreeding.Lifecycle
