import BudBreeding.Lifecycle.Evaluation

namespace BudBreeding.Lifecycle

open Data Program Backend

/-! The names and the images of the buds of a level, and the parents they come
from. -/

/-- The table of names leaves none of its texts out. -/
def Titled (tables : GameTables) : Prop :=
  ∀ entry ∈ tables.budNames.toList, entry.name ≠ "" ∧ entry.image ≠ ""

theorem titled_gameTables : Titled gameTables := by
  unfold Titled
  decide +kernel

def Named (bud : Bud) : Prop :=
  bud.name ≠ "" ∧ bud.image ≠ ""

/-- The bud is called and looks like its parent. -/
def TakesAfter (parent bud : Bud) : Prop :=
  bud.name = parent.name ∧ bud.image = parent.image

/-- Every level bud that is new in `after` takes after the parent of its gender. -/
def Inherits (before after : Db) (male female : Bud) : Prop :=
  ∀ bud ∈ after.breedBud.rows, bud ∉ before.breedBud.rows →
    (bud.gender = .M → TakesAfter male bud.toBud) ∧
      (bud.gender = .F → TakesAfter female bud.toBud)

section Litters

variable {app : App} {db after : Db} {parent bud male female : Bud} {buds : List Bud}
  {levelId : Int} {bred : Time}

theorem named_of_child (titled : Titled app.tables) (child : Child app parent bud) :
    Named bud := by
  obtain ⟨drawn, listed, name, image⟩ := child
  obtain ⟨nameGiven, imageGiven⟩ := titled drawn listed
  constructor
  · rw [name, override]
    split <;> assumption
  · rw [image, override]
    split <;> assumption

theorem takesAfter_of_child (child : Child app parent bud) (named : Named parent) :
    TakesAfter parent bud := by
  obtain ⟨drawn, -, name, image⟩ := child
  constructor
  · rw [name, override, if_neg named.1]
  · rw [image, override, if_neg named.2]

theorem TakesAfter.named (same : TakesAfter parent bud) (named : Named bud) :
    Named parent := by
  rw [Named, same.1, same.2] at named
  exact named

/-- The rows that `createMany` adds are the new ones. -/
theorem inherits_iff_litter
    (born : after.breedBud = (db.createBreedBuds levelId buds bred).breedBud) :
    Inherits db after male female ↔ ∀ bud ∈ buds,
      (bud.gender = .M → TakesAfter male bud) ∧
        (bud.gender = .F → TakesAfter female bud) := by
  have rows : after.breedBud.rows = db.breedBud.rows ++
      Serial.numbered (breedBudRow levelId bred) db.breedBud.nextId buds := by
    rw [born]
    exact Serial.rows_createMany buds
  constructor
  · intro inherits bud member
    obtain ⟨position, made⟩ := @Serial.exists_numbered _ _ (breedBudRow levelId bred)
      db.breedBud.nextId _ _ member
    have distinct := after.breedBud.nodup
    rw [rows, List.map_append] at distinct
    have fresh : breedBudRow levelId bred bud position ∉ db.breedBud.rows := by
      intro old
      exact (List.nodup_append.mp distinct).2.2 _ (List.mem_map_of_mem old) _
        (List.mem_map_of_mem made) rfl
    apply inherits (breedBudRow levelId bred bud position) _ fresh
    rw [rows]
    exact List.mem_append_right _ made
  · intro each bud listed fresh
    rw [rows] at listed
    cases List.mem_append.mp listed with
    | inl old => exact absurd old fresh
    | inr new =>
        obtain ⟨data, member, position, rfl⟩ := Serial.of_mem_numbered new
        exact each data member

theorem exists_of_litter (litter : Litter app male female buds) (gender : BudGender) :
    ∃ bud ∈ buds, bud.gender = gender :=
  OnTrack.exists_gender litter.genders gender

theorem named_of_inherits {first second : Bud} (titled : Titled app.tables)
    (litter : Litter app first second buds)
    (each : ∀ bud ∈ buds, (bud.gender = .M → TakesAfter male bud) ∧
      (bud.gender = .F → TakesAfter female bud)) :
    Named male ∧ Named female := by
  obtain ⟨son, sonBorn, isMale⟩ := exists_of_litter litter .M
  obtain ⟨daughter, daughterBorn, isFemale⟩ := exists_of_litter litter .F
  constructor
  · exact ((each son sonBorn).1 isMale).named
      (named_of_child titled (litter.males son sonBorn isMale))
  · exact ((each daughter daughterBorn).2 isFemale).named
      (named_of_child titled (litter.females daughter daughterBorn isFemale))

theorem inherits_iff_of_parents (titled : Titled app.tables)
    (litter : Litter app male female buds)
    (born : after.breedBud = (db.createBreedBuds levelId buds bred).breedBud) :
    Inherits db after male female ↔ Named male ∧ Named female := by
  rw [inherits_iff_litter born]
  constructor
  · exact named_of_inherits titled litter
  · intro named bud member
    constructor
    · intro isMale
      exact takesAfter_of_child (litter.males bud member isMale) named.1
    · intro isFemale
      exact takesAfter_of_child (litter.females bud member isFemale) named.2

/-- With the parents taken for one another, only the same names and images fit. -/
theorem inherits_iff_of_swapped (titled : Titled app.tables)
    (litter : Litter app female male buds)
    (born : after.breedBud = (db.createBreedBuds levelId buds bred).breedBud) :
    Inherits db after male female ↔
      Named male ∧ Named female ∧ TakesAfter female male := by
  rw [inherits_iff_litter born]
  constructor
  · intro each
    obtain ⟨maleNamed, femaleNamed⟩ := named_of_inherits titled litter each
    obtain ⟨son, sonBorn, isMale⟩ := exists_of_litter litter .M
    obtain ⟨name, image⟩ := (each son sonBorn).1 isMale
    obtain ⟨otherName, otherImage⟩ :=
      takesAfter_of_child (litter.males son sonBorn isMale) femaleNamed
    exact ⟨maleNamed, femaleNamed, name.symm.trans otherName, image.symm.trans otherImage⟩
  · intro alike bud member
    obtain ⟨maleNamed, femaleNamed, name, image⟩ := alike
    constructor
    · intro isMale
      obtain ⟨otherName, otherImage⟩ :=
        takesAfter_of_child (litter.males bud member isMale) femaleNamed
      exact ⟨otherName.trans name.symm, otherImage.trans image.symm⟩
    · intro isFemale
      obtain ⟨otherName, otherImage⟩ :=
        takesAfter_of_child (litter.females bud member isFemale) maleNamed
      exact ⟨otherName.trans name, otherImage.trans image⟩

end Litters

section Requests

variable {app : App} {admitted : Oracle → Prop} {db after : Db}

/-- The first level of a new pair: the first record of the API stands for the male
parent, and the second one for the female. -/
def BearsFirst (app : App) (admitted : Oracle → Prop) (db : Db)
    (body : CreateBreedPairDto) (after : Db) : Prop :=
  ∃ metadatas maleBud femaleBud,
    Metadatas admitted body.maleBudId body.femaleBudId metadatas ∧
    metadatas[0]?.map BudWithId.toBud = some maleBud ∧
    metadatas[1]?.map BudWithId.toBud = some femaleBud ∧
    ∃ levelId buds bred, Litter app maleBud femaleBud buds ∧
      after.breedBud = (db.createBreedBuds levelId buds bred).breedBud

/-- The next level of a pair: the parents are the buds of the request. -/
def BearsNext (app : App) (db : Db) (body : BreedUpDto) (after : Db) : Prop :=
  ∃ pair ∈ db.breedPair.rows, ∃ male ∈ db.breedBud.rows, ∃ female ∈ db.breedBud.rows,
    male.id = body.maleBudId ∧ female.id = body.femaleBudId ∧
    Bears app db pair male.toBud female.toBud after

/-- What holds after every answer, with the level buds as they were after an error. -/
def Answers {α : Type} (db : Db) (bears : Db → Prop) (result : Except Failure α)
    (after : Db) : Prop :=
  (∀ value, result = .ok value → bears after) ∧
    ∀ error, result = .error error → after.breedBud = db.breedBud

theorem answers_error {α : Type} {bears : Db → Prop} {last : Db}
    (same : last.breedBud = db.breedBud) (error : Failure) :
    Answers db bears (.error error : Except Failure α) last := by
  refine ⟨?_, fun _ _ => same⟩
  intro value impossible
  cases impossible

theorem answers_ok {α : Type} {bears : Db → Prop} {value : α} {last : Db}
    (born : bears last) : Answers db bears (.ok value) last := by
  refine ⟨fun _ _ => born, ?_⟩
  intro error impossible
  cases impossible

theorem bears_congr {base : Db} {pair : BreedPair} {maleBud femaleBud : Bud}
    (same : base.breedBud = db.breedBud)
    (bears : Bears app base pair maleBud femaleBud after) :
    Bears app db pair maleBud femaleBud after := by
  unfold Bears at bears ⊢
  split at bears
  · next past =>
      rw [if_pos past, ← same]
      exact bears
  · next reachable =>
      rw [if_neg reachable]
      obtain ⟨levelId, buds, bred, litter, born⟩ := bears
      refine ⟨levelId, buds, bred, litter, born.trans ?_⟩
      rw [Db.createBreedBuds, Db.createBreedBuds, same]

theorem answers_createPair (req : Req) (body : CreateBreedPairDto) :
    (surroundings admitted).Ensures (BreedController.createPair app req body)
      (Answers db (BearsFirst app admitted db body)) db := by
  have untouched : ∀ slot : BreedSlot,
      (db.upgradeSlot body slot).breedBud = db.breedBud := by
    intro slot
    exact db.breedBud_upgradeSlot body slot
  rw [createPair_eq]
  refine ensures_placePair (answers_error rfl) ?_ ?_
  · exact fun slot _ _ => answers_error (untouched slot)
  · intro slot metadatas rate now granted
    refine ensures_breedSlotUpdate ?_ ?_
    · intro _
      apply answers_error
      exact untouched slot
    intro row _
    obtain ⟨maleBud, femaleBud, male, female⟩ := granted.metadata.parents
    rw [male, female]
    refine ensures_startBreedLevel_bears ?_ ?_ ?_
    · rw [← db.breedPair_upgradeSlot body slot]
      exact fun absent => nomatch
        (Serial.find_create_nextId _ fun _ => rfl).symm.trans absent
    · intro _ _ _ _ _
      apply answers_error
      exact untouched slot
    · intro last _ bears
      refine World.ensures_pure.mpr (answers_ok ?_)
      have first : ¬ app.config.targetLevel < 0 + 1 := by
        have positive := app.config.targetLevel_pos
        omega
      have born := bears_congr (untouched slot) bears
      obtain ⟨levelId, buds, bred, litter, same⟩ := (if_neg first).mp born
      exact ⟨metadatas, maleBud, femaleBud, granted.metadata, male, female, levelId,
        buds, bred, litter, same⟩

theorem answers_levelBreedingUp (req : Req) (body : BreedUpDto) :
    (surroundings admitted).Ensures (BreedController.levelBreedingUp app req body)
      (Answers db (BearsNext app db body)) db := by
  rw [levelBreedingUp_eq]
  refine ensures_chargeLevel (answers_error rfl) ?_
  intro pair paid granted valid charged
  have unbred := charged.breedBud
  have stored : pair ∈ paid.breedPair.rows := by
    rw [charged.breedPair]
    exact granted.listed
  refine ensures_evaluateBreedLevel ?_ ?_ ?_
  · exact fun _ => answers_error unbred
  · exact fun _ _ _ _ => answers_error unbred
  · intro level buds evaluable
    obtain ⟨male, female, choice, chosen⟩ := choice_of_evaluable evaluable
    have maleStored := (List.mem_filter.mp choice.maleBred).1
    have femaleStored := (List.mem_filter.mp choice.femaleBred).1
    rw [unbred] at maleStored femaleStored
    rw [evaluationOf_perm choice.isMale choice.isFemale chosen]
    refine ensures_startBreedLevel_bears ?_ ?_ ?_
    · intro absent
      exact absurd rfl (Table.find_eq_none.mp absent pair stored)
    · exact fun _ _ _ _ _ => answers_error unbred
    · intro last _ bears
      refine World.ensures_pure.mpr (answers_ok ?_)
      exact ⟨pair, granted.listed, male, maleStored, female, femaleStored,
        choice.maleId, choice.femaleId, bears_congr unbred bears⟩

end Requests

section Runs

variable {app : App} {admitted : Oracle → Prop} {db after : Db}
  {steps : List (Transition Db Exchange)}

def AllNamed (db : Db) : Prop :=
  ∀ bud ∈ db.breedBud.rows, Named bud.toBud

theorem allNamed_of_litter {maleBud femaleBud : Bud} {buds : List Bud} {levelId : Int}
    {bred : Time} (titled : Titled app.tables) (named : AllNamed db)
    (litter : Litter app maleBud femaleBud buds)
    (born : after.breedBud = (db.createBreedBuds levelId buds bred).breedBud) :
    AllNamed after := by
  intro bud listed
  rw [born, Db.createBreedBuds, Serial.rows_createMany] at listed
  cases List.mem_append.mp listed with
  | inl old => exact named bud old
  | inr new =>
      obtain ⟨data, member, position, rfl⟩ := Serial.of_mem_numbered new
      change Named data
      cases gender : data.gender with
      | M => exact named_of_child titled (litter.males data member gender)
      | F => exact named_of_child titled (litter.females data member gender)

theorem allNamed_of_answers {α : Type} {bears : Db → Prop} {result : Except Failure α}
    (named : AllNamed db) (answers : Answers db bears result after)
    (born : bears after → AllNamed after) : AllNamed after := by
  cases result with
  | error error =>
      rw [AllNamed, answers.2 error rfl]
      exact named
  | ok value => exact born (answers.1 value rfl)

theorem allNamed_of_bears {pair : BreedPair} {maleBud femaleBud : Bud}
    (titled : Titled app.tables) (named : AllNamed db)
    (bears : Bears app db pair maleBud femaleBud after) : AllNamed after := by
  unfold Bears at bears
  split at bears
  · rw [AllNamed, bears]
    exact named
  · obtain ⟨levelId, buds, bred, litter, born⟩ := bears
    exact allNamed_of_litter titled named litter born

/-- Only the requests that start a level create level buds. -/
theorem breedBud_of_bred {request : Request} (bred : Bred app admitted db request after)
    (quiet : (∀ req body, request ≠ .createPair req body) ∧
      ∀ req body, request ≠ .levelBreedingUp req body) :
    after.breedBud = db.breedBud := by
  cases bred with
  | kept same => exact same.breedBud
  | closed ended same => exact same.breedBud
  | created valid same started => exact absurd rfl (quiet.1 _ _)
  | raised granted charged evaluable started => exact absurd rfl (quiet.2 _ _)
  | finalized granted ended same => exact same.breedBud

theorem bearsFirst_of_handles {req : Req} {body : CreateBreedPairDto}
    {response : Except Failure Response}
    (handled : Handles app admitted db ⟨.createPair req body, response⟩ after) :
    Answers db (BearsFirst app admitted db body) response after := by
  have every : (surroundings admitted).Ensures (handle app (.createPair req body))
      (Answers db (BearsFirst app admitted db body)) db := by
    refine World.reads_throwIf.ensures_bind (answers_error rfl) ?_
    intro _ _
    rw [World.ensures_map]
    refine (answers_createPair req body).mono ?_
    intro result last answers
    cases result with
    | error error => exact answers_error (answers.2 error rfl) error
    | ok value => exact answers_ok (answers.1 value rfl)
  exact every _ _ handled

theorem bearsNext_of_handles {req : Req} {body : BreedUpDto}
    {response : Except Failure Response}
    (handled : Handles app admitted db ⟨.levelBreedingUp req body, response⟩ after) :
    Answers db (BearsNext app db body) response after := by
  have every : (surroundings admitted).Ensures (handle app (.levelBreedingUp req body))
      (Answers db (BearsNext app db body)) db := by
    rw [handle, World.ensures_map]
    refine (answers_levelBreedingUp req body).mono ?_
    intro result last answers
    cases result with
    | error error => exact answers_error (answers.2 error rfl) error
    | ok value => exact answers_ok (answers.1 value rfl)
  exact every _ _ handled

theorem allNamed_of_handles {exchange : Exchange} (titled : Titled app.tables)
    (orderly : Orderly app db) (named : AllNamed db)
    (handled : Handles app admitted db exchange after) : AllNamed after := by
  obtain ⟨request, response⟩ := exchange
  have bred := orderly.bred handled
  by_cases first : ∃ req body, request = .createPair req body
  · obtain ⟨req, body, rfl⟩ := first
    refine allNamed_of_answers named (bearsFirst_of_handles handled) ?_
    intro bears
    obtain ⟨_, _, _, -, -, -, _, _, _, litter, born⟩ := bears
    exact allNamed_of_litter titled named litter born
  by_cases next : ∃ req body, request = .levelBreedingUp req body
  · obtain ⟨req, body, rfl⟩ := next
    refine allNamed_of_answers named (bearsNext_of_handles handled) ?_
    intro bears
    obtain ⟨_, -, _, -, _, -, -, -, bears⟩ := bears
    exact allNamed_of_bears titled named bears
  have same : after.breedBud = db.breedBud := by
    apply breedBud_of_bred bred
    constructor
    · intro req body same
      exact first ⟨req, body, same⟩
    · intro req body same
      exact next ⟨req, body, same⟩
  rw [AllNamed, same]
  exact named

theorem allNamed_of_run (titled : Titled app.tables)
    (run : Run app admitted .empty steps db) : AllNamed db := by
  have every : ∀ state ∈ states .empty steps, Orderly app state ∧ AllNamed state := by
    refine run.forall_states ⟨.empty app, ?_⟩ ?_
    · intro bud listed
      cases listed
    · intro step _ before handled
      exact ⟨before.1.step handled, allNamed_of_handles titled before.1 before.2 handled⟩
  exact (every db run.final_mem_states).2

theorem inherits_of_levelUp {req : Req} {body : BreedUpDto} {response : Response}
    (titled : Titled app.tables) (named : AllNamed db)
    (handled : Handles app admitted db ⟨.levelBreedingUp req body, .ok response⟩ after)
    {male female : BreedBud} (maleStored : male ∈ db.breedBud.rows)
    (femaleStored : female ∈ db.breedBud.rows) (maleId : male.id = body.maleBudId)
    (femaleId : female.id = body.femaleBudId) :
    Inherits db after male.toBud female.toBud := by
  obtain ⟨pair, -, father, fatherStored, mother, motherStored, fatherId, motherId,
    bears⟩ := (bearsNext_of_handles handled).1 response rfl
  obtain rfl := db.breedBud.eq_of_key_eq maleStored fatherStored
    (maleId.trans fatherId.symm)
  obtain rfl := db.breedBud.eq_of_key_eq femaleStored motherStored
    (femaleId.trans motherId.symm)
  unfold Bears at bears
  split at bears
  · intro bud listed fresh
    rw [bears] at listed
    exact absurd listed fresh
  · obtain ⟨levelId, buds, bred, litter, born⟩ := bears
    exact (inherits_iff_of_parents titled litter born).mpr
      ⟨named male maleStored, named female femaleStored⟩

/-- The metadata API lists the two parents of the request, in some order. -/
structure Describes (answering : Oracle → Prop) (body : CreateBreedPairDto)
    (male female : BudWithId) (records : List BudWithId) : Prop where
  maleId : male.id = body.maleBudId
  femaleId : female.id = body.femaleBudId
  listed : records.Perm [male, female]
  answered : ∀ oracle, answering oracle →
    oracle.metadata [body.maleBudId, body.femaleBudId] = some records

/-- `createPair` takes the records by their positions. -/
theorem inherits_iff_of_createPair {answering : Oracle → Prop} {req : Req}
    {body : CreateBreedPairDto} {response : Response} {male female : BudWithId}
    {records : List BudWithId} (titled : Titled app.tables)
    (describes : Describes answering body male female records)
    (handled : Handles app answering db ⟨.createPair req body, .ok response⟩ after) :
    Inherits db after male.toBud female.toBud ↔
      Named male.toBud ∧ Named female.toBud ∧
        (records = [male, female] ∨ TakesAfter female.toBud male.toBud) := by
  obtain ⟨metadatas, maleBud, femaleBud, ⟨⟨oracle, allowed, fetched⟩, -⟩, first, second,
    levelId, buds, bred, litter, born⟩ := (bearsFirst_of_handles handled).1 response rfl
  rw [describes.answered oracle allowed, Option.getD_some] at fetched
  rw [fetched] at first second
  cases List.perm_pair.mp describes.listed with
  | inl ordered =>
      rw [ordered] at first second
      obtain rfl := Option.some.inj first
      obtain rfl := Option.some.inj second
      rw [inherits_iff_of_parents titled litter born]
      simp [ordered]
  | inr swapped =>
      rw [swapped] at first second
      obtain rfl := Option.some.inj first
      obtain rfl := Option.some.inj second
      rw [inherits_iff_of_swapped titled litter born]
      refine and_congr_right fun _ => and_congr_right fun _ => ?_
      constructor
      · exact fun alike => .inr alike
      · intro fits
        cases fits with
        | inl ordered =>
            rw [swapped] at ordered
            have same := (List.cons.inj ordered).1
            rw [same]
            exact ⟨rfl, rfl⟩
        | inr alike => exact alike

/-- The first buds of a pair take after the parent of their gender just when the parents
have names and images, and the API lists the male one first or lists two parents that look
the same.  The buds of the later levels always do. -/
theorem offspring_inherit_iff (titled : Titled app.tables) :
    (∀ (answering : Oracle → Prop) (db after : Db) (req : Req)
        (body : CreateBreedPairDto) (response : Response) (male female : BudWithId)
        (records : List BudWithId),
      Describes answering body male female records →
      Handles app answering db ⟨.createPair req body, .ok response⟩ after →
      (Inherits db after male.toBud female.toBud ↔
        Named male.toBud ∧ Named female.toBud ∧
          (records = [male, female] ∨ TakesAfter female.toBud male.toBud))) ∧
    ∀ (admitted : Oracle → Prop) (steps : List (Transition Db Exchange)) (db after : Db)
        (req : Req) (body : BreedUpDto) (response : Response),
      Run app admitted .empty steps db →
      Handles app admitted db ⟨.levelBreedingUp req body, .ok response⟩ after →
      ∀ male ∈ db.breedBud.rows, ∀ female ∈ db.breedBud.rows,
        male.id = body.maleBudId → female.id = body.femaleBudId →
        Inherits db after male.toBud female.toBud := by
  constructor
  · intro answering db after req body response male female records describes handled
    exact inherits_iff_of_createPair titled describes handled
  · intro admitted steps db after req body response run handled male maleStored female
      femaleStored maleId femaleId
    exact inherits_of_levelUp titled (allNamed_of_run titled run) handled maleStored
      femaleStored maleId femaleId

def adam : BudWithId where
  name := "Adam"
  image := "adam.mp4"
  thc := 1
  budSize := 1
  gender := .M
  shine := .Yes
  color := .Light
  id := 1
  revealed := true

def eve : BudWithId :=
  { adam with name := "Eve", image := "eve.mp4", gender := .F, id := 2 }

def listing (records : List BudWithId) : Oracle :=
  { Oracle.agreeable "alice" (period 0) with metadata := fun _ => some records }

def pairing : CreateBreedPairDto :=
  ⟨1, 2, 1, none, none⟩

theorem describes_listing {records : List BudWithId} (listed : records.Perm [adam, eve]) :
    Describes (Eq (listing records)) pairing adam eve records where
  maleId := rfl
  femaleId := rfl
  listed := listed
  answered := by
    intro oracle same
    rw [← same]
    rfl

theorem exists_handles_listing {records : List BudWithId}
    (accepted : ((surroundings fun _ => True).run (fun _ => listing records)
      (handle (liveApp .goerli) (.createPair alice pairing)) signedUp).1.isOk = true) :
    ∃ response after, Handles (liveApp .goerli) (Eq (listing records)) signedUp
      ⟨.createPair alice pairing, .ok response⟩ after := by
  have handled := @handles_run (liveApp .goerli) (Eq (listing records)) (listing records)
    rfl (.createPair alice pairing) signedUp
  cases outcome : ((surroundings fun _ => True).run (fun _ => listing records)
      (handle (liveApp .goerli) (.createPair alice pairing)) signedUp).1 with
  | error error =>
      rw [outcome] at accepted
      cases accepted
  | ok response =>
      rw [outcome] at handled
      exact ⟨response, _, handled⟩

theorem offspring_inherit_iff_listed :
    ∃ response after, Handles (liveApp .goerli) (Eq (listing [adam, eve])) signedUp
        ⟨.createPair alice pairing, .ok response⟩ after ∧
      Inherits signedUp after adam.toBud eve.toBud := by
  obtain ⟨response, after, handled⟩ := @exists_handles_listing [adam, eve]
    (by decide +kernel)
  have named : Named adam.toBud ∧ Named eve.toBud := by
    unfold Named
    decide +kernel
  refine ⟨response, after, handled, ?_⟩
  exact ((offspring_inherit_iff titled_gameTables).1 _ _ _ _ _ _ _ _ _
    (describes_listing (.refl _)) handled).mpr ⟨named.1, named.2, .inl rfl⟩

/-- The API lists the female parent first, and the buds get the wrong names. -/
theorem offspring_swapped :
    ¬ ∀ (app : App) (admitted answering : Oracle → Prop)
        (steps : List (Transition Db Exchange)) (db after : Db) (req : Req)
        (body : CreateBreedPairDto) (response : Response) (male female : BudWithId)
        (records : List BudWithId),
      Titled app.tables → Run app admitted .empty steps db →
      Describes answering body male female records →
      Handles app answering db ⟨.createPair req body, .ok response⟩ after →
      Inherits db after male.toBud female.toBud := by
  intro always
  obtain ⟨response, after, handled⟩ := @exists_handles_listing [eve, adam]
    (by decide +kernel)
  have run := @run_loginStep (fun _ => True) trivial
  have describes := @describes_listing [eve, adam] (.swap _ _ _)
  have inherits := always _ _ _ _ _ _ _ _ _ _ _ _ titled_gameTables run describes handled
  have fits := (inherits_iff_of_createPair titled_gameTables describes handled).mp inherits
  have apart : ¬ ([eve, adam] = [adam, eve] ∨ TakesAfter eve.toBud adam.toBud) := by
    unfold TakesAfter
    decide +kernel
  exact apart fits.2.2

end Runs

end BudBreeding.Lifecycle
