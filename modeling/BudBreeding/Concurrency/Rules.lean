import BudBreeding.Concurrency.Terms

namespace BudBreeding.Concurrency

open Data Program Backend

/-! How the parts of a request keep to the terms, whatever the others do
meanwhile. -/

namespace Evolves

variable {db after : Db} (later : Evolves db after)

include later

theorem levelRecorded {pairId number : Int}
    (recorded : LevelRecorded db pairId number) :
    LevelRecorded after pairId number := by
  obtain ⟨level, listed, owner, position, evaluated⟩ := recorded
  obtain ⟨row, present, kept⟩ := later.breedLevel level listed
  exact ⟨row, present, kept.pairId.trans owner, kept.level.trans position,
    kept.recorded evaluated⟩

variable {holder : Option Address} {id : Int}

theorem holdsPair (holds : HoldsPair db holder id) :
    HoldsPair after holder id := by
  obtain ⟨pair, listed, same, owner⟩ := holds
  obtain ⟨row, present, kept⟩ := later.breedPair pair listed
  exact ⟨row, present, kept.id.trans same, by rw [kept.userAddress, owner]⟩

theorem holdsSlot (holds : HoldsSlot db holder id) :
    HoldsSlot after holder id := by
  obtain ⟨slot, listed, same, owner⟩ := holds
  obtain ⟨row, present, kept⟩ := later.breedSlot slot listed
  exact ⟨row, present, kept.id.trans same, by rw [kept.userAddress, owner]⟩

theorem holdsBud (holds : HoldsBud db holder id) :
    HoldsBud after holder id := by
  obtain ⟨bud, listed, same, owner⟩ := holds
  obtain ⟨row, present, kept⟩ := later.gen1Bud bud listed
  exact ⟨row, present, kept.id.trans same, by rw [kept.minterAddress, owner]⟩

/-- A row that is found later under the id of a pair is that pair. -/
theorem pair_of_id {pair row : BreedPair} (listed : pair ∈ db.breedPair.rows)
    (present : row ∈ after.breedPair.rows) (same : row.id = pair.id) :
    PairLater pair row := by
  obtain ⟨other, found, kept⟩ := later.breedPair pair listed
  rw [after.breedPair.eq_of_key_eq present found (same.trans kept.id.symm)]
  exact kept

theorem slot_of_id {slot row : BreedSlot} (listed : slot ∈ db.breedSlot.rows)
    (present : row ∈ after.breedSlot.rows) (same : row.id = slot.id) :
    SlotLater slot row := by
  obtain ⟨other, found, kept⟩ := later.breedSlot slot listed
  rw [after.breedSlot.eq_of_key_eq present found (same.trans kept.id.symm)]
  exact kept

end Evolves

def signs : Query → Bool
  | .signMessage _ => true
  | _ => false

/-- Queries that read and do not sign. -/
def Looks (query : Query) : Prop :=
  query.Quiet ∧ signs query = false

theorem looks_within {query : Query}
    (within : query.Within [.clock, .dice, .chain, .api]) : Looks query := by
  cases query <;> first
    | exact ⟨rfl, rfl⟩
    | simp [Query.Within, Query.resource] at within

theorem uses_looks {α : Type} {program : Handler α} {resources : List Resource}
    (uses : program.Uses (Query.Within resources))
    (outside : resources ⊆ [.clock, .dice, .chain, .api]) :
    program.Uses Looks :=
  uses.mono fun _ within => looks_within (within.mono outside)

section Rules

variable {app : App} {admitted : Oracle → Prop} {stage : Stage} {since : Db}
  {α β : Type} {finish : Stage → Db → Except Failure β → Prop}

theorem idle_of_looks {query : Query} (looks : Looks query) :
    (discipline app).Idle query := by
  rintro ⟨holder, work⟩
  obtain ⟨quiet, unsigned⟩ := looks
  cases query <;> first
    | cases quiet; done
    | cases unsigned; done
    | exact ⟨fun _ => trivial, fun _ => by cases work <;> rfl⟩

theorem guarded_look {query : Query} {rest : query.Answer → Handler β}
    (looks : Looks query)
    (continued : ∀ db, Evolves since db → Lodged db → ∀ oracle,
      admitted oracle →
      (discipline app).Guarded (surroundings admitted) finish stage db
        (rest (exec oracle query db).1)) :
    (discipline app).Guarded (surroundings admitted) finish stage since
      (ask query >>= rest) :=
  Discipline.guarded_read (idle_of_looks looks)
    (fun oracle db => exec_quiet oracle query db looks.1) continued

theorem guarded_pass {program : Handler α} {rest : α → Handler β}
    (uses : program.Uses Looks)
    (refused : ∀ db error, finish stage db (.error error))
    (continued : ∀ value db, Evolves since db →
      (discipline app).Guarded (surroundings admitted) finish stage db
        (rest value)) :
    (discipline app).Guarded (surroundings admitted) finish stage since
      (program >>= rest) := by
  refine Discipline.guarded_skip (uses.mono fun query looks => ?_) refused
    continued
  exact ⟨idle_of_looks looks,
    fun oracle db => exec_quiet oracle query db looks.1⟩

/-- A write after which the request goes on at the stage it was at. -/
theorem guarded_step {query : Query} {rest : query.Answer → Handler β}
    (permitted : ∀ db, Evolves since db → Lodged db →
      permits app stage query db)
    (unmoved : ∀ answer, stage.work.advance query answer = stage.work)
    (continued : ∀ db oracle, Evolves since db →
      Evolves db (exec oracle query db).2 →
      (discipline app).Guarded (surroundings admitted) finish stage
        (exec oracle query db).2 (rest (exec oracle query db).1)) :
    (discipline app).Guarded (surroundings admitted) finish stage since
      (ask query >>= rest) := by
  rw [Discipline.guarded_call_bind]
  intro db later lodged
  refine ⟨permitted db later lodged, ?_⟩
  intro oracle _ evolved
  have same : (discipline app).advance stage query
      ((surroundings admitted).exec oracle query db).1 = stage := by
    change { stage with work := stage.work.advance query _ } = stage
    rw [unmoved]
  rw [same]
  exact continued db oracle later evolved

theorem guarded_ask {query : Query} {rest : query.Answer → Handler β}
    (permitted : ∀ db, Evolves since db → Lodged db →
      permits app stage query db)
    (unmoved : ∀ answer, stage.work.advance query answer = stage.work)
    (continued : ∀ answer db, Evolves since db →
      (discipline app).Guarded (surroundings admitted) finish stage db
        (rest answer)) :
    (discipline app).Guarded (surroundings admitted) finish stage since
      (ask query >>= rest) :=
  guarded_step permitted unmoved fun _ _ later evolved =>
    continued _ _ (later.trans evolved)

theorem guarded_write {query : Query}
    {settled : query.Answer → Handler α} {rest : α → Handler β}
    (permitted : ∀ db, Evolves since db → Lodged db →
      permits app stage query db)
    (unmoved : ∀ answer, stage.work.advance query answer = stage.work)
    (silent : ∀ answer, (settled answer).Uses Looks)
    (refused : ∀ db error, finish stage db (.error error))
    (continued : ∀ row db, Evolves since db →
      (discipline app).Guarded (surroundings admitted) finish stage db
        (rest row)) :
    (discipline app).Guarded (surroundings admitted) finish stage since
      ((ask query >>= settled) >>= rest) := by
  rw [Prog.bind_assoc]
  refine guarded_ask permitted unmoved fun answer db later => ?_
  exact guarded_pass (silent answer) refused fun row after further =>
    continued row after (later.trans further)

theorem settle_ok_bind {row : α} {rest : α → Handler β} :
    (settle (.ok row) >>= rest) = rest row := rfl

theorem guarded_tail {program : Handler β}
    (guarded : (discipline app).Guarded (surroundings admitted) finish stage
      since (program >>= Pure.pure)) :
    (discipline app).Guarded (surroundings admitted) finish stage since
      program := by
  rw [Discipline.guarded_bind] at guarded
  apply guarded.mono
  intro last db result reached
  cases result <;> exact reached

theorem guarded_validated {valid : Bool} {handler : Handler β}
    (refused : finish stage since (.error .validation))
    (handled : valid = true →
      (discipline app).Guarded (surroundings admitted) finish stage since
        handler) :
    (discipline app).Guarded (surroundings admitted) finish stage since
      (validated valid handler) := by
  apply Discipline.guarded_throwIf_bind
  · exact fun _ => refused
  · exact fun passed => handled (Bool.eq_true_of_not_eq_false passed)

end Rules

section Services

variable {app : App} {admitted : Oracle → Prop} {stage : Stage} {since : Db}
  {β : Type} {finish : Stage → Db → Except Failure β → Prop}

theorem looks_verifyBudPairs (address : Address) (maleBudId femaleBudId : Int)
    (checkMetadata : Bool) :
    (BudService.verifyBudPairs address maleBudId femaleBudId
      checkMetadata).Uses Looks :=
  uses_looks (uses_verifyBudPairs _ _ _ _) (by simp)

theorem looks_ownersOf (budIds : List Int) :
    (BudService.ownersOf budIds).Uses Looks := by
  refine Prog.uses_bind ((Prog.uses_call _).mpr ⟨rfl, rfl⟩) fun owners => ?_
  split <;> simp

theorem looks_isGen0BudOwner (budId : Int) (address : Address) :
    (BudService.isGen0BudOwner budId address).Uses Looks :=
  Prog.uses_bind (looks_ownersOf _) fun _ => Prog.uses_throwIf _ _

theorem looks_isGameKeyOwner (gameKeyId : Int) (address : Address) :
    (BudService.isGameKeyOwner gameKeyId address).Uses Looks := by
  refine Prog.uses_bind ((Prog.uses_call _).mpr ⟨rfl, rfl⟩) fun owner => ?_
  split <;> simp

theorem looks_verifyGameItemPossession (pair : BreedPair) :
    (BreedService.verifyGameItemPossession pair).Uses Looks := by
  unfold BreedService.verifyGameItemPossession
  split
  · simp
  · split
    · simp
    · refine Prog.uses_bind ((Prog.uses_call _).mpr ⟨rfl, rfl⟩) fun count => ?_
      refine Prog.uses_bind (Prog.uses_throwIf _ _) fun _ => ?_
      exact uses_looks (uses_checkGameItemBalance _ _ _) (by simp)

theorem looks_finalizeBreeding (pair : BreedPair) :
    (BreedService.finalizeBreeding app pair).Uses Looks := by
  refine Prog.uses_bind ((Prog.uses_call _).mpr ⟨rfl, rfl⟩) fun bonus => ?_
  exact uses_looks (uses_diceGen1Bud _ _) (by simp)

theorem looks_checkBudName (name : String) :
    (BudController.checkBudName name).Uses Looks := by
  refine Prog.uses_bind ((Prog.uses_call _).mpr ⟨rfl, rfl⟩) fun count => ?_
  split
  · simp
  · refine Prog.uses_bind ((Prog.uses_call _).mpr ⟨rfl, rfl⟩) fun valid => ?_
    simp

theorem looks_isValidMessage (gameKeyId : Int) (message : String) :
    (UserService.isValidMessage gameKeyId message).Uses Looks := by
  refine Prog.uses_bind ((Prog.uses_call _).mpr ⟨rfl, rfl⟩) fun now => ?_
  simp only
  split
  · simp
  · split <;> simp

theorem looks_verifyMessage (message signature : String) :
    (verifyMessage message signature).Uses Looks := by
  refine Prog.uses_bind ((Prog.uses_call _).mpr ⟨rfl, rfl⟩) fun recovered => ?_
  split <;> simp

theorem looks_breedSlotCount (gameKeyId : Option Int)
    (filter : BreedSlot → Bool) :
    (Prisma.breedSlotCount gameKeyId filter).Uses Looks :=
  Prog.uses_bind ((Prog.uses_call _).mpr ⟨rfl, rfl⟩) fun _ => uses_settle _

theorem looks_validateTransaction (txHash network : String) (type : EventType) :
    (AdminService.validateTransaction app txHash network type).Uses Looks :=
  uses_validateTransaction (fun _ => ⟨rfl, rfl⟩) _ _ _ _

theorem guarded_consumeBreedingPoint {user : Address} {amount : Int}
    {rest : User → Handler β} (own : stage.subject = some user)
    (refused : ∀ db error, finish stage db (.error error))
    (continued : ∀ row db, Evolves since db →
      (discipline app).Guarded (surroundings admitted) finish stage db
        (rest row)) :
    (discipline app).Guarded (surroundings admitted) finish stage since
      (UserService.consumeBreedingPoint user amount >>= rest) := by
  rw [UserService.consumeBreedingPoint, Prog.bind_assoc]
  refine guarded_look ⟨rfl, rfl⟩ fun db later _ oracle _ => ?_
  simp only [exec]
  cases db.user.find user with
  | none => exact refused db _
  | some row =>
      rw [Prog.bind_assoc]
      refine Discipline.guarded_throwIf_bind (fun _ => refused db _) fun _ => ?_
      refine guarded_write (fun _ _ _ => own) ?_ (fun _ => uses_settle _) refused
        fun row after further => continued row after (later.trans further)
      intro answer
      cases stage.work <;> rfl

theorem guarded_addSlots {counted : Option Int} {filter : BreedSlot → Bool}
    {user : Address} {gameKeyId landTokenId : Option Int}
    {rest : Unit → Handler β} (own : stage.subject = some user)
    (refused : ∀ db error, finish stage db (.error error))
    (continued : ∀ db, Evolves since db →
      (discipline app).Guarded (surroundings admitted) finish stage db
        (rest ())) :
    (discipline app).Guarded (surroundings admitted) finish stage since
      ((do
        let count ← Prisma.breedSlotCount counted filter
        if 0 < count then
          return ()
        else
          Prisma.breedSlotCreateMany
            (LandService.newSlots user gameKeyId landTokenId)) >>= rest) := by
  rw [Prog.bind_assoc]
  refine guarded_pass (looks_breedSlotCount _ _) refused fun count db later => ?_
  split
  · exact continued db later
  · refine guarded_write ?_ ?_ (fun _ => uses_settle _) refused
      fun _ after further => continued after (later.trans further)
    · intro _ _ _
      change ∀ slot ∈ LandService.newSlots user gameKeyId landTokenId,
        stage.subject = some slot.userAddress
      simp [LandService.newSlots, own]
    · intro answer
      cases stage.work <;> rfl

theorem guarded_breedPairFindMany {filter : BreedPair → Bool}
    {rest : List BreedPair → Handler β}
    (continued : ∀ pairs db, Evolves since db →
      (∀ pair ∈ pairs, pair ∈ db.breedPair.rows ∧ filter pair = true) →
      (discipline app).Guarded (surroundings admitted) finish stage db
        (rest pairs)) :
    (discipline app).Guarded (surroundings admitted) finish stage since
      (Prisma.breedPairFindMany filter >>= rest) := by
  refine guarded_look ⟨rfl, rfl⟩ fun db later _ order _ => ?_
  refine continued _ db later fun pair member => ?_
  exact List.mem_filter.mp (Oracle.mem_arrange.mp member)

theorem guarded_breedSlotFindMany {filter : BreedSlot → Bool}
    {rest : List BreedSlot → Handler β}
    (continued : ∀ slots db, Evolves since db →
      (∀ slot ∈ slots, slot ∈ db.breedSlot.rows ∧ filter slot = true) →
      (discipline app).Guarded (surroundings admitted) finish stage db
        (rest slots)) :
    (discipline app).Guarded (surroundings admitted) finish stage since
      (Prisma.breedSlotFindMany filter >>= rest) := by
  refine guarded_look ⟨rfl, rfl⟩ fun db later _ order _ => ?_
  refine continued _ db later fun slot member => ?_
  exact List.mem_filter.mp (Oracle.mem_arrange.mp member)

/-- Buds that `evaluateBreedLevel` accepts stay a choice for their level. -/
theorem chosen_of_genders {db after : Db} {buds : List BreedBud}
    {levelId maleBudId femaleBudId : Int} (later : Evolves db after)
    (chosen : buds.Perm (db.breedBud.rows.filter
      (BreedService.chosenBuds maleBudId femaleBudId levelId)))
    (gendered : BudService.checkBudPairGenders
      (buds.map fun bud => (bud.id, bud.gender)) maleBudId femaleBudId = true) :
    Chosen app after levelId
      ⟨(BreedService.evaluationOf app buds).bonusRate, maleBudId,
        femaleBudId⟩ := by
  obtain ⟨male, maleBred, female, femaleBred, isMale, isFemale, rfl, rfl,
    both⟩ := Lifecycle.exists_parents chosen gendered
  have kept : ∀ bud ∈ Lifecycle.budsOf db levelId,
      bud ∈ Lifecycle.budsOf after levelId := by
    intro bud member
    obtain ⟨listed, owner⟩ := List.mem_filter.mp member
    exact List.mem_filter.mpr ⟨later.breedBud listed, owner⟩
  refine ⟨male, kept male maleBred, female, kept female femaleBred, isMale,
    isFemale, rfl, rfl, ?_⟩
  have total := (both.map (Lifecycle.breedRate app)).sum_eq
  change (buds.map (Lifecycle.breedRate app)).sum = _
  rw [total]
  simp

theorem levelRecorded_update {db : Db} {level : BreedLevel}
    {data : BreedLevelUpdate} {id pairId number : Int}
    (listed : level ∈ db.breedLevel.rows) (same : level.id = id)
    (owner : level.pairId = pairId) (position : level.level = number) :
    LevelRecorded (db.updateBreedLevel (fun row => row.id = id) data) pairId
      number := by
  refine ⟨data.apply level, ?_, owner, position, Option.some_ne_none _⟩
  refine Serial.mem_modify.mpr ⟨level, listed, ?_⟩
  rw [if_pos (decide_eq_true same)]

theorem guarded_evaluateBreedLevel {pair : BreedPair}
    {maleBudId femaleBudId : Int} {rest : BreedService.Evaluation → Handler β}
    (own : stage.subject = some pair.userAddress)
    (seen : ∃ row ∈ since.breedPair.rows, PairLater pair row)
    (refused : ∀ db error, finish stage db (.error error))
    (continued : ∀ evaluation db, Evolves since db →
      LevelRecorded db pair.id pair.currentLevel →
      (discipline app).Guarded (surroundings admitted) finish stage db
        (rest evaluation)) :
    (discipline app).Guarded (surroundings admitted) finish stage since
      (BreedService.evaluateBreedLevel app pair maleBudId femaleBudId >>=
        rest) := by
  obtain ⟨known, listed, since⟩ := seen
  rw [BreedService.evaluateBreedLevel, Prog.bind_assoc]
  refine guarded_look ⟨rfl, rfl⟩ fun first toFirst _ oracle _ => ?_
  simp only [exec]
  cases found : oracle.findFirst first.breedLevel.rows
      (BreedService.currentLevelOf pair) with
  | none => exact refused first _
  | some level =>
      obtain ⟨stored, current⟩ := Oracle.findFirst_eq_some found
      obtain ⟨owner, number⟩ := decide_eq_true_iff.mp current
      rw [Prog.bind_assoc]
      refine Discipline.guarded_throwIf_bind (fun _ => refused _ _) fun _ => ?_
      rw [Prog.bind_assoc]
      refine guarded_look ⟨rfl, rfl⟩ fun second toSecond _ clock _ => ?_
      rw [Prog.bind_assoc]
      refine Discipline.guarded_throwIf_bind (fun _ => refused _ _) fun _ => ?_
      rw [Prog.bind_assoc]
      refine guarded_look ⟨rfl, rfl⟩ fun third toThird _ order _ => ?_
      rw [Prog.bind_assoc]
      refine Discipline.guarded_throwIf_bind (fun _ => refused _ _) ?_
      intro gendered
      simp only [exec] at gendered ⊢
      rw [Prog.bind_assoc, Prisma.breedLevelUpdate, Prog.bind_assoc]
      refine guarded_step ?_ ?_ ?_
      · intro db toLast _
        obtain ⟨row, present, kept⟩ :=
          (toSecond.trans (toThird.trans toLast)).breedLevel level stored
        obtain ⟨climbed, standing, further⟩ :=
          (toFirst.trans (toSecond.trans (toThird.trans toLast))).breedPair
            known listed
        have climbing := since.trans further
        refine ⟨chosen_of_genders toLast (order.arrange_perm _)
          (Bool.eq_true_of_not_eq_false gendered), row, present, kept.id,
          climbed, standing, ?_, ?_, ?_⟩
        · rw [climbing.id, kept.pairId, owner]
        · rw [own, climbing.userAddress]
        · rw [kept.level, number]
          exact climbing.climbing
      · intro answer
        cases stage.work <;> rfl
      · intro db writer toLast evolved
        refine guarded_pass (uses_settle _) refused ?_
        intro _ after further
        have toLast := toSecond.trans (toThird.trans toLast)
        obtain ⟨row, present, kept⟩ := toLast.breedLevel level stored
        refine continued _ after
          (toFirst.trans (toLast.trans (evolved.trans further))) ?_
        exact further.levelRecorded (levelRecorded_update present kept.id
          (kept.pairId.trans owner) (kept.level.trans number))

theorem indifferent : (surroundings admitted).Indifferent :=
  fun _ _ _ allowed => allowed

theorem oblivious_dice {query : Query} (within : query.Within [.dice]) :
    (surroundings admitted).Oblivious query := by
  cases query <;> first
    | exact fun _ _ _ => rfl
    | simp [Query.Within, Query.resource] at within

theorem guarded_generateLevelBuds {maleBud femaleBud : Option Bud}
    {rest : List Bud → Handler β}
    (refused : ∀ db error, finish stage db (.error error))
    (continued : ∀ buds : List Bud, buds.map Bud.gender = [.M, .F, .F, .M] →
      ∀ db, Evolves since db →
        (discipline app).Guarded (surroundings admitted) finish stage db
          (rest buds)) :
    (discipline app).Guarded (surroundings admitted) finish stage since
      (BreedService.generateLevelBuds app maleBud femaleBud >>= rest) := by
  match maleBud, femaleBud with
  | none, _ => exact refused since _
  | some _, none => exact refused since _
  | some male, some female =>
      rw [Discipline.guarded_bind]
      have uses := uses_generateLevelBuds app (some male) (some female)
      have litter : (surroundings admitted).Ensures
          (BreedService.generateLevelBuds app (some male) (some female))
          (fun result _ => ∃ buds, result = .ok buds ∧
            Litter app male female buds) since :=
        World.Ensures.mono (returns_generateLevelBuds app male female)
          fun _ _ given => given.2
      refine Discipline.guarded_of_ensures indifferent
        (uses.mono fun query within => ⟨idle_of_looks (looks_within
          (within.mono (by simp))), oblivious_dice within⟩) litter ?_
      intro db later result given
      obtain ⟨buds, rfl, bred⟩ := given
      exact continued buds bred.genders db later

theorem holdsPair_of_seen {db : Db} {pair : BreedPair}
    (own : stage.subject = some pair.userAddress)
    (seen : ∃ row ∈ db.breedPair.rows, PairLater pair row) :
    HoldsPair db stage.subject pair.id := by
  obtain ⟨row, listed, later⟩ := seen
  exact ⟨row, listed, later.id, by rw [own, later.userAddress]⟩

theorem mayRaise_of_seen {db : Db} {pair : BreedPair}
    (own : stage.subject = some pair.userAddress)
    (seen : ∃ row ∈ db.breedPair.rows, PairLater pair row)
    (begun : 0 ≤ pair.currentLevel)
    (reachable : pair.currentLevel + 1 ≤ app.config.targetLevel)
    (climbed : pair.currentLevel = 0 ∨
      LevelRecorded db pair.id pair.currentLevel) :
    MayRaise app db stage.subject pair.id (pair.currentLevel + 1) := by
  obtain ⟨row, listed, later⟩ := seen
  refine ⟨by omega, reachable, ⟨row, listed, later.id, ?_, ?_⟩, ?_⟩
  · rw [own, later.userAddress]
  · have climbing := later.climbing
    omega
  · rcases climbed with start | recorded
    · exact .inl (by omega)
    · right
      rw [add_sub_cancel_right]
      exact recorded

/-- Adding the next level to a pair whose current one is evaluated. -/
theorem guarded_startBreedLevel {pair : BreedPair}
    {maleBud femaleBud : Option Bud} {rest : Unit → Handler β}
    (idle : stage.work = .idle) (own : stage.subject = some pair.userAddress)
    (seen : ∃ row ∈ since.breedPair.rows, PairLater pair row)
    (begun : 0 ≤ pair.currentLevel)
    (within : pair.currentLevel ≤ app.config.targetLevel)
    (climbed : pair.currentLevel = 0 ∨
      LevelRecorded since pair.id pair.currentLevel)
    (refused : ∀ db error, finish stage db (.error error))
    (continued : ∀ db,
      (discipline app).Guarded (surroundings admitted) finish stage db
        (rest ())) :
    (discipline app).Guarded (surroundings admitted) finish stage since
      (BreedService.startBreedLevel app pair maleBud femaleBud >>= rest) := by
  have held := holdsPair_of_seen own seen
  obtain ⟨holder, work⟩ := stage
  obtain rfl : work = .idle := idle
  unfold BreedService.startBreedLevel
  simp only
  split
  · next beyond =>
      rw [Prog.bind_assoc, Prisma.breedPairUpdate, Prog.bind_assoc]
      refine guarded_ask ?_ (fun _ => rfl) fun answer db later => ?_
      · intro db later _
        have last : pair.currentLevel = app.config.targetLevel := by omega
        have positive := app.config.targetLevel_pos
        refine ⟨later.holdsPair held, .inr ⟨rfl, by rw [last], ?_⟩⟩
        rcases climbed with start | recorded
        · omega
        · rw [← last]
          exact later.levelRecorded recorded
      · exact guarded_pass (uses_settle _) refused fun _ after _ =>
          continued after
  · next reachable =>
      rw [Prog.bind_assoc]
      refine guarded_generateLevelBuds refused fun buds genders db later => ?_
      rw [Prog.bind_assoc, Prisma.breedLevelCreate, Prog.bind_assoc,
        Discipline.guarded_call_bind]
      intro second toSecond _
      have toCreate := later.trans toSecond
      refine ⟨⟨rfl, rfl, ?_⟩, ?_⟩
      · obtain ⟨row, listed, climbing⟩ := seen
        obtain ⟨current, standing, further⟩ := toCreate.breedPair row listed
        exact mayRaise_of_seen own
          ⟨current, standing, climbing.trans further⟩ begun (by omega)
          (climbed.imp_right toCreate.levelRecorded)
      · intro oracle _ created
        cases answered : ((surroundings admitted).exec oracle
            (.breedLevelCreate ⟨pair.currentLevel + 1, pair.id, 0⟩)
            second).1 with
        | error error => exact refused _ _
        | ok level =>
            rw [settle_ok_bind, Prog.bind_assoc, Prisma.breedBudCreateMany,
              Discipline.guarded_call_bind]
            intro third toThird _
            have toBreed := toCreate.trans (created.trans toThird)
            refine ⟨⟨genders, pair.id, pair.currentLevel + 1, rfl,
              toBreed.holdsPair held⟩, ?_⟩
            intro writer _ bred
            rw [Prisma.breedPairUpdate, Prog.bind_assoc, Prog.bind_assoc,
              Discipline.guarded_call_bind]
            intro last toLast _
            refine ⟨⟨(toBreed.trans (bred.trans toLast)).holdsPair held,
              .inl rfl⟩, ?_⟩
            intro clerk _ counted
            exact guarded_pass (uses_settle _) refused fun _ after _ =>
              continued after

theorem guarded_issueGen1BudMint {minter : Address} {bud : Bud}
    {pairId : Option Int} {rest : Gen1Bud → Handler β}
    (idle : stage.work = .idle) (own : stage.subject = some minter)
    (refused : ∀ db error, finish stage db (.error error))
    (continued : ∀ row db,
      (discipline app).Guarded (surroundings admitted) finish stage db
        (rest row)) :
    (discipline app).Guarded (surroundings admitted) finish stage since
      (BudService.issueGen1BudMint minter bud pairId >>= rest) := by
  obtain ⟨holder, work⟩ := stage
  obtain rfl : work = .idle := idle
  obtain rfl : holder = some minter := own
  rw [BudService.issueGen1BudMint, Prog.bind_assoc, Prisma.gen1BudCreate,
    Discipline.guarded_call_bind]
  intro first _ _
  refine ⟨⟨rfl, rfl, rfl⟩, ?_⟩
  intro clock _ created
  rw [Prog.bind_assoc, signMintRequest, Discipline.guarded_call_bind]
  intro second toSecond _
  refine ⟨.inl ⟨_, rfl, rfl⟩, ?_⟩
  intro signer _ signed
  rw [Prisma.gen1BudUpdateSignature, Prog.bind_assoc,
    Discipline.guarded_call_bind]
  intro last toLast _
  refine ⟨⟨rfl, ?_⟩, ?_⟩
  · have issued : HoldsBud
        ((surroundings admitted).exec clock
          (.gen1BudCreate ⟨bud, pairId, minter, ""⟩) first).2
        (some minter) first.gen1Bud.nextId :=
      ⟨Gen1BudCreate.row ⟨bud, pairId, minter, ""⟩ clock.now
        first.gen1Bud.nextId, List.mem_append_right _ List.mem_cons_self, rfl,
        rfl⟩
    exact (toSecond.trans (signed.trans toLast)).holdsBud issued
  · intro writer _ stored
    exact guarded_pass (uses_settle _) refused fun row after _ =>
      continued row after

end Services

end BudBreeding.Concurrency
