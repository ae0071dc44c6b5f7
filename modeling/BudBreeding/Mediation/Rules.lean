import BudBreeding.Mediation.Grounds
import BudBreeding.Concurrency.Rules

namespace BudBreeding.Mediation

open Data Program Backend Concurrency

/-! How the parts of a request come by their grounds, whatever they are answered. -/

/-- The query draws a number. -/
def draws : Query → Bool
  | .mathRandom => true
  | _ => false

/-- From what it knows on, the program only asks what it has grounds for. -/
def Conducts (app : App) (admitted : Oracle → Prop) (request : Request)
    (past : Past) {α : Type} (program : Handler α) : Prop :=
  (recollect (Grounded app)).Follows (surroundings admitted) (fun _ _ => True)
    ⟨request, past⟩ program

/-- What is known stays known, and no number was drawn. -/
structure Onward (past later : Past) : Prop where
  known : past <+: later
  undrawn : firstDraw past = none → firstDraw later = none

theorem Onward.trans {first second third : Past} (left : Onward first second)
    (right : Onward second third) : Onward first third :=
  ⟨left.known.trans right.known, right.undrawn ∘ left.undrawn⟩

section Rules

variable {app : App} {admitted : Oracle → Prop} {request : Request} {past : Past}
  {α β : Type}

theorem conducts_pure_bind {value : α} {rest : α → Handler β}
    (conducts : Conducts app admitted request past (rest value)) :
    Conducts app admitted request past (Pure.pure value >>= rest) :=
  conducts

theorem onward_asked {query : Query} (answer : query.Answer)
    (dry : draws query = false) : Onward past (past ++ [⟨query, answer⟩]) := by
  refine ⟨List.prefix_append _ _, fun undrawn => ?_⟩
  have undrawn' : drawOf ⟨query, answer⟩ = none := by
    cases query <;> first
      | rfl
      | cases dry
  rw [firstDraw, List.filterMap_append, List.head?_append, ← firstDraw, undrawn]
  simp [undrawn']

theorem conducts_ask {query : Query} {rest : query.Answer → Handler β}
    (dry : draws query = false) (grounded : Grounded app request past query)
    (continued : ∀ answer later, Onward past later → Knows later query answer →
      Conducts app admitted request later (rest answer)) :
    Conducts app admitted request past (ask query >>= rest) :=
  follows_asked grounded fun answer => continued answer _
    (onward_asked answer dry) (List.mem_append_right _ List.mem_cons_self)

theorem grounded_of_looks {query : Query} (looks : Looks query)
    (request : Request) (past : Past) : Grounded app request past query := by
  obtain ⟨quiet, unsigned⟩ := looks
  cases query <;> first
    | cases quiet; done
    | cases unsigned; done
    | exact trivial

theorem conducts_look {query : Query} {rest : query.Answer → Handler β}
    (dry : draws query = false) (looks : Looks query)
    (continued : ∀ answer later, Onward past later → Knows later query answer →
      Conducts app admitted request later (rest answer)) :
    Conducts app admitted request past (ask query >>= rest) :=
  conducts_ask dry (grounded_of_looks looks request past) continued

theorem conducts_of_looks {program : Handler β} (uses : program.Uses Looks) :
    Conducts app admitted request past program :=
  follows_of_free (fun _ looks => grounded_of_looks looks) uses
    fun _ _ _ => trivial

theorem conducts_pass {program : Handler α} {rest : α → Handler β}
    (uses : program.Uses Looks)
    (continued : ∀ value later, past <+: later →
      Conducts app admitted request later (rest value)) :
    Conducts app admitted request past (program >>= rest) :=
  follows_free (fun _ looks => grounded_of_looks looks) uses
    (fun _ _ _ => trivial)
    fun value extra _ => continued value _ (List.prefix_append _ extra)

theorem conducts_throwIf_bind {condition : Prop} [Decidable condition]
    {error : Failure} {rest : Unit → Handler β}
    (continued : ¬ condition → Conducts app admitted request past (rest ())) :
    Conducts app admitted request past (Prog.throwIf condition error >>= rest) :=
  Protocol.follows_throwIf_bind (fun _ => trivial) continued

theorem conducts_tail {program : Handler β}
    (conducts : Conducts app admitted request past (program >>= Pure.pure)) :
    Conducts app admitted request past program :=
  (Protocol.follows_bind.mp conducts).mono fun _ _ _ => trivial

theorem conducts_map {program : Handler α} {change : α → β} :
    Conducts app admitted request past (change <$> program) ↔
      Conducts app admitted request past program :=
  Protocol.follows_map

theorem conducts_validated {valid : Bool} {handler : Handler β}
    (conducts : valid = true → Conducts app admitted request past handler) :
    Conducts app admitted request past (validated valid handler) :=
  conducts_throwIf_bind fun passed =>
    conducts (Bool.eq_true_of_not_eq_false passed)

/-- A handler that asks nothing more may catch the errors of what it conducts. -/
theorem conducts_tryCatch {program : Handler β} {handler : Failure → Handler β}
    (conducts : Conducts app admitted request past program)
    (silent : ∀ error, (handler error).Uses Looks) :
    Conducts app admitted request past (program.tryCatch handler) := by
  refine Protocol.follows_tryCatch.mpr (Protocol.Follows.mono conducts ?_)
  intro memory result _
  cases result with
  | ok value => exact trivial
  | error error => exact conducts_of_looks (silent error)

/-- Errors that are replaced by others. -/
theorem conducts_rethrow {program : Handler α} {change : Failure → Failure}
    {rest : α → Handler β}
    (conducts : Conducts app admitted request past (program >>= rest)) :
    Conducts app admitted request past
      (program.tryCatch (fun error => .throw (change error)) >>= rest) := by
  refine Protocol.follows_bind.mpr (Protocol.follows_tryCatch.mpr ?_)
  refine Protocol.Follows.mono (Protocol.follows_bind.mp conducts) ?_
  intro memory result continued
  cases result with
  | ok value => exact continued
  | error error => exact trivial

end Rules

section Services

variable {app : App} {admitted : Oracle → Prop} {request : Request} {past : Past}
  {β : Type}

theorem conducts_consumeBreedingPoint {user : Address} {amount : Int}
    {rest : User → Handler β} (charges : price app request = some (user, amount))
    (continued : ∀ row later, Onward past later → Paid later user amount →
      Conducts app admitted request later (rest row)) :
    Conducts app admitted request past
      (UserService.consumeBreedingPoint user amount >>= rest) := by
  rw [UserService.consumeBreedingPoint, Prog.bind_assoc]
  refine conducts_look rfl ⟨rfl, rfl⟩ fun found first onward knows => ?_
  cases found with
  | none => exact trivial
  | some row =>
      rw [Prog.bind_assoc]
      refine conducts_throwIf_bind fun covered => ?_
      rw [not_lt] at covered
      rw [Prisma.userUpdate, Prog.bind_assoc]
      refine conducts_ask rfl
        ⟨row, knows, .inl ⟨amount, charges, covered, rfl⟩⟩ ?_
      intro answer second further charged
      cases answer with
      | error error => exact trivial
      | ok updated =>
          exact continued updated second (onward.trans further)
            ⟨row, updated, knows.kept further.known, covered, charged⟩

theorem conducts_ownersOf {budIds : List Int}
    {rest : List Address → Handler β}
    (continued : ∀ owners later, Onward past later →
      Knows later (.ownerOfBuds budIds) (some owners) →
      Conducts app admitted request later (rest owners)) :
    Conducts app admitted request past (BudService.ownersOf budIds >>= rest) := by
  rw [BudService.ownersOf, Prog.bind_assoc]
  refine conducts_look rfl ⟨rfl, rfl⟩ fun answer later onward knows => ?_
  cases answer with
  | none => exact trivial
  | some owners => exact continued owners later onward knows

theorem conducts_verifyBudPairs {address : Address} {maleBudId femaleBudId : Int}
    {checkMetadata : Bool} {rest : List BudWithId → Handler β}
    (continued : ∀ metadatas later, Onward past later →
      OwnsBuds later address maleBudId femaleBudId →
      (checkMetadata = true → Matched later maleBudId femaleBudId) →
      Conducts app admitted request later (rest metadatas)) :
    Conducts app admitted request past
      (BudService.verifyBudPairs address maleBudId femaleBudId checkMetadata >>=
        rest) := by
  rw [BudService.verifyBudPairs, Prog.bind_assoc]
  refine conducts_throwIf_bind fun _ => ?_
  rw [Prog.bind_assoc]
  refine conducts_throwIf_bind fun _ => ?_
  rw [Prog.bind_assoc]
  refine conducts_ownersOf fun owners first onward named => ?_
  rw [Prog.bind_assoc]
  refine conducts_throwIf_bind fun both => ?_
  rw [not_or, not_not, not_not] at both
  have owns : OwnsBuds first address maleBudId femaleBudId :=
    ⟨owners, named, both⟩
  cases checkMetadata with
  | false =>
      refine continued [] first onward owns fun checked => ?_
      cases checked
  | true =>
      rw [if_pos rfl, Prog.bind_assoc, BudService.getMetadatas, Prog.bind_assoc]
      refine conducts_look rfl ⟨rfl, rfl⟩ ?_
      intro response second further shown
      refine conducts_pure_bind ?_
      rw [Prog.bind_assoc]
      refine conducts_throwIf_bind fun revealed => ?_
      rw [Prog.bind_assoc]
      refine conducts_throwIf_bind fun gendered => ?_
      refine continued _ second (onward.trans further)
        (owns.kept further.known) fun _ => ⟨response, shown, ?_, ?_⟩
      · intro bud member
        by_contra hidden
        exact revealed ⟨bud, member, Bool.eq_false_of_not_eq_true hidden⟩
      · exact Bool.eq_true_of_not_eq_false gendered

theorem conducts_checkGameItemBalance {user : Address} {item : Int} {least : Nat}
    {rest : Unit → Handler β}
    (continued : ∀ later, Onward past later → HoldsItem later user item least →
      Conducts app admitted request later (rest ())) :
    Conducts app admitted request past
      (BreedService.checkGameItemBalance user item least >>= rest) := by
  rw [BreedService.checkGameItemBalance, Prog.bind_assoc]
  refine conducts_look rfl ⟨rfl, rfl⟩ fun answer later onward knows => ?_
  cases answer with
  | none => exact trivial
  | some balance =>
      refine conducts_throwIf_bind fun enough => ?_
      rw [not_or, not_lt] at enough
      exact continued later onward
        ⟨balance, knows, Nat.pos_of_ne_zero enough.1, enough.2⟩

theorem conducts_verifyGameItemPossession {pair : BreedPair}
    {rest : Unit → Handler β}
    (continued : ∀ later, Onward past later → ItemCovered later pair →
      Conducts app admitted request later (rest ())) :
    Conducts app admitted request past
      (BreedService.verifyGameItemPossession pair >>= rest) := by
  have self : Onward past past := ⟨List.prefix_refl _, id⟩
  unfold BreedService.verifyGameItemPossession
  cases uses : pair.gameItemId with
  | none =>
      refine continued past self fun item used => ?_
      rw [uses] at used
      cases used
  | some item =>
      simp only
      split
      · next absent =>
          refine continued past self fun other used present => ?_
          rw [uses] at used
          exact absurd (Option.some.inj used ▸ absent) present
      · rw [Prog.bind_assoc]
        refine conducts_look rfl ⟨rfl, rfl⟩ ?_
        intro count first onward counted
        rw [Prog.bind_assoc]
        refine conducts_throwIf_bind fun _ => ?_
        refine conducts_checkGameItemBalance fun second further holds => ?_
        refine continued second (onward.trans further) fun other used _ => ?_
        rw [uses] at used
        obtain rfl := Option.some.inj used
        exact ⟨count, counted.kept further.known, holds⟩

theorem conducts_checkGameItem {user : Address} {gameItemId : Option Int}
    {rest : Unit → Handler β}
    (continued : ∀ later, Onward past later →
      (∀ item, gameItemId = some item → item ≠ 0 →
        HoldsItem later user item 1) →
      Conducts app admitted request later (rest ())) :
    Conducts app admitted request past
      (BreedController.checkGameItem user gameItemId >>= rest) := by
  have self : Onward past past := ⟨List.prefix_refl _, id⟩
  cases gameItemId with
  | none =>
      refine continued past self fun item used => ?_
      cases used
  | some item =>
      unfold BreedController.checkGameItem
      simp only
      split
      · next absent =>
          refine continued past self fun other used present => ?_
          exact absurd (Option.some.inj used ▸ absent) present
      · refine conducts_checkGameItemBalance fun later onward holds => ?_
        refine continued later onward fun other used _ => ?_
        rw [← Option.some.inj used]
        exact holds

theorem conducts_evaluateBreedLevel {pair : BreedPair}
    {maleBudId femaleBudId : Int} {rest : BreedService.Evaluation → Handler β}
    (grounds : ∀ level data later, past <+: later →
      Evaluable app later pair maleBudId femaleBudId level data →
      EvaluationGrounds app request later level.id data)
    (continued : ∀ evaluation later, Onward past later →
      Evaluated app later pair maleBudId femaleBudId →
      Conducts app admitted request later (rest evaluation)) :
    Conducts app admitted request past
      (BreedService.evaluateBreedLevel app pair maleBudId femaleBudId >>=
        rest) := by
  rw [BreedService.evaluateBreedLevel, Prog.bind_assoc]
  refine conducts_look rfl ⟨rfl, rfl⟩ fun found first toFirst listed => ?_
  cases found with
  | none => exact trivial
  | some level =>
      rw [Prog.bind_assoc]
      refine conducts_throwIf_bind fun blank => ?_
      rw [Prog.bind_assoc]
      refine conducts_look rfl ⟨rfl, rfl⟩ ?_
      intro now second toSecond clock
      rw [Prog.bind_assoc]
      refine conducts_throwIf_bind fun elapsed => ?_
      rw [Prog.bind_assoc]
      refine conducts_look rfl ⟨rfl, rfl⟩ ?_
      intro buds third toThird chosen
      rw [Prog.bind_assoc]
      refine conducts_throwIf_bind fun gendered => ?_
      have evaluable : Evaluable app third pair maleBudId femaleBudId level
          ⟨(BreedService.evaluationOf app buds).bonusRate, maleBudId,
            femaleBudId⟩ :=
        ⟨listed.kept (toSecond.trans toThird).known, not_not.mp blank,
          ⟨now, clock.kept toThird.known, Bool.eq_true_of_not_eq_false elapsed⟩,
          buds, chosen, Bool.eq_true_of_not_eq_false gendered, rfl⟩
      have toThird := toFirst.trans (toSecond.trans toThird)
      rw [Prog.bind_assoc, Prisma.breedLevelUpdate, Prog.bind_assoc]
      refine conducts_ask rfl (grounds _ _ _ toThird.known evaluable) ?_
      intro answer last toLast stored
      cases answer with
      | error error => exact trivial
      | ok row =>
          exact continued _ last (toThird.trans toLast)
            ⟨level, _, row, evaluable.kept toLast.known, stored⟩

theorem conducts_addSlots {counted : Option Int} {filter : BreedSlot → Bool}
    {data : List BreedSlotCreate} {rest : Unit → Handler β}
    (grounds : ∀ later, past <+: later →
      Knows later (.breedSlotCount counted filter) (.ok 0) →
      LandGrounds app request later data)
    (continued : ∀ later, past <+: later →
      Conducts app admitted request later (rest ())) :
    Conducts app admitted request past
      ((do
        let count ← Prisma.breedSlotCount counted filter
        if 0 < count then
          return ()
        else
          Prisma.breedSlotCreateMany data) >>= rest) := by
  rw [Prog.bind_assoc, Prisma.breedSlotCount, Prog.bind_assoc]
  refine conducts_look rfl ⟨rfl, rfl⟩ fun answer first onward counted => ?_
  cases answer with
  | error error => exact trivial
  | ok count =>
      rw [settle_ok_bind]
      split
      · exact continued first onward.known
      · next none =>
          obtain rfl := Nat.eq_zero_of_not_pos none
          rw [Prisma.breedSlotCreateMany, Prog.bind_assoc]
          refine conducts_ask rfl (grounds first onward.known counted) ?_
          intro created second further _
          exact conducts_pass (uses_settle created) fun _ third beyond =>
            continued third ((onward.trans further).known.trans beyond)

theorem conducts_validateTransaction {txHash network : String} {type : EventType}
    {rest : Unit → Handler β}
    (continued : ∀ later, Onward past later →
      network = app.config.network.name →
      Knows later (.eventServiceLogCount
        fun log => log.txHash = txHash ∧ log.type = type) (0 : Nat) →
      Conducts app admitted request later (rest ())) :
    Conducts app admitted request past
      (AdminService.validateTransaction app txHash network type >>= rest) := by
  rw [AdminService.validateTransaction, Prog.bind_assoc]
  refine conducts_throwIf_bind fun configured => ?_
  rw [Prog.bind_assoc]
  refine conducts_look rfl ⟨rfl, rfl⟩ fun count later onward counted => ?_
  refine conducts_throwIf_bind fun unhandled => ?_
  obtain rfl : count = (0 : Nat) := Nat.eq_zero_of_not_pos unhandled
  exact continued later onward (not_not.mp configured) counted

end Services

section Dice

variable {app : App} {admitted : Oracle → Prop} {request : Request} {past : Past}
  {α β : Type}

theorem returns_sized {db : Db} (options : RandomBudOptions)
    (wide : 1 < options.maxThc ∧ 1 < options.maxBudSize) :
    (surroundings admitted).Returns (generateRandomBud app options)
      (fun bud => 1 ≤ bud.thc ∧ bud.thc < options.maxThc ∧ 1 ≤ bud.budSize ∧
        bud.budSize < options.maxBudSize) db := by
  refine (returns_randomElement _).ensures_bind fun nameAndImage _ => ?_
  refine (returns_randomNumber wide.1.le).ensures_bind fun thc drawn => ?_
  refine (returns_randomNumber wide.2.le).ensures_bind fun budSize sized => ?_
  refine (returns_randomElement _).ensures_bind fun shine _ => ?_
  refine (returns_randomElement _).ensures_bind fun gender _ => ?_
  refine (returns_randomElement _).ensures_bind fun color _ => ?_
  refine World.returns_pure ⟨drawn.1, ?_, sized.1, ?_⟩
  · exact drawn.2.resolve_right fun narrow => wide.1.ne narrow.1
  · exact sized.2.resolve_right fun narrow => wide.2.ne narrow.1

theorem returns_sized_targeted {db : Db} (gender : BudGender) (parent : Bud) :
    (surroundings admitted).Returns
      (generateRandomBud app (BreedService.targeted gender parent)) Sized db :=
  returns_sized _ (by simp [BreedService.targeted, defaultOptions])

theorem returns_sized_levelBuds {db : Db} (maleBud femaleBud : Bud) :
    (surroundings admitted).Returns
      (BreedService.generateLevelBuds app (some maleBud) (some femaleBud))
      (fun buds => ∀ bud ∈ buds, Sized bud) db := by
  refine (returns_sized_targeted .M maleBud).ensures_bind fun first one => ?_
  refine (returns_sized_targeted .F femaleBud).ensures_bind fun second two => ?_
  refine (returns_sized_targeted .F femaleBud).ensures_bind fun third three => ?_
  refine (returns_sized_targeted .M maleBud).ensures_bind fun fourth four => ?_
  exact World.returns_pure (by simp [one, two, three, four])

theorem returns_size {db : Db} (rate : Rat) :
    (surroundings admitted).Returns (HashTableService.lookUpGen1Bud app rate)
      (fun size =>
        size ∈ (HashTableService.getMatchingGen1Rate app rate).toList) db := by
  unfold HashTableService.lookUpGen1Bud
  generalize HashTableService.getMatchingGen1Rate app rate = group
  have filled : 0 < group.toList.length := by simp [Choices.toList]
  refine (returns_randomNumber (by omega)).ensures_bind fun index drawn => ?_
  have inside : index.toNat < group.toList.length := by omega
  rw [List.getElem?_eq_getElem inside]
  exact World.returns_pure (List.getElem_mem inside)

/-- The prize of a dice that is won at the rate. -/
def prize (app : App) (rate : Rat) : Handler (Option Bud) := do
  let bud ← generateRandomBud app { defaultOptions with gen1 := true }
  let thcAndBudSize ← HashTableService.lookUpGen1Bud app rate
  return some { bud with
    thc := thcAndBudSize.thc
    budSize := thcAndBudSize.budSize }

theorem returns_prize {db : Db} (rate : Rat) :
    (surroundings admitted).Returns (prize app rate)
      (fun result => ∃ bud, result = some bud ∧ Awarded app rate bud) db := by
  refine (returns_generateRandomBud app _ (by decide)).ensures_bind ?_
  intro bud look
  refine (returns_size rate).ensures_bind fun size listed => ?_
  obtain ⟨-, choice, listedChoice, name, image⟩ := look
  exact World.returns_pure
    ⟨_, rfl, ⟨choice, listedChoice, name, image⟩, listed⟩

theorem uses_prize (rate : Rat) :
    (prize app rate).Uses (Query.Within [.dice]) := by
  refine Prog.uses_bind (uses_generateRandomBud _ _) fun bud => ?_
  exact Prog.uses_bind (uses_lookUpGen1Bud _ _) fun size => Prog.uses_pure _

/-- What a part of a request that only draws numbers returns. -/
theorem conducts_drawn {program : Handler α} {rest : α → Handler β}
    {facts : α → Prop} (uses : program.Uses (Query.Within [.dice]))
    (returns : (surroundings admitted).Returns program facts .empty)
    (continued : ∀ value later, past <+: later → facts value →
      Conducts app admitted request later (rest value)) :
    Conducts app admitted request past (program >>= rest) := by
  refine Protocol.follows_bind.mpr ?_
  have ensures : (surroundings admitted).Ensures program
      (fun result _ => ∃ value, result = .ok value ∧ facts value) .empty :=
    World.Ensures.mono returns fun _ _ given => given.2
  refine follows_of_ensures (fun _ looks => grounded_of_looks looks) indifferent
    (uses.mono fun query within => ⟨looks_within (within.mono (by simp)),
      oblivious_dice within⟩) ensures ?_
  intro extra _ result given
  obtain ⟨value, rfl, holds⟩ := given
  exact continued value _ (List.prefix_append _ extra) holds

theorem conducts_winRandomChance {chance : Rat} {rest : Bool → Handler β}
    (undrawn : firstDraw past = none)
    (lost : ∀ later, past <+: later →
      Conducts app admitted request later (rest false))
    (won : ∀ later, past <+: later → Won later chance →
      Conducts app admitted request later (rest true)) :
    Conducts app admitted request past (winRandomChance chance >>= rest) := by
  unfold winRandomChance
  split
  · next top => exact won past (List.prefix_refl _) (.inl top)
  · next other =>
      split
      · next within =>
          change Conducts app admitted request past
            (ask .mathRandom >>= fun draw : Draw => rest (decide
              (((⌊draw.val * (100 - 0 : Int)⌋ + 0 : Int) : Rat) ≤ chance)))
          refine follows_asked trivial fun draw : Draw => ?_
          have drawn : firstDraw (past ++ [⟨.mathRandom, draw⟩]) = some draw := by
            rw [firstDraw, List.filterMap_append, List.head?_append,
              ← firstDraw, undrawn]
            rfl
          by_cases wins : ((⌊draw.val * (100 - 0 : Int)⌋ + 0 : Int) : Rat) ≤ chance
          · rw [decide_eq_true wins]
            refine won _ (List.prefix_append _ _) (.inr ⟨draw, drawn, ?_⟩)
            refine decide_eq_true (.inr ⟨within.1, within.2, ?_⟩)
            simpa using wins
          · rw [decide_eq_false wins]
            exact lost _ (List.prefix_append _ _)
      · exact lost past (List.prefix_refl _)

theorem diceGen1Bud_eq (rate : Rat) :
    BudService.diceGen1Bud app rate =
      (winRandomChance rate >>= fun success =>
        if success then prize app rate else return none) := rfl

theorem conducts_diceGen1Bud {rate : Rat} {rest : Option Bud → Handler β}
    (undrawn : firstDraw past = none)
    (lost : ∀ later, past <+: later →
      Conducts app admitted request later (rest none))
    (won : ∀ bud later, past <+: later → Won later rate →
      Awarded app rate bud →
      Conducts app admitted request later (rest (some bud))) :
    Conducts app admitted request past
      (BudService.diceGen1Bud app rate >>= rest) := by
  rw [diceGen1Bud_eq, Prog.bind_assoc]
  refine conducts_winRandomChance undrawn lost fun first onward wins => ?_
  refine conducts_drawn (uses_prize rate) (returns_prize rate) ?_
  rintro _ second further ⟨bud, rfl, awarded⟩
  exact won bud second (onward.trans further) (wins.kept further) awarded

theorem conducts_generateLevelBuds {maleBud femaleBud : Option Bud}
    {rest : List Bud → Handler β}
    (continued : ∀ buds later, past <+: later → (∀ bud ∈ buds, Sized bud) →
      Conducts app admitted request later (rest buds)) :
    Conducts app admitted request past
      (BreedService.generateLevelBuds app maleBud femaleBud >>= rest) := by
  match maleBud, femaleBud with
  | none, _ => exact trivial
  | some _, none => exact trivial
  | some male, some female =>
      exact conducts_drawn (uses_generateLevelBuds app _ _)
        (returns_sized_levelBuds male female) continued

theorem conducts_startBreedLevel {pair : BreedPair}
    {maleBud femaleBud : Option Bud} {rest : Unit → Handler β}
    (grounds : ∀ later, past <+: later →
      LevelGrounds app request later pair.id (pair.currentLevel + 1))
    (continued : ∀ later, Conducts app admitted request later (rest ())) :
    Conducts app admitted request past
      (BreedService.startBreedLevel app pair maleBud femaleBud >>= rest) := by
  unfold BreedService.startBreedLevel
  simp only
  split
  · rw [Prog.bind_assoc, Prisma.breedPairUpdate, Prog.bind_assoc]
    refine conducts_ask rfl (grounds past (List.prefix_refl _)) ?_
    intro answer later _ _
    exact conducts_pass (uses_settle _) fun _ last _ => continued last
  · rw [Prog.bind_assoc]
    refine conducts_generateLevelBuds fun buds first toFirst sized => ?_
    rw [Prog.bind_assoc, Prisma.breedLevelCreate, Prog.bind_assoc]
    refine conducts_ask rfl (grounds first toFirst) ?_
    intro answer second further created
    cases answer with
    | error error => exact trivial
    | ok level =>
        rw [settle_ok_bind, Prog.bind_assoc, Prisma.breedBudCreateMany]
        refine conducts_ask rfl ⟨sized, _, level, created, rfl⟩ ?_
        intro _ third onward _
        have toThird := toFirst.trans (further.trans onward).known
        rw [Prisma.breedPairUpdate, Prog.bind_assoc, Prog.bind_assoc]
        refine conducts_ask rfl (grounds third toThird) ?_
        intro counted fourth _ _
        exact conducts_pass (uses_settle _) fun _ last _ => continued last

theorem conducts_issueGen1BudMint {minter : Address} {bud : Bud}
    {pairId : Option Int} {rest : Gen1Bud → Handler β}
    (grounds : PrizeGrounds app request past ⟨bud, pairId, minter, ""⟩)
    (continued : ∀ row later, past <+: later →
      Conducts app admitted request later (rest row)) :
    Conducts app admitted request past
      (BudService.issueGen1BudMint minter bud pairId >>= rest) := by
  rw [BudService.issueGen1BudMint, Prog.bind_assoc, Prisma.gen1BudCreate]
  refine Protocol.follows_call_bind.mpr fun answer possible => ⟨grounds, ?_⟩
  obtain ⟨db, oracle, -, rfl⟩ := possible
  rw [Prog.bind_assoc, signMintRequest]
  have created : Knows (past ++ [⟨.gen1BudCreate ⟨bud, pairId, minter, ""⟩,
      Gen1BudCreate.row ⟨bud, pairId, minter, ""⟩ oracle.now
        db.gen1Bud.nextId⟩])
      (.gen1BudCreate ⟨bud, pairId, minter, ""⟩)
      (Gen1BudCreate.row ⟨bud, pairId, minter, ""⟩ oracle.now
        db.gen1Bud.nextId) :=
    List.mem_append_right _ List.mem_cons_self
  refine conducts_ask rfl (.inl ⟨_, _, created, rfl⟩) ?_
  intro signature second further signed
  rw [Prisma.gen1BudUpdateSignature, Prog.bind_assoc]
  refine conducts_ask rfl ⟨_, _, created.kept further.known, rfl, signed⟩ ?_
  intro stored third onward _
  have toThird := (List.prefix_append _ _).trans (further.trans onward).known
  exact conducts_pass (uses_settle _) fun row last beyond =>
    continued row last (toThird.trans beyond)

end Dice

end BudBreeding.Mediation
