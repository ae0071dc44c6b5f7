import BudBreeding.Mediation.Rules

namespace BudBreeding.Mediation

open Data Program Backend Concurrency

/-! Every request has grounds for what it does, whatever it is answered. -/

section Handlers

variable {admitted : Oracle → Prop} (app : App) {past : Past}

section Users

theorem conducts_isValidMessage {request : Request} {gameKeyId : Int}
    {message : String} {β : Type} {rest : Bool → Handler β}
    (continued : ∀ isValid later, past <+: later →
      (isValid = true → ∃ now, Knows later .dateNow now ∧
        MessageAccepted now gameKeyId message) →
      Conducts app admitted request later (rest isValid)) :
    Conducts app admitted request past
      (UserService.isValidMessage gameKeyId message >>= rest) := by
  rw [UserService.isValidMessage, Prog.bind_assoc]
  refine conducts_look rfl ⟨rfl, rfl⟩ fun now later onward clock => ?_
  simp only
  split
  · exact trivial
  · next value parsed =>
      split
      · next recent =>
          refine continued _ later onward.known fun same => ⟨now, clock, ?_, ?_⟩
          · exact ⟨value, parsed, recent⟩
          · exact of_decide_eq_true same
      · refine continued _ later onward.known fun accepted => ?_
        cases accepted

theorem conducts_login (body : LoginDto) :
    Conducts app admitted (.login body) past (UserController.login app body) := by
  refine conducts_isValidMessage app fun isValid first _ accepted => ?_
  refine conducts_throwIf_bind fun valid => ?_
  have fresh := accepted (Bool.eq_true_of_not_eq_false valid)
  refine conducts_throwIf_bind fun _ => ?_
  rw [verifyMessage, Prog.bind_assoc]
  refine conducts_look rfl ⟨rfl, rfl⟩ fun recovered second onward knows => ?_
  cases recovered with
  | none => exact trivial
  | some derivedAddress =>
      refine conducts_pure_bind ?_
      split
      · next same =>
          have signedIn : SignedIn second body := by
            obtain ⟨now, clock, message⟩ := fresh
            exact ⟨⟨now, clock.kept onward.known, message⟩, derivedAddress,
              knows, same⟩
          refine conducts_rethrow ?_
          refine conducts_addSlots (fun third further counted => ?_) ?_
          · exact .inl ⟨body, rfl, signedIn.kept further, counted, rfl⟩
          · intro third further
            rw [Prisma.userUpsert, Prog.bind_assoc]
            refine conducts_ask rfl
              ⟨body, rfl, signedIn.kept further, rfl, rfl, rfl⟩
              fun stored fourth _ _ => ?_
            exact conducts_pass (uses_settle stored) fun _ _ _ => trivial
      · exact trivial

theorem conducts_convertBp2High (req : Req) (body : ConvertBPDto) :
    Conducts app admitted (.convertBp2High req body) past
      (UserController.convertBp2High req body) := by
  refine conducts_look rfl ⟨rfl, rfl⟩ fun found first _ knows => ?_
  cases found with
  | none => exact trivial
  | some user =>
      refine conducts_throwIf_bind fun covered => ?_
      refine conducts_look rfl ⟨rfl, rfl⟩ fun timestamp second onward clock => ?_
      refine conducts_ask rfl (.inr ⟨req, body, user, timestamp, rfl,
        knows.kept onward.known, not_lt.mp covered, clock, rfl⟩) ?_
      exact fun signature last _ _ => trivial

end Users

section Slots

/-- Paying for an update of one's own slot. -/
theorem conducts_charged_slot {request : Request} {user : Address}
    {slotId amount : Int} {refuses : BreedSlot → Prop} [DecidablePred refuses]
    {error : Failure} {data : BreedSlotUpdate}
    (charges : price app request = some (user, amount))
    (grounds : ∀ later, Paid later user amount →
      Grounded app request later (.breedSlotUpdate slotId data)) :
    Conducts app admitted request past (do
        let slot ← Prisma.breedSlotFindFirst (LandController.userSlot user slotId)
        match slot with
        | none => .throw (NotFoundError "Slot not found")
        | some slot => do
            Prog.throwIf (refuses slot) error
            let _ ← UserService.consumeBreedingPoint user amount
            Prisma.breedSlotUpdate slotId data) := by
  refine conducts_look rfl ⟨rfl, rfl⟩ fun found first _ _ => ?_
  cases found with
  | none => exact trivial
  | some slot =>
      refine conducts_throwIf_bind fun _ => ?_
      refine conducts_consumeBreedingPoint charges fun row second _ paid => ?_
      refine conducts_ask rfl (grounds second paid) fun answer last _ _ => ?_
      exact conducts_of_looks (uses_settle answer)

theorem conducts_openSlot (req : Req) (body : OpenSlotDto) :
    Conducts app admitted (.openSlot req body) past
      (LandController.openSlot app req body) :=
  conducts_charged_slot app rfl fun _ paid => .inl ⟨req, body, rfl, rfl, paid⟩

theorem conducts_convertIndoor (req : Req) (body : OpenSlotDto) :
    Conducts app admitted (.convertIndoor req body) past
      (LandController.convertIndoor app req body) :=
  conducts_charged_slot app rfl fun _ paid => .inl ⟨req, body, rfl, rfl, paid⟩

theorem conducts_purchaseLand (req : Req) :
    Conducts app admitted (.purchaseLand req) past
      (LandController.purchaseLand app req) := by
  refine conducts_look rfl ⟨rfl, rfl⟩ fun timestamp first _ clock => ?_
  refine conducts_consumeBreedingPoint rfl fun row second onward paid => ?_
  refine conducts_addSlots (fun third further counted => ?_) ?_
  · exact .inr ⟨req, timestamp, rfl, paid.kept further,
      clock.kept (onward.known.trans further), counted, rfl⟩
  · intro third _
    refine conducts_look rfl ⟨rfl, rfl⟩ fun lands fourth _ _ => ?_
    refine conducts_look rfl ⟨rfl, rfl⟩ fun found fifth _ _ => ?_
    cases found with
    | none => exact trivial
    | some userObject => exact trivial

end Slots

section Breeding

theorem conducts_useSlot {request : Request} {slotId : Int} {used : Bool} {β : Type}
    {rest : BreedSlot → Handler β}
    (grounds : UseGrounds app request past slotId used)
    (continued : ∀ slot later, past <+: later →
      Conducts app admitted request later (rest slot)) :
    Conducts app admitted request past
      (Prisma.breedSlotUpdate slotId (.isUsed used) >>= rest) := by
  rw [Prisma.breedSlotUpdate, Prog.bind_assoc]
  refine conducts_ask rfl grounds fun answer first onward _ => ?_
  exact conducts_pass (uses_settle _) fun slot second further =>
    continued slot second (onward.known.trans further)

/-- Failing the pairs of others and freeing their slots. -/
theorem conducts_failPairs {request : Request} {filter : BreedPair → Bool}
    (seizes : SeizureGrounds request past) :
    Conducts app admitted request past (do
      let pairs ← Prisma.breedPairFindMany filter
      if pairs.length = 0 then
        return none
      else do
        Prisma.breedPairUpdateMany
          (fun pair => pair.id ∈ pairs.map BreedPair.id) (.status .FAILED)
        Prisma.breedSlotUpdateMany
          (fun slot => slot.id ∈ pairs.map BreedPair.slotId) (.isUsed false)
        return some (invalidated pairs.length "pair")) := by
  refine conducts_look rfl ⟨rfl, rfl⟩ fun pairs first onward _ => ?_
  have seizes : SeizureGrounds request first := seizes.kept onward.known
  split
  · exact trivial
  · refine conducts_ask rfl ⟨rfl, seizes⟩ fun _ second further _ => ?_
    refine conducts_ask rfl (seizes.kept further.known) fun _ third _ _ => ?_
    exact trivial

theorem conducts_invalidatePair (req : Req) (body : InvalidBreedPairDto) :
    Conducts app admitted (.invalidatePair req body) past
      (BreedController.invalidatePair req body) := by
  refine conducts_verifyBudPairs fun metadatas first _ owns _ => ?_
  exact conducts_failPairs app (.inl ⟨req, body, rfl, owns⟩)

theorem conducts_upgradeSlot {req : Req} {body : CreateBreedPairDto}
    {slot : BreedSlot} {β : Type} {rest : BreedSlot → Handler β}
    (found : Knows past (.breedSlotFindFirst
      (LandService.openBreedSlotById req.user body.slotId)) (some slot))
    (item : ∀ item, body.gameItemId = some item → item ≠ 0 →
      HoldsItem past req.user item 1)
    (continued : ∀ slot later, past <+: later →
      Conducts app admitted (.createPair req body) later (rest slot)) :
    Conducts app admitted (.createPair req body) past
      (BreedController.upgradeSlot body slot >>= rest) := by
  unfold BreedController.upgradeSlot
  split
  · next upgrades =>
      rw [Prisma.breedSlotUpdate, Prog.bind_assoc]
      refine conducts_ask rfl (.inr ⟨req, body, slot, rfl,
        item _ upgrades.2.1 (by decide), found, rfl⟩) ?_
      intro answer first onward _
      exact conducts_pass (uses_settle _) fun upgraded second further =>
        continued upgraded second (onward.known.trans further)
  · exact continued slot past (List.prefix_refl _)

theorem uses_startSuccessRate {maleBudId femaleBudId : Int}
    {gameItemId : Option Int} {slot : BreedSlot} :
    (BreedService.getStartSuccessRate app maleBudId femaleBudId gameItemId
      slot).Uses Looks :=
  uses_looks (uses_getStartSuccessRate _ _ _ _ _) (by simp)

theorem conducts_createPair (req : Req) (body : CreateBreedPairDto) :
    Conducts app admitted (.createPair req body) past
      (BreedController.createPair app req body) := by
  refine conducts_verifyBudPairs fun metadatas first _ owns matched => ?_
  refine conducts_checkGameItem fun second toSecond item => ?_
  refine conducts_look rfl ⟨rfl, rfl⟩ fun conflicts third toThird counted => ?_
  refine conducts_throwIf_bind fun free => ?_
  obtain rfl : conflicts = (0 : Nat) := Nat.eq_zero_of_not_pos free
  refine conducts_look rfl ⟨rfl, rfl⟩ fun found fourth toFourth knows => ?_
  cases found with
  | none => exact trivial
  | some slot =>
      refine conducts_throwIf_bind fun own => ?_
      have held : ∀ item, body.gameItemId = some item → item ≠ 0 →
          HoldsItem fourth req.user item 1 := fun chosen used present =>
        (item chosen used present).kept (toThird.trans toFourth).known
      refine conducts_upgradeSlot app knows held fun upgraded fifth toFifth => ?_
      refine conducts_pass (uses_startSuccessRate app) fun rate sixth toSixth => ?_
      have toLast := toFifth.trans toSixth
      have fromFirst := (toSecond.trans (toThird.trans toFourth)).known.trans
        toLast
      rw [Prisma.breedPairCreate, Prog.bind_assoc]
      refine conducts_ask rfl ⟨req, body, slot, rfl, rfl, owns.kept fromFirst,
        (matched rfl).kept fromFirst,
        Knows.kept (toFourth.known.trans toLast) counted,
        fun chosen used present => (held chosen used present).kept toLast,
        knows.kept toLast, Bool.eq_false_of_not_eq_true own⟩ ?_
      intro answer seventh _ created
      cases answer with
      | error error => exact trivial
      | ok pair =>
          rw [settle_ok_bind]
          refine conducts_useSlot app
            (.inl ⟨req, body, _, pair, rfl, created, rfl, rfl⟩)
            fun _ eighth toEighth => ?_
          refine conducts_startBreedLevel (fun last toLast => ?_) ?_
          · exact .inl ⟨req, body, _, pair, rfl,
              created.kept (toEighth.trans toLast), rfl, rfl⟩
          · exact fun last => trivial

theorem conducts_levelBreedingUp (req : Req) (body : BreedUpDto) :
    Conducts app admitted (.levelBreedingUp req body) past
      (BreedController.levelBreedingUp app req body) := by
  refine conducts_look rfl ⟨rfl, rfl⟩ fun found first _ knows => ?_
  cases found with
  | none => exact trivial
  | some pair =>
      refine conducts_throwIf_bind fun within => ?_
      refine conducts_verifyGameItemPossession fun second toSecond item => ?_
      refine conducts_verifyBudPairs fun _ third toThird owns _ => ?_
      refine conducts_consumeBreedingPoint rfl fun _ fourth toFourth paid => ?_
      have climbs : Climbs app fourth req body pair :=
        ⟨knows.kept (toSecond.trans (toThird.trans toFourth)).known,
          not_lt.mp within, item.kept (toThird.trans toFourth).known,
          owns.kept toFourth.known, paid⟩
      refine conducts_evaluateBreedLevel ?_ ?_
      · intro level data later onward evaluable
        exact ⟨pair, level, rfl,
          .inl ⟨req, body, rfl, climbs.kept onward, evaluable⟩⟩
      · intro evaluation fifth toFifth evaluated
        refine conducts_startBreedLevel (fun last onward => ?_) ?_
        · exact .inr ⟨req, body, pair, rfl,
            climbs.kept (toFifth.known.trans onward), evaluated.kept onward,
            rfl, rfl⟩
        · exact fun last => trivial

theorem conducts_cancelBreeding (req : Req) (body : BreedCancelDto) :
    Conducts app admitted (.cancelBreeding req body) past
      (BreedController.cancelBreeding req body) := by
  refine conducts_look rfl ⟨rfl, rfl⟩ fun found first _ knows => ?_
  cases found with
  | none => exact trivial
  | some pair =>
      dsimp only
      rw [Prisma.breedPairUpdate, Prog.bind_assoc]
      refine conducts_ask rfl (.inl ⟨req, body, pair, rfl, knows, rfl, rfl⟩) ?_
      intro answer second onward canceled
      cases answer with
      | error error => exact trivial
      | ok row =>
          rw [settle_ok_bind]
          exact conducts_useSlot app
            (.inr (.inl ⟨req, body, pair, row, rfl, knows.kept onward.known,
              canceled, rfl, rfl⟩)) fun _ _ _ => trivial

theorem conducts_openNextSlot {req : Req} {body : BreedFinalizeDto}
    {closed : BreedPair} {β : Type} {rest : Option BreedSlot → Handler β}
    (won : Knows past (.breedPairUpdate body.pairId (.status .COMPLETED))
      (.ok closed))
    (continued : ∀ slot later, past <+: later →
      Conducts app admitted (.finalizeBreeding req body) later (rest slot)) :
    Conducts app admitted (.finalizeBreeding req body) past
      (BreedController.openNextSlot req.user >>= rest) := by
  rw [BreedController.openNextSlot, Prog.bind_assoc]
  refine conducts_look rfl ⟨rfl, rfl⟩ fun found first onward knows => ?_
  cases found with
  | none => exact continued none first onward.known
  | some slot =>
      rw [Prog.bind_assoc, Prisma.breedSlotUpdate, Prog.bind_assoc]
      refine conducts_ask rfl (.inr ⟨req, body, closed, slot, rfl,
        won.kept onward.known, knows, rfl⟩) ?_
      intro answer second further _
      refine conducts_pass (uses_settle _) fun opened third beyond => ?_
      exact continued _ third
        ((onward.trans further).known.trans beyond)

theorem conducts_finalizeBreeding (undrawn : firstDraw past = none) (req : Req)
    (body : BreedFinalizeDto) :
    Conducts app admitted (.finalizeBreeding req body) past
      (BreedController.finalizeBreeding app req body) := by
  refine conducts_look rfl ⟨rfl, rfl⟩ fun found first toFirst knows => ?_
  cases found with
  | none => exact trivial
  | some pair =>
      refine conducts_throwIf_bind fun reached => ?_
      have finishes : Finishes app first req body pair :=
        ⟨knows, not_lt.mp reached⟩
      refine conducts_evaluateBreedLevel ?_ ?_
      · intro level data later onward evaluable
        exact ⟨pair, level, rfl,
          .inr ⟨req, body, rfl, finishes.kept onward, evaluable⟩⟩
      · intro evaluation second toSecond evaluated
        rw [BreedService.finalizeBreeding, Prog.bind_assoc]
        refine conducts_look rfl ⟨rfl, rfl⟩ fun bonus third toThird summed => ?_
        have rated : FinalRate third pair (pair.rate + bonus) :=
          ⟨bonus, summed, rfl⟩
        have evaluated := evaluated.kept toThird.known
        have finishes := finishes.kept (toSecond.trans toThird).known
        have undrawn := (toSecond.trans toThird).undrawn
          (toFirst.undrawn undrawn)
        have ends : ∀ status later, third <+: later →
            (status = .COMPLETED ∧ Won later (pair.rate + bonus) ∨
              status = .FAILED) →
            StatusGrounds app (.finalizeBreeding req body) later body.pairId
              status := fun status later onward ended =>
          .inr ⟨req, body, pair, _, rfl, finishes.kept onward, rfl,
            evaluated.kept onward, rated.kept onward, ended⟩
        have frees : ∀ later, third <+: later →
            UseGrounds app (.finalizeBreeding req body) later pair.slotId
              false := fun later onward =>
          .inr (.inr ⟨req, body, pair, rfl, finishes.kept onward,
            evaluated.kept onward, rfl, rfl⟩)
        refine conducts_diceGen1Bud undrawn ?_ ?_
        · intro fourth toFourth
          refine conducts_useSlot app (frees fourth toFourth)
            fun _ fifth toFifth => ?_
          rw [Prisma.breedPairUpdate, Prog.bind_assoc]
          refine conducts_ask rfl
            (ends _ _ (toFourth.trans toFifth) (.inr rfl)) ?_
          intro answer sixth _ _
          exact conducts_pass (uses_settle _) fun _ _ _ => trivial
        · intro bud fourth toFourth won awarded
          refine conducts_useSlot app (frees fourth toFourth)
            fun _ fifth toFifth => ?_
          rw [Prisma.breedPairUpdate, Prog.bind_assoc]
          refine conducts_ask rfl (ends _ _ (toFourth.trans toFifth)
            (.inl ⟨rfl, won.kept toFifth⟩)) ?_
          intro answer sixth toSixth closed
          cases answer with
          | error error => exact trivial
          | ok row =>
              rw [settle_ok_bind]
              refine conducts_openNextSlot app closed ?_
              intro slot seventh toSeventh
              have onward := toFifth.trans (toSixth.known.trans toSeventh)
              refine conducts_issueGen1BudMint
                (.inl ⟨req, body, pair, row, _, rfl,
                  finishes.kept (toFourth.trans onward),
                  rated.kept (toFourth.trans onward), closed.kept toSeventh,
                  won.kept onward, awarded, rfl, rfl⟩) ?_
              exact fun _ _ _ => trivial

end Breeding

section Names

theorem conducts_checkBudName {request : Request} {name : String} {β : Type}
    {rest : Bool → Handler β}
    (continued : ∀ isValid later, past <+: later →
      (isValid = true →
        Knows later (.gen1BudCount
          fun bud => BudController.sqlTrim bud.name = BudController.trim name)
          (0 : Nat) ∧
        Knows later (.checkBudNameApi name) (some true)) →
      Conducts app admitted request later (rest isValid)) :
    Conducts app admitted request past
      (BudController.checkBudName name >>= rest) := by
  rw [BudController.checkBudName, Prog.bind_assoc]
  refine conducts_look rfl ⟨rfl, rfl⟩ fun count first toFirst counted => ?_
  split
  · refine continued false first toFirst.known fun accepted => ?_
    cases accepted
  · next unborne =>
      obtain rfl : count = (0 : Nat) := Nat.eq_zero_of_not_pos unborne
      rw [Prog.bind_assoc]
      refine conducts_look rfl ⟨rfl, rfl⟩ fun valid second toSecond asked => ?_
      refine continued _ second (toFirst.trans toSecond).known fun accepted => ?_
      have known : valid = some true := by
        cases valid with
        | none => cases accepted
        | some valid => exact congrArg some accepted
      exact ⟨counted.kept toSecond.known, known ▸ asked⟩

theorem conducts_renameGen1Buds (req : Req) (body : RenameGen1BudDto) :
    Conducts app admitted (.renameGen1Buds req body) past
      (BudController.renameGen1Buds app req body) := by
  refine conducts_look rfl ⟨rfl, rfl⟩ fun found first _ knows => ?_
  cases found with
  | none => exact trivial
  | some bud =>
      refine conducts_look rfl ⟨rfl, rfl⟩ fun now second toSecond clock => ?_
      refine conducts_throwIf_bind fun inTime => ?_
      refine conducts_checkBudName app fun isValid third toThird accepted => ?_
      split
      · next valid =>
          obtain ⟨unborne, acceptable⟩ := accepted valid
          apply conducts_tail
          rw [Prisma.gen1BudUpdateName, Prog.bind_assoc]
          refine conducts_ask rfl ⟨req, body, bud, now, rfl, rfl, rfl,
            knows.kept (toSecond.known.trans toThird), clock.kept toThird,
            not_lt.mp inTime, unborne, acceptable⟩ ?_
          intro answer fourth _ _
          exact conducts_pass (uses_settle _) fun _ _ _ => trivial
      · exact trivial

end Names

section Admin

theorem conducts_invalidateBreedingPairByBudId (body : InvalidateBreedingDto) :
    Conducts app admitted (.invalidateBreedingPairByBudId body) past
      (AdminController.invalidateBreedingPairByBudId body) := by
  rw [AdminController.invalidateBreedingPairByBudId, BudService.isGen0BudOwner,
    Prog.bind_assoc]
  refine conducts_ownersOf fun owners first _ named => ?_
  refine conducts_throwIf_bind fun owner => ?_
  exact conducts_failPairs app
    (.inr (.inl ⟨body, owners, rfl, named, not_not.mp owner⟩))

theorem conducts_invalidSlotsForGameKey (body : InvalidateSlotsDto) :
    Conducts app admitted (.invalidSlotsForGameKey body) past
      (AdminController.invalidSlotsForGameKey app body) := by
  unfold AdminController.invalidSlotsForGameKey
  split
  · exact trivial
  split
  · exact trivial
  suffices voids : ∀ later,
      SeizureGrounds (.invalidSlotsForGameKey body) later →
      Conducts app admitted (.invalidSlotsForGameKey body) later (do
        let slots ← Prisma.breedSlotFindMany
          (AdminController.keySlot body.prevOwner body.gameKeyId)
        if slots.length = 0 then
          return none
        else do
          let deletedAt ← dateNow
          Prisma.breedSlotUpdateMany
            (fun slot => slot.id ∈ slots.map BreedSlot.id) (.deletedAt deletedAt)
          Prisma.breedPairUpdateMany
            (fun pair => pair.slotId ∈ slots.map BreedSlot.id) (.status .FAILED)
          return some (invalidated slots.length "slot")) by
    split
    · rw [BudService.isGameKeyOwner, Prog.bind_assoc]
      refine conducts_look rfl ⟨rfl, rfl⟩ fun answer first _ named => ?_
      cases answer with
      | none => exact trivial
      | some owner =>
          refine conducts_throwIf_bind fun same => ?_
          exact voids first (.inr (.inr ⟨body, rfl, .inr
            (not_not.mp same ▸ named)⟩))
    · next asked =>
        exact voids past (.inr (.inr ⟨body, rfl, .inl (not_not.mp asked)⟩))
  intro later seizes
  refine conducts_look rfl ⟨rfl, rfl⟩ fun slots first toFirst _ => ?_
  split
  · exact trivial
  · refine conducts_look rfl ⟨rfl, rfl⟩ fun deletedAt second toSecond _ => ?_
    have onward := (toFirst.trans toSecond).known
    refine conducts_ask rfl (seizes.kept onward) fun _ third toThird _ => ?_
    refine conducts_ask rfl
      ⟨rfl, seizes.kept (onward.trans toThird.known)⟩ ?_
    exact fun _ _ _ _ => trivial

theorem amount_of_valid {body : BreedingPointDto} (valid : body.valid = true) :
    1 ≤ body.amount :=
  (of_decide_eq_true valid).2.1

theorem conducts_eventServiceLogCreate {request : Request}
    {data : EventServiceLogCreate} {β : Type} {rest : Unit → Handler β}
    (grounds : LogGrounds app request past data)
    (continued : ∀ later, past <+: later →
      Knows later (.eventServiceLogCreate data) (.ok ()) →
      Conducts app admitted request later (rest ())) :
    Conducts app admitted request past
      (Prisma.eventServiceLogCreate data >>= rest) := by
  rw [Prisma.eventServiceLogCreate, Prog.bind_assoc]
  refine conducts_ask rfl grounds fun answer later onward stored => ?_
  cases answer with
  | ok row => exact continued later onward.known stored
  | error error => exact trivial

theorem conducts_addBreedingPoint {body : BreedingPointDto}
    (positive : 1 ≤ body.amount) :
    Conducts app admitted (.addBreedingPoint body) past
      (AdminController.addBreedingPoint app body) := by
  refine conducts_validateTransaction fun first _ network unhandled => ?_
  refine conducts_look rfl ⟨rfl, rfl⟩ fun found second onward knows => ?_
  cases found with
  | none => exact trivial
  | some user =>
      have new : NewTransaction app second body.toAdminDtoBase .DEPOSIT_BP :=
        ⟨network, unhandled.kept onward.known, user, knows⟩
      refine conducts_tryCatch ?_ fun _ => Prog.uses_pure _
      refine conducts_eventServiceLogCreate app
        (.inl ⟨body, .DEPOSIT_BP, user, .inl ⟨rfl, rfl⟩, positive, new, knows,
          rfl⟩) fun third toThird logged => ?_
      rw [Prisma.userUpdate, Prog.bind_assoc]
      refine conducts_ask rfl ⟨user, knows.kept toThird,
        .inr (.inl ⟨body, rfl, rfl, new.kept toThird, logged, rfl⟩)⟩ ?_
      intro answer fourth _ _
      exact conducts_pass (uses_settle _) fun _ _ _ => trivial

theorem conducts_withdrawBreedingPoint {body : BreedingPointDto}
    (positive : 1 ≤ body.amount) :
    Conducts app admitted (.withdrawBreedingPoint body) past
      (AdminController.withdrawBreedingPoint app body) := by
  refine conducts_validateTransaction fun first _ network unhandled => ?_
  refine conducts_look rfl ⟨rfl, rfl⟩ fun found second onward knows => ?_
  cases found with
  | none => exact trivial
  | some user =>
      have new : NewTransaction app second body.toAdminDtoBase .WITHDRAW_BP :=
        ⟨network, unhandled.kept onward.known, user, knows⟩
      refine conducts_tryCatch ?_ fun _ => Prog.uses_pure _
      rw [Prisma.userUpdate, Prog.bind_assoc]
      refine conducts_ask rfl
        ⟨user, knows, .inr (.inr ⟨body, rfl, rfl, positive, new, rfl⟩)⟩ ?_
      intro answer third toThird _
      refine conducts_pass (uses_settle _) fun _ fourth toFourth => ?_
      have further := toThird.known.trans toFourth
      exact conducts_eventServiceLogCreate app
        (.inl ⟨body, .WITHDRAW_BP, user, .inr ⟨rfl, rfl⟩, positive,
          new.kept further, knows.kept further, rfl⟩) fun _ _ _ => trivial

theorem conducts_burnGen0Buds (undrawn : firstDraw past = none)
    (body : BurnGen0Buds) :
    Conducts app admitted (.burnGen0Buds body) past
      (AdminController.burnGen0Buds app body) := by
  refine conducts_validateTransaction fun first toFirst network unhandled => ?_
  refine conducts_look rfl ⟨rfl, rfl⟩ fun found second toSecond knows => ?_
  cases found with
  | none => exact trivial
  | some user =>
      have new : NewTransaction app second body.toAdminDtoBase .BURN_GEN0 :=
        ⟨network, unhandled.kept toSecond.known, user, knows⟩
      refine conducts_verifyBudPairs fun _ third toThird owns matched => ?_
      refine conducts_look rfl ⟨rfl, rfl⟩ ?_
      intro conflicts fourth toFourth counted
      refine conducts_throwIf_bind fun free => ?_
      obtain rfl : conflicts = (0 : Nat) := Nat.eq_zero_of_not_pos free
      have burns : Burns app fourth body :=
        ⟨new.kept (toThird.trans toFourth).known, owns.kept toFourth.known,
          (matched rfl).kept toFourth.known, counted⟩
      have undrawn : firstDraw fourth = none :=
        (toFirst.trans (toSecond.trans (toThird.trans toFourth))).undrawn undrawn
      refine conducts_diceGen1Bud undrawn ?_ ?_
      · intro fifth toFifth
        exact conducts_eventServiceLogCreate app
          (.inr ⟨body, none, rfl, burns.kept toFifth, rfl⟩)
          fun _ _ _ => trivial
      · intro bud fifth toFifth won awarded
        refine conducts_issueGen1BudMint (.inr ⟨body, rfl, burns.kept toFifth,
          won, awarded, rfl, rfl⟩) fun row sixth toSixth => ?_
        exact conducts_eventServiceLogCreate app (.inr ⟨body, some row.id, rfl,
          burns.kept (toFifth.trans toSixth), rfl⟩) fun _ _ _ => trivial

end Admin

/-- Every request, as the middlewares let it through. -/
theorem conducts_handle (request : Request) (undrawn : firstDraw past = none) :
    Conducts app admitted request past (handle app request) := by
  cases request with
  | login body =>
      exact conducts_validated fun _ => conducts_map.mpr (conducts_login app body)
  | convertBp2High req body =>
      exact conducts_validated fun _ =>
        conducts_map.mpr (conducts_convertBp2High app req body)
  | openSlot req body => exact conducts_map.mpr (conducts_openSlot app req body)
  | convertIndoor req body =>
      exact conducts_map.mpr (conducts_convertIndoor app req body)
  | purchaseLand req => exact conducts_map.mpr (conducts_purchaseLand app req)
  | invalidatePair req body =>
      exact conducts_map.mpr (conducts_invalidatePair app req body)
  | createPair req body =>
      exact conducts_validated fun _ =>
        conducts_map.mpr (conducts_createPair app req body)
  | levelBreedingUp req body =>
      exact conducts_map.mpr (conducts_levelBreedingUp app req body)
  | cancelBreeding req body =>
      exact conducts_map.mpr (conducts_cancelBreeding app req body)
  | finalizeBreeding req body =>
      exact conducts_map.mpr (conducts_finalizeBreeding app undrawn req body)
  | renameGen1Buds req body =>
      exact conducts_validated fun _ =>
        conducts_map.mpr (conducts_renameGen1Buds app req body)
  | invalidateBreedingPairByBudId body =>
      exact conducts_validated fun _ =>
        conducts_map.mpr (conducts_invalidateBreedingPairByBudId app body)
  | invalidSlotsForGameKey body =>
      exact conducts_validated fun _ =>
        conducts_map.mpr (conducts_invalidSlotsForGameKey app body)
  | addBreedingPoint body =>
      exact conducts_validated fun valid =>
        conducts_map.mpr (conducts_addBreedingPoint app (amount_of_valid valid))
  | withdrawBreedingPoint body =>
      exact conducts_validated fun valid =>
        conducts_map.mpr (conducts_withdrawBreedingPoint app (amount_of_valid valid))
  | burnGen0Buds body =>
      exact conducts_validated fun _ =>
        conducts_map.mpr (conducts_burnGen0Buds app undrawn body)

end Handlers

end BudBreeding.Mediation
