import BudBreeding.Concurrency.Rules

namespace BudBreeding.Concurrency

open Data Program Backend

/-! Every request keeps to the terms, whatever the others do meanwhile. -/

section Handlers

variable {admitted : Oracle → Prop} (app : App) (db : Db)

section Users

theorem guarded_login (body : LoginDto) :
    (discipline app).Guarded (surroundings admitted) ended
      ⟨some body.address, .idle⟩ db (UserController.login app body) := by
  refine guarded_pass (looks_isValidMessage _ _) (fun _ _ => rfl) ?_
  intro isValid first _
  refine Discipline.guarded_throwIf_bind (fun _ => rfl) fun _ => ?_
  refine Discipline.guarded_throwIf_bind (fun _ => rfl) fun _ => ?_
  refine guarded_pass (looks_verifyMessage _ _) (fun _ _ => rfl) ?_
  intro derivedAddress second _
  split
  · rw [Discipline.guarded_bind, Discipline.guarded_tryCatch]
    apply guarded_tail
    refine guarded_addSlots rfl (fun _ _ => rfl) fun third _ => ?_
    refine guarded_write (fun _ _ _ => rfl) (fun _ => rfl)
      (fun _ => uses_settle _) (fun _ _ => rfl) ?_
    exact fun _ _ _ => rfl
  · exact rfl

theorem guarded_convertBp2High (req : Req) (body : ConvertBPDto) :
    (discipline app).Guarded (surroundings admitted) ended
      ⟨some req.user, .idle⟩ db (UserController.convertBp2High req body) := by
  refine guarded_look ⟨rfl, rfl⟩ fun first _ _ oracle _ => ?_
  split
  · exact rfl
  · refine Discipline.guarded_throwIf_bind (fun _ => rfl) fun _ => ?_
    refine guarded_look ⟨rfl, rfl⟩ fun second _ _ clock _ => ?_
    refine guarded_ask (fun _ _ _ => .inr ⟨rfl, by simp, rfl⟩)
      (fun _ => rfl) ?_
    exact fun _ _ _ => rfl

end Users

section Slots

/-- Paying for an update of one's own slot. -/
theorem guarded_charged_slot {user : Address} {slotId amount : Int}
    {refuses : BreedSlot → Prop} [DecidablePred refuses] {error : Failure}
    {data : BreedSlotUpdate} (forward : Forward data) :
    (discipline app).Guarded (surroundings admitted) ended
      ⟨some user, .idle⟩ db (do
        let slot ← Prisma.breedSlotFindFirst (LandController.userSlot user slotId)
        match slot with
        | none => .throw (NotFoundError "Slot not found")
        | some slot => do
            Prog.throwIf (refuses slot) error
            let _ ← UserService.consumeBreedingPoint user amount
            Prisma.breedSlotUpdate slotId data) := by
  refine guarded_look ⟨rfl, rfl⟩ fun first _ _ oracle _ => ?_
  simp only [exec]
  cases found : oracle.findFirst first.breedSlot.rows
      (LandController.userSlot user slotId) with
  | none => exact rfl
  | some slot =>
      obtain ⟨listed, mine⟩ := Oracle.findFirst_eq_some found
      obtain ⟨same, owner, -⟩ := decide_eq_true_iff.mp mine
      have held : HoldsSlot first (some user) slotId :=
        ⟨slot, listed, same, by rw [owner]⟩
      refine Discipline.guarded_throwIf_bind (fun _ => rfl) fun _ => ?_
      refine guarded_consumeBreedingPoint rfl (fun _ _ => rfl) ?_
      intro _ second paid
      apply guarded_tail
      refine guarded_write
        (fun third later _ => ⟨forward, (paid.trans later).holdsSlot held⟩)
        (fun _ => rfl) uses_settle (fun _ _ => rfl) ?_
      exact fun _ _ _ => rfl

theorem guarded_openSlot (req : Req) (body : OpenSlotDto) :
    (discipline app).Guarded (surroundings admitted) ended
      ⟨some req.user, .idle⟩ db (LandController.openSlot app req body) :=
  guarded_charged_slot app db rfl

theorem guarded_convertIndoor (req : Req) (body : OpenSlotDto) :
    (discipline app).Guarded (surroundings admitted) ended
      ⟨some req.user, .idle⟩ db (LandController.convertIndoor app req body) :=
  guarded_charged_slot app db rfl

theorem guarded_purchaseLand (req : Req) :
    (discipline app).Guarded (surroundings admitted) ended
      ⟨some req.user, .idle⟩ db (LandController.purchaseLand app req) := by
  refine guarded_look ⟨rfl, rfl⟩ fun first _ _ clock _ => ?_
  refine guarded_consumeBreedingPoint rfl (fun _ _ => rfl) ?_
  intro _ second _
  refine guarded_addSlots rfl (fun _ _ => rfl) fun third _ => ?_
  refine guarded_look ⟨rfl, rfl⟩ fun fourth _ _ order _ => ?_
  refine guarded_look ⟨rfl, rfl⟩ fun fifth _ _ _ _ => ?_
  split <;> exact rfl

end Slots

section Pairs

theorem guarded_invalidatePair (req : Req) (body : InvalidBreedPairDto) :
    (discipline app).Guarded (surroundings admitted) ended ⟨none, .idle⟩ db
      (BreedController.invalidatePair req body) := by
  refine guarded_pass (looks_verifyBudPairs _ _ _ _) (fun _ _ => rfl) ?_
  intro _ first _
  refine guarded_look ⟨rfl, rfl⟩ fun second _ _ _ _ => ?_
  split
  · exact rfl
  · refine guarded_ask
      (fun _ _ _ => ⟨⟨.FAILED, by simp, rfl⟩, fun _ _ _ => .inr rfl⟩)
      (fun _ => rfl) fun _ third _ => ?_
    refine guarded_ask (fun _ _ _ => ⟨trivial, fun _ _ _ => .inr rfl⟩)
      (fun _ => rfl) ?_
    exact fun _ _ _ => rfl

theorem guarded_upgradeSlot {stage : Stage} {since : Db} {β : Type}
    {finish : Stage → Db → Except Failure β → Prop}
    {body : CreateBreedPairDto} {slot : BreedSlot}
    {rest : BreedSlot → Handler β} (idle : stage.work = .idle)
    (held : HoldsSlot since stage.subject slot.id)
    (refused : ∀ db error, finish stage db (.error error))
    (continued : ∀ row db, Evolves since db →
      (discipline app).Guarded (surroundings admitted) finish stage db
        (rest row)) :
    (discipline app).Guarded (surroundings admitted) finish stage since
      (BreedController.upgradeSlot body slot >>= rest) := by
  unfold BreedController.upgradeSlot
  split
  · refine guarded_write (fun first later _ => ⟨rfl, later.holdsSlot held⟩) ?_
      uses_settle refused continued
    intro answer
    rw [idle]
    rfl
  · exact continued slot since (.refl since)

theorem looks_checkGameItem (user : Address) (gameItemId : Option Int) :
    (BreedController.checkGameItem user gameItemId).Uses Looks :=
  uses_looks (uses_checkGameItem _ _) (by simp)

theorem guarded_createPair (req : Req) (body : CreateBreedPairDto) :
    (discipline app).Guarded (surroundings admitted) ended
      ⟨some req.user, .idle⟩ db (BreedController.createPair app req body) := by
  refine guarded_pass (looks_verifyBudPairs _ _ _ _) (fun _ _ => rfl) ?_
  intro metadatas first _
  refine guarded_pass (looks_checkGameItem _ _) (fun _ _ => rfl) ?_
  intro _ second _
  refine guarded_look ⟨rfl, rfl⟩ fun third _ _ _ _ => ?_
  refine Discipline.guarded_throwIf_bind (fun _ => rfl) fun _ => ?_
  refine guarded_look ⟨rfl, rfl⟩ fun fourth _ _ oracle _ => ?_
  simp only [exec]
  cases found : oracle.findFirst fourth.breedSlot.rows
      (LandService.openBreedSlotById req.user body.slotId) with
  | none => exact rfl
  | some slot =>
      obtain ⟨listed, free⟩ := Oracle.findFirst_eq_some found
      obtain ⟨owner, -, -, same, -⟩ := decide_eq_true_iff.mp free
      have held : HoldsSlot fourth (some req.user) body.slotId :=
        ⟨slot, listed, same, by rw [owner]⟩
      refine Discipline.guarded_throwIf_bind (fun _ => rfl) fun _ => ?_
      refine guarded_upgradeSlot app rfl (same.symm ▸ held) (fun _ _ => rfl) ?_
      intro upgraded fifth toFifth
      refine guarded_pass
        (uses_looks (uses_getStartSuccessRate _ _ _ _ _) (by simp))
        (fun _ _ => rfl) fun rate sixth toSixth => ?_
      have stillHeld := (toFifth.trans toSixth).holdsSlot held
      rw [Prisma.breedPairCreate, Prog.bind_assoc]
      refine guarded_step
        (fun seventh later _ => ⟨rfl, later.holdsSlot stillHeld⟩)
        (fun _ => rfl) fun seventh clock later created => ?_
      simp only [exec]
      cases seventh.user.find req.user with
      | none => exact rfl
      | some user =>
          refine guarded_write (fun eighth further _ => ⟨trivial, ?_⟩)
            (fun _ => rfl) uses_settle (fun _ _ => rfl) ?_
          · -- The slot was held before the pair was stored, and slots stay.
            obtain ⟨row, present, id, mine⟩ := later.holdsSlot stillHeld
            exact further.holdsSlot ⟨row, present, id, mine⟩
          · intro _ eighth further
            have seen : ∃ row ∈ eighth.breedPair.rows, PairLater
                (BreedPairCreate.row ⟨req.user, req.gameKeyId, body.maleBudId,
                  body.femaleBudId, rate, .PAIRED, body.slotId,
                  body.gameItemId⟩ clock.now seventh.breedPair.nextId) row :=
              further.breedPair _
                (List.mem_append_right _ List.mem_cons_self)
            refine guarded_startBreedLevel rfl rfl seen le_rfl
              app.config.targetLevel_pos.le (.inl rfl) (fun _ _ => rfl) ?_
            exact fun _ => rfl

theorem guarded_levelBreedingUp (req : Req) (body : BreedUpDto) :
    (discipline app).Guarded (surroundings admitted) ended
      ⟨some req.user, .idle⟩ db
      (BreedController.levelBreedingUp app req body) := by
  refine guarded_look ⟨rfl, rfl⟩ fun first _ lodged oracle _ => ?_
  simp only [exec]
  cases found : oracle.findFirst first.breedPair.rows
      (BreedController.ownPair req.user body.pairId) with
  | none => exact rfl
  | some pair =>
      obtain ⟨listed, mine⟩ := Oracle.findFirst_eq_some found
      obtain ⟨-, owner, -⟩ := decide_eq_true_iff.mp mine
      refine Discipline.guarded_throwIf_bind (fun _ => rfl) fun within => ?_
      refine guarded_pass (looks_verifyGameItemPossession _) (fun _ _ => rfl) ?_
      intro _ second toSecond
      refine guarded_pass (looks_verifyBudPairs _ _ _ _) (fun _ _ => rfl) ?_
      intro _ third toThird
      refine guarded_consumeBreedingPoint rfl (fun _ _ => rfl) ?_
      intro _ fourth toFourth
      have toPaid := toSecond.trans (toThird.trans toFourth)
      refine guarded_evaluateBreedLevel (by rw [owner])
        (toPaid.breedPair pair listed) (fun _ _ => rfl) ?_
      intro evaluation fifth toFifth recorded
      refine guarded_startBreedLevel rfl (by rw [owner])
        ((toPaid.trans toFifth).breedPair pair listed)
        (lodged.counters pair listed) (not_lt.mp within) (.inr recorded)
        (fun _ _ => rfl) ?_
      exact fun _ => rfl

/-- The slot of a pair that was read stays a slot of its owner. -/
theorem holdsSlot_of_pair {earlier later : Db} {pair : BreedPair}
    (listed : pair ∈ earlier.breedPair.rows) (evolved : Evolves earlier later)
    (lodged : Lodged later) :
    HoldsSlot later (some pair.userAddress) pair.slotId := by
  obtain ⟨row, present, kept⟩ := evolved.breedPair pair listed
  have held := lodged.slots row present
  rw [kept.userAddress, kept.slotId] at held
  exact held

theorem guarded_cancelBreeding (req : Req) (body : BreedCancelDto) :
    (discipline app).Guarded (surroundings admitted) ended
      ⟨some req.user, .idle⟩ db (BreedController.cancelBreeding req body) := by
  refine guarded_look ⟨rfl, rfl⟩ fun first _ _ oracle _ => ?_
  simp only [exec]
  cases found : oracle.findFirst first.breedPair.rows
      (BreedController.ownPair req.user body.pairId) with
  | none => exact rfl
  | some pair =>
      obtain ⟨listed, mine⟩ := Oracle.findFirst_eq_some found
      obtain ⟨-, owner, -⟩ := decide_eq_true_iff.mp mine
      have held : HoldsPair first (some req.user) pair.id :=
        ⟨pair, listed, rfl, by rw [owner]⟩
      refine guarded_write
        (fun second later _ => ⟨by simp, later.holdsPair held⟩)
        (fun _ => rfl) uses_settle (fun _ _ => rfl) ?_
      intro _ second toSecond
      refine guarded_write (fun third later lodged => ⟨trivial, ?_⟩)
        (fun _ => rfl) uses_settle (fun _ _ => rfl) ?_
      · rw [← owner]
        exact holdsSlot_of_pair listed (toSecond.trans later) lodged
      · exact fun _ _ _ => rfl

theorem guarded_openNextSlot {user : Address}
    {rest : Option BreedSlot → Handler (Option BreedController.Gen1Reward)}
    (continued : ∀ row after, (discipline app).Guarded (surroundings admitted)
      ended ⟨some user, .idle⟩ after (rest row)) :
    (discipline app).Guarded (surroundings admitted) ended
      ⟨some user, .idle⟩ db (BreedController.openNextSlot user >>= rest) := by
  rw [BreedController.openNextSlot, Prog.bind_assoc]
  refine guarded_look ⟨rfl, rfl⟩ fun first _ _ oracle _ => ?_
  simp only [exec]
  cases found : oracle.findFirst first.breedSlot.rows
      (BreedController.closedSlot user) with
  | none => exact continued none first
  | some slot =>
      obtain ⟨listed, closed⟩ := Oracle.findFirst_eq_some found
      obtain ⟨owner, -, -⟩ := decide_eq_true_iff.mp closed
      have held : HoldsSlot first (some user) slot.id :=
        ⟨slot, listed, rfl, by rw [owner]⟩
      rw [Prog.bind_assoc]
      refine guarded_write
        (fun second later _ => ⟨rfl, later.holdsSlot held⟩)
        (fun _ => rfl) uses_settle (fun _ _ => rfl) ?_
      exact fun row after _ => continued _ after

theorem guarded_finalizeBreeding (req : Req) (body : BreedFinalizeDto) :
    (discipline app).Guarded (surroundings admitted) ended
      ⟨some req.user, .idle⟩ db
      (BreedController.finalizeBreeding app req body) := by
  refine guarded_look ⟨rfl, rfl⟩ fun first _ _ oracle _ => ?_
  simp only [exec]
  cases found : oracle.findFirst first.breedPair.rows
      (BreedController.ownPair req.user body.pairId) with
  | none => exact rfl
  | some pair =>
      obtain ⟨listed, mine⟩ := Oracle.findFirst_eq_some found
      obtain ⟨same, owner, -⟩ := decide_eq_true_iff.mp mine
      have held : HoldsPair first (some req.user) body.pairId :=
        ⟨pair, listed, same, by rw [owner]⟩
      refine Discipline.guarded_throwIf_bind (fun _ => rfl) fun _ => ?_
      refine guarded_evaluateBreedLevel (by rw [owner])
        ⟨pair, listed, .refl pair⟩ (fun _ _ => rfl) ?_
      intro evaluation second toSecond _
      refine guarded_pass (looks_finalizeBreeding _) (fun _ _ => rfl) ?_
      intro result third toThird
      refine guarded_write (fun fourth later lodged => ⟨trivial, ?_⟩)
        (fun _ => rfl) uses_settle (fun _ _ => rfl) ?_
      · rw [← owner]
        exact holdsSlot_of_pair listed
          (toSecond.trans (toThird.trans later)) lodged
      intro _ fourth toFourth
      refine guarded_write (fun fifth later _ => ⟨?_, ?_⟩)
        (fun _ => rfl) uses_settle (fun _ _ => rfl) ?_
      · split <;> simp
      · exact (toSecond.trans (toThird.trans (toFourth.trans later))).holdsPair
          held
      intro _ fifth _
      cases result with
      | none => exact rfl
      | some data =>
          refine guarded_openNextSlot app fifth fun slot sixth => ?_
          refine guarded_issueGen1BudMint rfl rfl (fun _ _ => rfl) ?_
          exact fun _ _ => rfl

end Pairs

section Buds

theorem guarded_renameGen1Buds (req : Req) (body : RenameGen1BudDto) :
    (discipline app).Guarded (surroundings admitted) ended
      ⟨some req.user, .idle⟩ db (BudController.renameGen1Buds app req body) := by
  refine guarded_look ⟨rfl, rfl⟩ fun first _ _ oracle _ => ?_
  simp only [exec]
  cases found : oracle.findFirst first.gen1Bud.rows
      (fun bud => bud.id = body.budId ∧ bud.minterAddress = req.user) with
  | none => exact rfl
  | some bud =>
      obtain ⟨listed, mine⟩ := Oracle.findFirst_eq_some found
      obtain ⟨same, owner⟩ := decide_eq_true_iff.mp mine
      have held : HoldsBud first (some req.user) body.budId :=
        ⟨bud, listed, same, by rw [owner]⟩
      refine guarded_look ⟨rfl, rfl⟩ fun second toSecond _ clock _ => ?_
      refine Discipline.guarded_throwIf_bind (fun _ => rfl) fun _ => ?_
      refine guarded_pass (looks_checkBudName _) (fun _ _ => rfl) ?_
      intro isValid third toThird
      split
      · apply guarded_tail
        refine guarded_write
          (fun fourth later _ =>
            (toSecond.trans (toThird.trans later)).holdsBud held)
          (fun _ => rfl) uses_settle (fun _ _ => rfl) ?_
        exact fun _ _ _ => rfl
      · exact rfl

end Buds

section Admin

/-- Failing the pairs that were read, and freeing their slots. -/
theorem guarded_failPairs {user : Address} {pairs : List BreedPair} {since : Db}
    {text : Option String}
    (listed : ∀ pair ∈ pairs, pair ∈ since.breedPair.rows)
    (owned : ∀ pair ∈ pairs, pair.userAddress = user) :
    (discipline app).Guarded (surroundings admitted) ended
      ⟨some user, .idle⟩ since (do
        Prisma.breedPairUpdateMany
          (fun pair => pair.id ∈ pairs.map BreedPair.id) (.status .FAILED)
        Prisma.breedSlotUpdateMany
          (fun slot => slot.id ∈ pairs.map BreedPair.slotId) (.isUsed false)
        return text) := by
  refine guarded_ask ?_ (fun _ => rfl) fun _ first toFirst => ?_
  · intro first later _
    refine ⟨⟨.FAILED, by simp, rfl⟩, ?_⟩
    intro row present selected
    obtain ⟨pair, member, same⟩ :=
      List.mem_map.mp (decide_eq_true_iff.mp selected)
    have kept := later.pair_of_id (listed pair member) present same.symm
    left
    rw [kept.userAddress, owned pair member]
  · refine guarded_ask ?_ (fun _ => rfl) fun _ _ _ => rfl
    intro second later lodged
    refine ⟨trivial, ?_⟩
    intro slot present selected
    obtain ⟨pair, member, same⟩ :=
      List.mem_map.mp (decide_eq_true_iff.mp selected)
    obtain ⟨row, found, id, mine⟩ :=
      holdsSlot_of_pair (listed pair member) (toFirst.trans later) lodged
    left
    rw [second.breedSlot.eq_of_key_eq present found (same.symm.trans id.symm),
      ← owned pair member, mine]

theorem guarded_invalidateBreedingPairByBudId (body : InvalidateBreedingDto) :
    (discipline app).Guarded (surroundings admitted) ended
      ⟨some body.prevOwner, .idle⟩ db
      (AdminController.invalidateBreedingPairByBudId body) := by
  refine guarded_pass (looks_isGen0BudOwner _ _) (fun _ _ => rfl) ?_
  intro _ first _
  refine guarded_breedPairFindMany fun pairs second _ read => ?_
  split
  · exact rfl
  · refine guarded_failPairs app (fun pair member => (read pair member).1) ?_
    intro pair member
    exact (decide_eq_true_iff.mp (read pair member).2).1

theorem guarded_invalidSlotsForGameKey (body : InvalidateSlotsDto) :
    (discipline app).Guarded (surroundings admitted) ended
      ⟨some body.prevOwner, .idle⟩ db
      (AdminController.invalidSlotsForGameKey app body) := by
  unfold AdminController.invalidSlotsForGameKey
  split
  · exact rfl
  split
  · exact rfl
  -- Whether the new owner is checked or not, the slots that are read next decide.
  suffices deleted : ∀ first, (discipline app).Guarded (surroundings admitted)
      ended ⟨some body.prevOwner, .idle⟩ first (do
        let slots ← Prisma.breedSlotFindMany
          (AdminController.keySlot body.prevOwner body.gameKeyId)
        if slots.length = 0 then
          return none
        else do
          let deletedAt ← dateNow
          Prisma.breedSlotUpdateMany
            (fun slot => slot.id ∈ slots.map BreedSlot.id)
            (.deletedAt deletedAt)
          Prisma.breedPairUpdateMany
            (fun pair => pair.slotId ∈ slots.map BreedSlot.id)
            (.status .FAILED)
          return some (invalidated slots.length "slot")) by
    split
    · exact guarded_pass (looks_isGameKeyOwner _ _) (fun _ _ => rfl)
        fun _ first _ => deleted first
    · exact deleted db
  intro first
  refine guarded_breedSlotFindMany fun slots second _ read => ?_
  have owned : ∀ slot ∈ slots, slot.userAddress = body.prevOwner :=
    fun slot member => (decide_eq_true_iff.mp (read slot member).2).1
  split
  · exact rfl
  refine guarded_look ⟨rfl, rfl⟩ fun third toThird _ clock _ => ?_
  refine guarded_ask ?_ (fun _ => rfl) fun _ fourth toFourth => ?_
  · intro fourth later _
    refine ⟨trivial, ?_⟩
    intro row present selected
    obtain ⟨slot, member, same⟩ :=
      List.mem_map.mp (decide_eq_true_iff.mp selected)
    have kept := (toThird.trans later).slot_of_id (read slot member).1 present
      same.symm
    left
    rw [kept.userAddress, owned slot member]
  · refine guarded_ask ?_ (fun _ => rfl) fun _ _ _ => rfl
    intro fifth later lodged
    refine ⟨⟨.FAILED, by simp, rfl⟩, ?_⟩
    intro pair present selected
    obtain ⟨slot, member, same⟩ :=
      List.mem_map.mp (decide_eq_true_iff.mp selected)
    obtain ⟨row, found, id, mine⟩ := lodged.slots pair present
    have kept := (toThird.trans (toFourth.trans later)).slot_of_id
      (read slot member).1 found (id.trans same.symm)
    left
    rw [mine, kept.userAddress, owned slot member]

theorem guarded_addBreedingPoint (body : BreedingPointDto) :
    (discipline app).Guarded (surroundings admitted) ended
      ⟨some body.address, .idle⟩ db
      (AdminController.addBreedingPoint app body) := by
  refine guarded_pass (looks_validateTransaction _ _ _) (fun _ _ => rfl) ?_
  intro _ first _
  refine guarded_look ⟨rfl, rfl⟩ fun second _ _ oracle _ => ?_
  split
  · exact rfl
  · rw [Discipline.guarded_tryCatch]
    refine guarded_write (fun _ _ _ => rfl) (fun _ => rfl) uses_settle
      (fun _ _ => rfl) fun _ third _ => ?_
    refine guarded_write (fun _ _ _ => rfl) (fun _ => rfl) uses_settle
      (fun _ _ => rfl) ?_
    exact fun _ _ _ => rfl

theorem guarded_withdrawBreedingPoint (body : BreedingPointDto) :
    (discipline app).Guarded (surroundings admitted) ended
      ⟨some body.address, .idle⟩ db
      (AdminController.withdrawBreedingPoint app body) := by
  refine guarded_pass (looks_validateTransaction _ _ _) (fun _ _ => rfl) ?_
  intro _ first _
  refine guarded_look ⟨rfl, rfl⟩ fun second _ _ oracle _ => ?_
  split
  · exact rfl
  · rw [Discipline.guarded_tryCatch]
    refine guarded_write (fun _ _ _ => rfl) (fun _ => rfl) uses_settle
      (fun _ _ => rfl) fun _ third _ => ?_
    refine guarded_write (fun _ _ _ => rfl) (fun _ => rfl) uses_settle
      (fun _ _ => rfl) ?_
    exact fun _ _ _ => rfl

theorem guarded_burnGen0Buds (body : BurnGen0Buds) :
    (discipline app).Guarded (surroundings admitted) ended
      ⟨some body.address, .idle⟩ db
      (AdminController.burnGen0Buds app body) := by
  refine guarded_pass (looks_validateTransaction _ _ _) (fun _ _ => rfl) ?_
  intro _ first _
  refine guarded_look ⟨rfl, rfl⟩ fun second _ _ oracle _ => ?_
  split
  · exact rfl
  · refine guarded_pass (looks_verifyBudPairs _ _ _ _) (fun _ _ => rfl) ?_
    intro _ third _
    refine guarded_look ⟨rfl, rfl⟩ fun fourth _ _ _ _ => ?_
    refine Discipline.guarded_throwIf_bind (fun _ => rfl) fun _ => ?_
    refine guarded_pass (uses_looks (uses_diceGen1Bud _ _) (by simp))
      (fun _ _ => rfl) fun result fifth _ => ?_
    simp only
    split
    · refine guarded_issueGen1BudMint rfl rfl (fun _ _ => rfl) ?_
      intro newBud sixth
      refine guarded_write (fun _ _ _ => rfl) (fun _ => rfl) uses_settle
        (fun _ _ => rfl) ?_
      exact fun _ _ _ => rfl
    · refine guarded_write (fun _ _ _ => rfl) (fun _ => rfl) uses_settle
        (fun _ _ => rfl) ?_
      exact fun _ _ _ => rfl

end Admin

/-- Whatever the request, it keeps to the terms and leaves nothing undone. -/
theorem guarded_handle (request : Request) :
    (discipline app).Guarded (surroundings admitted) ended (outset request) db
      (handle app request) := by
  cases request with
  | login body =>
      refine guarded_validated rfl fun _ => ?_
      exact Discipline.guarded_map.mpr (guarded_login app db body)
  | convertBp2High req body =>
      refine guarded_validated rfl fun _ => ?_
      exact Discipline.guarded_map.mpr (guarded_convertBp2High app db req body)
  | openSlot req body =>
      exact Discipline.guarded_map.mpr (guarded_openSlot app db req body)
  | convertIndoor req body =>
      exact Discipline.guarded_map.mpr (guarded_convertIndoor app db req body)
  | purchaseLand req =>
      exact Discipline.guarded_map.mpr (guarded_purchaseLand app db req)
  | invalidatePair req body =>
      exact Discipline.guarded_map.mpr (guarded_invalidatePair app db req body)
  | createPair req body =>
      refine guarded_validated rfl fun _ => ?_
      exact Discipline.guarded_map.mpr (guarded_createPair app db req body)
  | levelBreedingUp req body =>
      exact Discipline.guarded_map.mpr (guarded_levelBreedingUp app db req body)
  | cancelBreeding req body =>
      exact Discipline.guarded_map.mpr (guarded_cancelBreeding app db req body)
  | finalizeBreeding req body =>
      exact Discipline.guarded_map.mpr
        (guarded_finalizeBreeding app db req body)
  | renameGen1Buds req body =>
      refine guarded_validated rfl fun _ => ?_
      exact Discipline.guarded_map.mpr (guarded_renameGen1Buds app db req body)
  | invalidateBreedingPairByBudId body =>
      refine guarded_validated rfl fun _ => ?_
      exact Discipline.guarded_map.mpr
        (guarded_invalidateBreedingPairByBudId app db body)
  | invalidSlotsForGameKey body =>
      refine guarded_validated rfl fun _ => ?_
      exact Discipline.guarded_map.mpr
        (guarded_invalidSlotsForGameKey app db body)
  | addBreedingPoint body =>
      refine guarded_validated rfl fun _ => ?_
      exact Discipline.guarded_map.mpr (guarded_addBreedingPoint app db body)
  | withdrawBreedingPoint body =>
      refine guarded_validated rfl fun _ => ?_
      exact Discipline.guarded_map.mpr
        (guarded_withdrawBreedingPoint app db body)
  | burnGen0Buds body =>
      refine guarded_validated rfl fun _ => ?_
      exact Discipline.guarded_map.mpr (guarded_burnGen0Buds app db body)

end Handlers

end BudBreeding.Concurrency
