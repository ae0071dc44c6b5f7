import BudBreeding.Lifecycle.Failures

namespace BudBreeding.Lifecycle

open Data Program Backend

/-! What a failed finalization leaves behind, and when it can be tried again. -/

section Evaluating

variable {app : App} {admitted : Oracle → Prop} {db : Db} {pair : BreedPair}
  {maleBudId femaleBudId : Int} {level : BreedLevel} {buds others : List BreedBud}
  {β : Type}

/-- The order in which the database lists the chosen buds does not matter. -/
theorem evaluateLevel_perm (same : buds.Perm others) :
    db.evaluateLevel app level buds maleBudId femaleBudId =
      db.evaluateLevel app level others maleBudId femaleBudId := by
  have rated := (same.map fun bud =>
    HashTableService.lookUpBreedRate app bud.thc bud.budSize).sum_eq
  have bonus : (BreedService.evaluationOf app buds).bonusRate =
      (BreedService.evaluationOf app others).bonusRate := rated
  rw [Db.evaluateLevel, bonus, Db.evaluateLevel]

theorem may_evaluateBreedLevel {rest : BreedService.Evaluation → Handler β}
    {post : Except Failure β → Db → Prop} (unique : LevelsUnique db)
    (evaluable : Evaluable app admitted db pair maleBudId femaleBudId level buds)
    (continued : ∀ evaluation, (surroundings admitted).May (rest evaluation) post
      (db.evaluateLevel app level buds maleBudId femaleBudId)) :
    (surroundings admitted).May
      (BreedService.evaluateBreedLevel app pair maleBudId femaleBudId >>= rest) post
      db := by
  obtain ⟨clock, ticking, elapsed⟩ := evaluable.elapsed
  have every : (surroundings (Eq clock)).Ensures
      (BreedService.evaluateBreedLevel app pair maleBudId femaleBudId)
      (fun result after => ∃ evaluation, result = .ok evaluation ∧
        after = db.evaluateLevel app level buds maleBudId femaleBudId) db := by
    refine World.ensures_tail.mp (ensures_evaluateBreedLevel ?_ ?_ ?_)
    · intro missing
      have unmatched := missing level evaluable.listed
      rw [evaluable.current] at unmatched
      cases unmatched
    · intro other present its reason
      obtain rfl := unique.current_eq evaluable.listed present evaluable.current its
      exfalso
      rcases reason with changed | ⟨oracle, same, early⟩ | ⟨found, chosen, mismatch⟩
      · exact changed evaluable.unevaluated
      · rw [← same, elapsed] at early
        cases early
      · rw [checkBudPairGenders_perm (chosen.trans evaluable.chosen.symm),
          evaluable.gendered] at mismatch
        cases mismatch
    · intro other found ready
      obtain rfl := unique.current_eq evaluable.listed ready.listed evaluable.current
        ready.current
      refine World.ensures_pure.mpr ?_
      exact ⟨_, rfl, evaluateLevel_perm (ready.chosen.trans evaluable.chosen.symm)⟩
  refine may_bind_of_ensures ticking every ?_
  intro evaluation after reached
  rw [reached]
  exact continued evaluation

/-- A reward that nobody signs stays in the database when the request fails. -/
theorem may_issueGen1BudMint {minter : Address} {bud : Bud} {pairId : Option Int}
    {clock signer : Oracle} {rest : Gen1Bud → Handler β}
    {post : Except Failure β → Db → Prop} (ticking : admitted clock)
    (allowed : admitted signer)
    (unsigned : signer.signature ⟨minter, .Gen1Bud, db.gen1Bud.nextId, 1, clock.now⟩ =
      none)
    (failed : ∀ error,
      post (.error error) (db.createGen1Bud ⟨bud, pairId, minter, ""⟩ clock.now)) :
    (surroundings admitted).May
      (BudService.issueGen1BudMint minter bud pairId >>= rest) post db := by
  have created : (surroundings (Eq clock)).Ensures
      (Prisma.gen1BudCreate ⟨bud, pairId, minter, ""⟩)
      (fun result after => ∃ row, result = .ok row ∧
        (row.id = db.gen1Bud.nextId ∧ row.createdAt = clock.now) ∧
        after = db.createGen1Bud ⟨bud, pairId, minter, ""⟩ clock.now) db := by
    refine World.ensures_tail.mp (ensures_gen1BudCreate ?_)
    intro oracle same
    rw [← same]
    exact World.ensures_pure.mpr ⟨_, rfl, ⟨rfl, rfl⟩, rfl⟩
  apply World.May.bind
  refine may_bind_of_ensures ticking created ?_
  intro row after reached
  obtain ⟨⟨numbered, dated⟩, rfl⟩ := reached
  refine returns_may_bind allowed (returns_ask (.signMessage _) rfl) ?_
  intro signature signing
  obtain ⟨oracle, same, answered⟩ := signing
  have refused : signature = none := by
    rw [answered, ← same]
    simp only [exec]
    rw [numbered, dated, unsigned]
  rw [refused]
  exact ⟨_, _, .ask signer allowed .throw, failed _⟩

theorem ensures_signedMint {minter : Address} {bud : Bud} {pairId : Option Int}
    {rest : Gen1Bud → Handler β} {post : Except Failure β → Db → Prop}
    (signable : ∀ clock signer, admitted clock → admitted signer →
      signer.signature ⟨minter, .Gen1Bud, db.gen1Bud.nextId, 1, clock.now⟩ ≠ none)
    (issued : ∀ row after, (surroundings admitted).Ensures (rest row) post after) :
    (surroundings admitted).Ensures
      (BudService.issueGen1BudMint minter bud pairId >>= rest) post db := by
  refine ensures_issueGen1BudMint ?_ ?_
  · intro clock signer ticking signing refused
    exact absurd refused (signable clock signer ticking signing)
  · intro now signature row _
    exact issued row _

end Evaluating

section Finalize

variable {app : App} {admitted : Oracle → Prop} {db : Db} {req : Req}
  {body : BreedFinalizeDto}

/-- The pairs and their levels, the slots and the Gen1 buds are what they were. -/
structure Untouched (db after : Db) : Prop where
  breedPair : after.breedPair = db.breedPair
  breedLevel : after.breedLevel = db.breedLevel
  breedSlot : after.breedSlot = db.breedSlot
  gen1Bud : after.gen1Bud = db.gen1Bud

theorem Untouched.refl (db : Db) : Untouched db db :=
  ⟨rfl, rfl, rfl, rfl⟩

def Retryable (app : App) (admitted : Oracle → Prop) (db : Db) (request : Request) :
    Prop :=
  ∀ response after, Handles app admitted db ⟨request, response⟩ after →
    ∀ error, response = .error error → Untouched db after

/-- The dice of the pair can be won and its reward not be signed. -/
structure Unsigned (app : App) (admitted : Oracle → Prop) (db : Db) (req : Req)
    (body : BreedFinalizeDto) (pair : BreedPair) (level : BreedLevel)
    (buds : List BreedBud) : Prop where
  won : ∃ thrower, admitted thrower ∧
    wins (finalRate (db.evaluateLevel app level buds body.maleBudId body.femaleBudId)
      pair) thrower.random = true
  unsigned : ∃ clock signer, admitted clock ∧ admitted signer ∧
    signer.signature ⟨req.user, .Gen1Bud, db.gen1Bud.nextId, 1, clock.now⟩ = none

theorem find_slot_ne_none {pair : BreedPair} (housed : Housed db)
    (listed : pair ∈ db.breedPair.rows) (paired : pair.status = .PAIRED) :
    db.breedSlot.find pair.slotId ≠ none := by
  intro missing
  obtain ⟨slot, stored, same⟩ := housed pair listed paired
  exact absurd same (Table.find_eq_none.mp missing slot stored)

theorem may_finalize {pair : BreedPair} {level : BreedLevel} {buds : List BreedBud}
    (housed : Housed db) (unique : LevelsUnique db)
    (granted : FinalizeGranted app admitted db req body pair level buds)
    (unsigned : Unsigned app admitted db req body pair level buds) :
    (surroundings admitted).May (handle app (.finalizeBreeding req body))
      (fun response after => (∃ error, response = .error error) ∧
        after.gen1Bud ≠ db.gen1Bud) db := by
  obtain ⟨listed, own, reached, evaluable⟩ := granted
  obtain ⟨identified, owner, paired⟩ := of_decide_eq_true own
  obtain ⟨⟨thrower, throwing, won⟩, clock, signer, ticking, signing, refused⟩ := unsigned
  rw [handle]
  apply World.May.map
  rw [BreedController.finalizeBreeding, ← identified]
  refine returns_may_bind ticking (returns_ownPair listed paired owner.symm) ?_
  intro found same
  rw [same]
  refine returns_may_bind ticking (World.returns_throwIf (not_lt.mpr reached)) ?_
  intro _ _
  refine may_evaluateBreedLevel unique evaluable ?_
  intro evaluation
  refine may_finalizeBreeding throwing won ?_
  intro reward
  -- the writes up to the mint leave the Gen1 buds alone
  let evaluated := db.evaluateLevel app level buds body.maleBudId body.femaleBudId
  let freed := evaluated.updateBreedSlot (fun slot => slot.id = pair.slotId)
    (.isUsed false)
  have freeing : (surroundings (Eq clock)).Ensures
      (Prisma.breedSlotUpdate pair.slotId (.isUsed false))
      (fun result after => ∃ slot, result = .ok slot ∧ after = freed) evaluated := by
    refine World.ensures_tail.mp (ensures_breedSlotUpdate ?_ ?_)
    · intro missing
      exact absurd missing (find_slot_ne_none housed listed paired)
    · intro slot _
      exact World.ensures_pure.mpr ⟨_, rfl, rfl⟩
  refine may_bind_of_ensures ticking freeing ?_
  intro _ after released
  rw [released]
  have closing : (surroundings (Eq clock)).Ensures
      (Prisma.breedPairUpdate pair.id (.status .COMPLETED))
      (fun result after => ∃ pair, result = .ok pair ∧ after.gen1Bud = db.gen1Bud)
      freed := by
    refine World.ensures_tail.mp (ensures_breedPairUpdate ?_ ?_)
    · intro missing
      exact absurd rfl (Table.find_eq_none.mp missing pair listed)
    · intro row _
      exact World.ensures_pure.mpr ⟨_, rfl, rfl⟩
  refine may_bind_of_ensures ticking closing ?_
  intro _ completed kept
  have opening : (surroundings (Eq clock)).Ensures
      (BreedController.openNextSlot req.user)
      (fun result after => ∃ slot, result = .ok slot ∧ after.gen1Bud = db.gen1Bud)
      completed := by
    refine World.ensures_tail.mp (ensures_openNextSlot ?_ ?_)
    · intro _
      exact World.ensures_pure.mpr ⟨_, rfl, kept⟩
    · intro slot _ _ row
      exact World.ensures_pure.mpr ⟨_, rfl, kept⟩
  refine may_bind_of_ensures ticking opening ?_
  intro slot opened same
  rw [← same] at refused
  refine may_issueGen1BudMint ticking signing refused ?_
  intro error
  refine ⟨⟨error, rfl⟩, ?_⟩
  rw [← same]
  intro restored
  have counted := congrArg Serial.nextId restored
  exact absurd counted (by simp [Db.createGen1Bud, Serial.create])

/-- With every reward signed, what fails has failed before the first write. -/
theorem ensures_untouched (housed : Housed db)
    (signed : ∀ pair level buds,
      FinalizeGranted app admitted db req body pair level buds →
        ¬ Unsigned app admitted db req body pair level buds) :
    (surroundings admitted).Ensures (handle app (.finalizeBreeding req body))
      (fun response after => ∀ error, response = .error error → Untouched db after)
      db := by
  rw [handle, World.ensures_map]
  refine (returns_breedPairFindFirst _).ensures_bind ?_
  intro found listing
  obtain ⟨oracle, -, rfl⟩ := listing
  cases found : oracle.findFirst db.breedPair.rows
      (BreedController.ownPair req.user body.pairId) with
  | none => exact World.ensures_throw.mpr fun _ _ => .refl db
  | some pair =>
      obtain ⟨listed, own⟩ := Oracle.findFirst_eq_some found
      obtain ⟨identified, owner, paired⟩ := of_decide_eq_true own
      refine World.reads_throwIf.ensures_bind (fun _ _ _ => .refl db) ?_
      intro _ reached
      refine ensures_evaluateBreedLevel (fun _ _ _ _ => .refl db)
        (fun _ _ _ _ _ _ _ => .refl db) ?_
      intro level buds evaluable
      have settled := signed pair level buds ⟨listed, own, not_lt.mp reached, evaluable⟩
      rw [World.ensures_bind]
      refine World.Ensures.mono returns_finalizeBreeding ?_
      intro result final returned
      obtain ⟨rfl, dice, rfl, throw⟩ := returned
      refine ensures_breedSlotUpdate ?_ ?_
      · intro missing
        exact absurd missing (find_slot_ne_none housed listed paired)
      intro slot _
      refine ensures_breedPairUpdate ?_ ?_
      · intro missing
        exact absurd identified (Table.find_eq_none.mp missing pair listed)
      intro row _
      cases dice with
      | none =>
          refine World.ensures_pure.mpr ?_
          intro error impossible
          cases impossible
      | some data =>
          have signable : ∀ clock signer, admitted clock → admitted signer →
              signer.signature ⟨req.user, .Gen1Bud, db.gen1Bud.nextId, 1, clock.now⟩ ≠
                none := by
            intro clock signer ticking signing refused
            exact settled ⟨throw rfl, clock, signer, ticking, signing, refused⟩
          refine ensures_openNextSlot ?_ ?_
          · intro _
            refine ensures_signedMint signable ?_
            intro row after
            refine World.ensures_pure.mpr ?_
            intro error impossible
            cases impossible
          · intro slot _ _ opened
            refine ensures_signedMint signable ?_
            intro row after
            refine World.ensures_pure.mpr ?_
            intro error impossible
            cases impossible

/-- A failed `finalizeBreeding` can be repeated just when no run of the request can win
the dice of the pair and then miss the signature of its reward. -/
theorem finalize_retryable_iff (housed : Housed db) (unique : LevelsUnique db) :
    Retryable app admitted db (.finalizeBreeding req body) ↔
      ∀ pair level buds, FinalizeGranted app admitted db req body pair level buds →
        ¬ Unsigned app admitted db req body pair level buds := by
  constructor
  · intro retryable pair level buds granted unsigned
    obtain ⟨response, after, runs, ⟨error, failed⟩, changed⟩ :=
      may_finalize housed unique granted unsigned
    exact changed (retryable response after runs error failed).gen1Bud
  · intro signed response after handled error failed
    exact ensures_untouched housed signed response after handled error failed

def bred : Db :=
  breedingAfter 7

theorem bred_eq : bred = (serve (liveApp .goerli) breedingScript.tail signedUp).2 :=
  breedingAfter_succ 6

theorem run_bred :
    Run (liveApp .goerli) (fun _ => True) .empty
      (serve (liveApp .goerli) (breedingScript.take 7) .empty).1 bred :=
  run_breedingAfter (fun _ => trivial) 7

theorem housed_bred : Housed bred :=
  (orderly_of_run run_bred _ run_bred.final_mem_states).housed

/-- The request comes when the last level has just been started. -/
def earlyFinalize (db : Db) : Except Failure Response × Db :=
  (surroundings fun _ => True).run (fun _ => .agreeable "alice" (period 4))
    (handle (liveApp .goerli) (.finalizeBreeding alice ⟨1, 17, 18⟩)) db

theorem finalize_retryable_iff_early :
    Retryable (liveApp .goerli) (fun oracle => ∃ now, oracle = .agreeable "alice" now)
        bred (.finalizeBreeding alice ⟨1, 17, 18⟩) ∧
      (earlyFinalize bred).1 =
        .error (UnproceesableEntityError "Breeding time not elapsed") ∧
      Untouched bred (earlyFinalize bred).2 := by
  have retryable : Retryable (liveApp .goerli)
      (fun oracle => ∃ now, oracle = .agreeable "alice" now) bred
      (.finalizeBreeding alice ⟨1, 17, 18⟩) := by
    apply (finalize_retryable_iff housed_bred (levelsUnique_of_run run_bred)).mpr
    intro pair level buds _ unsigned
    obtain ⟨-, clock, signer, -, ⟨now, rfl⟩, refused⟩ := unsigned
    cases refused
  have failed : (earlyFinalize bred).1 =
      .error (UnproceesableEntityError "Breeding time not elapsed") := by
    rw [bred_eq]
    decide +kernel
  exact ⟨retryable, failed,
    retryable _ _ (handles_run _ ⟨period 4, rfl⟩ _ bred) _ failed⟩

/-- An oracle that finds everything in order, but has no key to sign with. -/
def keyless : Oracle :=
  { Oracle.agreeable "alice" (period 5) with signature := fun _ => none }

def unsignedFinalize (db : Db) : Except Failure Response × Db :=
  (surroundings fun _ => True).run (fun _ => keyless)
    (handle (liveApp .goerli) (.finalizeBreeding alice ⟨1, 17, 18⟩)) db

/-- Without a signature the request fails, and the pair is completed. -/
theorem unsigned_finalize_completed :
    ¬ ∀ (app : App) (admitted : Oracle → Prop) (db : Db) (req : Req)
        (body : BreedFinalizeDto),
      Housed db → LevelsUnique db →
        Retryable app admitted db (.finalizeBreeding req body) := by
  intro retryable
  have failed : (unsignedFinalize bred).1 =
      .error (.prisma .invalidValue) := by
    rw [bred_eq]
    decide +kernel
  have completed : (unsignedFinalize bred).2.breedPair.rows.map BreedPair.status ≠
      bred.breedPair.rows.map BreedPair.status := by
    rw [bred_eq]
    decide +kernel
  have untouched := retryable (liveApp .goerli) (fun _ => True) bred alice ⟨1, 17, 18⟩
    housed_bred (levelsUnique_of_run run_bred) (unsignedFinalize bred).1
    (unsignedFinalize bred).2 (handles_run _ trivial _ _) _ failed
  rw [untouched.breedPair] at completed
  exact completed rfl

end Finalize

end BudBreeding.Lifecycle
