import BudBreeding.Possession.Chain

namespace BudBreeding.Possession

open Data Program Backend

/-! The game items that the pairs of a user are bred with, and those the user
holds. -/

def usesItem (user : Address) (gameItemId : Int) (entry : Commitment) : Bool :=
  entry.userAddress = user ∧ entry.gameItemId = some gameItemId

theorem itemCount_eq (db : Db) (user : Address) (gameItemId : Int) :
    itemCount db user gameItemId =
      (commitments db).countP (usesItem user gameItemId) := by
  unfold itemCount commitments
  rw [List.countP_filterMap]
  congr 1
  funext pair
  by_cases paired : pair.status = .PAIRED
  · rw [commitment_of_paired paired]
    simp [BreedService.pairsUsingItem, usesItem, paired]
  · simp [BreedService.pairsUsingItem, commitment, paired]

theorem itemCount_snoc {db after : Db} {entry : Commitment}
    (added : commitments after = commitments db ++ [entry]) (user : Address)
    (gameItemId : Int) :
    itemCount after user gameItemId = itemCount db user gameItemId +
      if usesItem user gameItemId entry = true then 1 else 0 := by
  rw [itemCount_eq, itemCount_eq, added, List.countP_append, List.countP_singleton]

/-- What `createPair` checks of the game item. -/
def ItemGranted (chain : Chain) (req : Req) (body : CreateBreedPairDto) : Prop :=
  body.valid = true ∧ ∀ gameItemId, body.gameItemId = some gameItemId →
    0 < chain.gameItemBalance req.user gameItemId

section Creation

variable {app : App} {chain : Chain} {db after : Db}

theorem nonzero_of_valid {body : CreateBreedPairDto} {gameItemId : Int}
    (valid : body.valid = true) (used : body.gameItemId = some gameItemId) :
    gameItemId ≠ 0 := by
  unfold CreateBreedPairDto.valid at valid
  rw [used] at valid
  have range := decide_eq_true_iff.mp valid
  omega

theorem ensures_itemGranted (req : Req) (body : CreateBreedPairDto) :
    (surroundings chain.Reported).Ensures (handle app (.createPair req body))
      (fun _ after => after ≠ db → ItemGranted chain req body) db := by
  unfold handle validated
  refine World.reads_throwIf.ensures_bind ?_ fun _ passed => ?_
  · exact fun _ changed => absurd rfl changed
  have valid := Bool.eq_true_of_not_eq_false passed
  rw [World.ensures_map]
  refine (reads_verifyBudPairs _ _ _ _).ensures_bind ?_ fun metadatas _ => ?_
  · exact fun _ changed => absurd rfl changed
  refine (reads_checkGameItem _ _).ensures_bind ?_ fun _ held => ?_
  · exact fun _ changed => absurd rfl changed
  have granted : ItemGranted chain req body := by
    refine ⟨valid, fun gameItemId used => ?_⟩
    obtain ⟨oracle, balance, reported, answered, positive⟩ :=
      held gameItemId used (nonzero_of_valid valid used)
    rw [reported.balance _ _ _ answered]
    exact positive
  intro result final _
  cases result with
  | error error => exact fun _ => granted
  | ok pair => exact fun _ => granted

/-- The chain lets `createPair` accept the request. -/
structure Grants (chain : Chain) (db : Db) (req : Req) (body : CreateBreedPairDto) :
    Prop where
  item : ItemGranted chain req body
  pair : ∃ slot metadatas, PairGranted chain.Reported db req body slot metadatas

/-- Only `createPair` adds to the pairs bred with an item. -/
theorem itemCount_of_handles {exchange : Exchange}
    (handled : Handles app chain.Reported db exchange after) :
    (∀ user gameItemId,
      itemCount after user gameItemId ≤ itemCount db user gameItemId) ∨
    ∃ req body, exchange.request = .createPair req body ∧
      Grants chain db req body ∧
      commitments after = commitments db ++ [newCommitment db req body] := by
  obtain ⟨request, response⟩ := exchange
  rcases commitments_of_outcome (outcome_of_handles handled) with
    fewer | ⟨req, body, slot, metadatas, rfl, granted, added⟩
  · left
    intro user gameItemId
    rw [itemCount_eq, itemCount_eq]
    exact fewer.countP_le
  · have changed : after ≠ db := by
      intro same
      rw [same] at added
      exact absurd added.symm (by simp)
    have item := ensures_itemGranted req body _ _ handled changed
    exact .inr ⟨req, body, rfl, ⟨item, slot, metadatas, granted⟩, added⟩

theorem commitments_of_accepted {req : Req} {body : CreateBreedPairDto}
    {pair : BreedPair}
    (handled : Handles app chain.Reported db
      ⟨.createPair req body, .ok (.pair pair)⟩ after) :
    commitments after = commitments db ++ [newCommitment db req body] := by
  cases outcome_of_handles handled with
  | pairCreated granted started =>
      rw [commitments_levelStarted started]
      exact commitments_insertPair _ _ _ _ _

end Creation

/-- The user pairs once more with an item although the pairs already bred with it
take up all the user holds. -/
def Overdraws (user : Address) (step : Transition Db Visit) : Prop :=
  ∃ req body gameItemId, step.label.exchange.request = .createPair req body ∧
    Grants step.label.chain step.source req body ∧ req.user = user ∧
    body.gameItemId = some gameItemId ∧
    step.label.chain.gameItemBalance user gameItemId ≤
      itemCount step.source user gameItemId

def Covered (balance : Int → Nat) (user : Address) (db : Db) : Prop :=
  ∀ gameItemId, itemCount db user gameItemId ≤ balance gameItemId

section Runs

variable {app : App} {user : Address} {balance : Int → Nat} {final : Db}
  {steps : List (Transition Db Visit)}

/-- While the balances of a user do not change, the pairs of the user bred with an
item never outnumber the items, unless the user overdraws; and an accepted request
that overdraws always makes them do so. -/
theorem items_back_pairs (run : ChainRun app .empty steps final)
    (constant : ∀ step ∈ steps, step.label.chain.gameItemBalance user = balance) :
    ((∀ step ∈ steps, ¬ Overdraws user step) →
      ∀ db ∈ states .empty steps, Covered balance user db) ∧
    ∀ step ∈ steps, Overdraws user step →
      ∀ pair, step.label.exchange.response = .ok (.pair pair) →
        ¬ Covered balance user step.target := by
  constructor
  · intro within
    have base : Covered balance user .empty := fun _ => Nat.zero_le _
    apply run.forall_states base
    intro step member covered handled gameItemId
    have before := covered gameItemId
    rcases itemCount_of_handles handled with fewer | ⟨req, body, asked, granted, added⟩
    · exact (fewer user gameItemId).trans before
    · rw [itemCount_snoc added]
      split
      · next used =>
          obtain ⟨same, item⟩ := decide_eq_true_iff.mp used
          by_contra exceeded
          have full : step.label.chain.gameItemBalance user gameItemId ≤
              itemCount step.source user gameItemId := by
            rw [constant step member]
            omega
          exact within step member
            ⟨req, body, gameItemId, asked, granted, same, item, full⟩
      · omega
  · intro step member overdraws pair accepted covered
    obtain ⟨req, body, gameItemId, asked, granted, same, item, full⟩ := overdraws
    obtain ⟨-, -, handled⟩ := run.source_mem_states member
    obtain ⟨source, ⟨chain, request, response⟩, target⟩ := step
    subst asked accepted
    have bounded := covered gameItemId
    rw [constant _ member] at full
    have used : usesItem user gameItemId (newCommitment source req body) = true :=
      decide_eq_true ⟨same, item⟩
    rw [itemCount_snoc (commitments_of_accepted handled), if_pos used] at bounded
    omega

end Runs

section Examples

/-- `alice` buys breeding points, opens a second slot and breeds two pairs with the
one farmer pass she holds. -/
def passScript : List (Request × Oracle) :=
  [(.addBreedingPoint ⟨⟨"alice", "deposit", 1, "goerli"⟩, 100000⟩,
      .agreeable "alice" (period 0)),
    (.openSlot alice ⟨2⟩, .agreeable "alice" (period 0)),
    (.createPair alice ⟨1, 2, 1, some GameItem.FARMER_PASS, none⟩,
      .agreeable "alice" (period 0)),
    (.createPair alice ⟨3, 4, 2, some GameItem.FARMER_PASS, none⟩,
      .agreeable "alice" (period 0))]

theorem run_passScript (count : Nat) :
    ChainRun (liveApp .goerli) .empty
      (([loginStep] ++ (serve (liveApp .goerli) (passScript.take count)
        signedUp).1).map allAlices.visited)
      (serve (liveApp .goerli) (passScript.take count) signedUp).2 := by
  apply chainRun_served
  intro entry member
  have listed := List.mem_of_mem_take member
  simp only [passScript, List.mem_cons, List.not_mem_nil, or_false] at listed
  rcases listed with rfl | rfl | rfl | rfl
  all_goals exact ⟨_, rfl⟩

theorem items_back_pairs_pass :
    ∃ steps final, ChainRun (liveApp .goerli) .empty steps final ∧
      itemCount final "alice" GameItem.FARMER_PASS = 1 ∧
      Covered (fun _ => 1) "alice" final := by
  have run := run_passScript 3
  refine ⟨_, _, run, by decide +kernel, ?_⟩
  refine (items_back_pairs run (List.forall_mem_map.mpr fun _ _ => rfl)).1 ?_ _
    run.final_mem_states
  have unpaired : ∀ step ∈ [loginStep] ++ (serve (liveApp .goerli)
      (passScript.take 3) signedUp).1, commitments step.source = [] := by
    decide +kernel
  intro step member overdraws
  obtain ⟨served, listed, rfl⟩ := List.mem_map.mp member
  obtain ⟨req, body, gameItemId, -, -, -, -, full⟩ := overdraws
  rw [itemCount_eq] at full
  change 1 ≤ (commitments served.source).countP _ at full
  rw [unpaired served listed] at full
  exact Nat.not_succ_le_zero 0 full

theorem pass_used_twice :
    ∃ steps final, ChainRun (liveApp .goerli) .empty steps final ∧
      (∀ step ∈ steps, step.label.chain.gameItemBalance "alice" = fun _ => 1) ∧
      ¬ Covered (fun _ => 1) "alice" final := by
  refine ⟨_, _, run_passScript 4, List.forall_mem_map.mpr fun _ _ => rfl,
    fun covered => ?_⟩
  exact absurd (covered GameItem.FARMER_PASS) (by decide +kernel)

end Examples

end BudBreeding.Possession
