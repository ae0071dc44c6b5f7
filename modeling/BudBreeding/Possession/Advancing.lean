import BudBreeding.Possession.Chain

namespace BudBreeding.Possession

open Data Program Backend

/-! What the user of a pair possesses when the pair advances. -/

def leveledUp : Except Failure Response → Bool
  | .ok (.status _) => true
  | _ => false

def finalized : Except Failure Response → Bool
  | .ok (.reward _) => true
  | _ => false

/-- The step takes the pair a level further, or rolls its dice: `finalizeBreeding`
answers, or it has written something before it fails. -/
inductive Advances (pair : BreedPair) (step : Transition Db Visit) : Prop
  | levelUp {req : Req} {body : BreedUpDto}
      (asked : step.label.exchange.request = .levelBreedingUp req body)
      (own : BreedController.ownPair req.user body.pairId pair = true)
      (accepted : leveledUp step.label.exchange.response = true)
  | finalize {req : Req} {body : BreedFinalizeDto}
      (asked : step.label.exchange.request = .finalizeBreeding req body)
      (own : BreedController.ownPair req.user body.pairId pair = true)
      (rolled : finalized step.label.exchange.response = true ∨
        step.target ≠ step.source)

/-- A request to finalize passes the checks of `finalizeBreeding`, but its user has
parted with a bud or an item of the pair. -/
def Dispossessed (app : App) (step : Transition Db Visit) : Prop :=
  ∃ req body pair level buds,
    step.label.exchange.request = .finalizeBreeding req body ∧
    FinalizeGranted app step.label.chain.Reported step.source req body pair level
      buds ∧
    ¬ step.label.chain.Possesses step.source pair

section Steps

variable {app : App} {chain : Chain} {db after : Db} {pair : BreedPair} {req : Req}

theorem same_of_ownPair {user : Address} {pairId : Int} {other : BreedPair}
    (listed : pair ∈ db.breedPair.rows) (present : other ∈ db.breedPair.rows)
    (own : BreedController.ownPair user pairId pair = true)
    (owned : BreedController.ownPair user pairId other = true) : pair = other := by
  have id := (decide_eq_true_iff.mp own).1
  have sameId := (decide_eq_true_iff.mp owned).1
  exact db.breedPair.toTable.eq_of_key_eq listed present (id.trans sameId.symm)

theorem possesses_of_levelUp {body : BreedUpDto}
    {response : Except Failure Response} (listed : pair ∈ db.breedPair.rows)
    (own : BreedController.ownPair req.user body.pairId pair = true)
    (accepted : leveledUp response = true)
    (handled : Handles app chain.Reported db ⟨.levelBreedingUp req body, response⟩
      after) : chain.Possesses db pair := by
  cases outcome_of_handles handled with
  | leveledUp granted charged evaluable started =>
      obtain rfl := same_of_ownPair listed granted.listed own granted.own
      exact ⟨owner_of_ownsBuds (fun _ reported => reported.owners) granted.owns,
        Chain.backs_of_holdsItem granted.item⟩
  | refused => cases accepted
  | nothingInvalidated => cases accepted
  | levelCharged granted charged => cases accepted
  | levelEvaluated granted charged evaluable taken samePair sameLevel =>
      cases accepted

theorem granted_of_finalize {body : BreedFinalizeDto}
    {response : Except Failure Response} (listed : pair ∈ db.breedPair.rows)
    (own : BreedController.ownPair req.user body.pairId pair = true)
    (rolled : finalized response = true ∨ after ≠ db)
    (handled : Handles app chain.Reported db ⟨.finalizeBreeding req body, response⟩
      after) :
    ∃ level buds,
      FinalizeGranted app chain.Reported db req body pair level buds := by
  have same {other : BreedPair} {level : BreedLevel} {buds : List BreedBud}
      (granted : FinalizeGranted app chain.Reported db req body other level buds) :
      ∃ level buds,
        FinalizeGranted app chain.Reported db req body pair level buds := by
    obtain rfl := same_of_ownPair listed granted.listed own granted.own
    exact ⟨level, buds, granted⟩
  cases outcome_of_handles handled with
  | refused => cases rolled with
      | inl impossible => cases impossible
      | inr changed => exact absurd rfl changed
  | nothingInvalidated => cases rolled with
      | inl impossible => cases impossible
      | inr changed => exact absurd rfl changed
  | finalizeBlocked granted slotless => exact same granted
  | finalizeLost granted => exact same granted
  | finalizeUnsigned granted next => exact same granted
  | finalizeWon granted next => exact same granted

end Steps

section Runs

variable {app : App} {final : Db} {steps : List (Transition Db Visit)}

/-- A pair advances only while its user possesses its buds and items, unless a
dispossessed user finalizes it; and whenever such a request is answered, a pair
advances without. -/
theorem advancing_requires_possession (run : ChainRun app .empty steps final) :
    ((∀ step ∈ steps, ¬ Dispossessed app step) →
      ∀ step ∈ steps, ∀ pair ∈ step.source.breedPair.rows, Advances pair step →
        step.label.chain.Possesses step.source pair) ∧
    ∀ step ∈ steps, Dispossessed app step →
      finalized step.label.exchange.response = true →
        ∃ pair ∈ step.source.breedPair.rows, Advances pair step ∧
          ¬ step.label.chain.Possesses step.source pair := by
  constructor
  · intro kept step member pair listed advances
    obtain ⟨-, -, handled⟩ := run.source_mem_states member
    have within := kept step member
    obtain ⟨source, ⟨chain, request, response⟩, target⟩ := step
    cases advances with
    | levelUp asked own accepted =>
        subst asked
        exact possesses_of_levelUp listed own accepted handled
    | @finalize req body asked own rolled =>
        subst asked
        obtain ⟨level, buds, granted⟩ :=
          granted_of_finalize listed own rolled handled
        by_contra dispossessed
        exact within ⟨req, body, pair, level, buds, rfl, granted, dispossessed⟩
  · intro step member dispossessed answered
    obtain ⟨req, body, pair, level, buds, asked, granted, lost⟩ := dispossessed
    exact ⟨pair, granted.listed, .finalize asked granted.own (.inl answered), lost⟩

end Runs

section Examples

/-- `alice` breeds a pair and rolls its dice. -/
def finalizeScript : List (Request × Oracle) :=
  breedingScript.tail ++
    [(.finalizeBreeding alice ⟨1, 17, 18⟩, .agreeable "alice" (period 5))]

theorem agreeable_finalizeScript :
    ∀ entry ∈ finalizeScript, ∃ now, entry.2 = .agreeable "alice" now := by
  intro entry member
  cases List.mem_append.mp member with
  | inl bred => exact agreeable_breedingScript entry (List.mem_of_mem_tail bred)
  | inr last =>
      rw [List.mem_singleton.mp last]
      exact ⟨period 5, rfl⟩

theorem advancing_requires_possession_breeding :
    ∃ steps final, ChainRun (liveApp .goerli) .empty steps final ∧
      ∃ step ∈ steps, ∃ pair ∈ step.source.breedPair.rows, Advances pair step ∧
        step.label.chain.Possesses step.source pair := by
  have run := chainRun_served agreeable_finalizeScript
  have rolled : ∃ served ∈ [loginStep] ++
      (serve (liveApp .goerli) finalizeScript signedUp).1,
      served.label.request = .finalizeBreeding alice ⟨1, 17, 18⟩ ∧
      finalized served.label.response = true ∧
      ∃ pair ∈ served.source.breedPair.rows,
        BreedController.ownPair "alice" 1 pair = true := by
    decide +kernel
  have alices : ∀ served ∈ [loginStep] ++
      (serve (liveApp .goerli) finalizeScript signedUp).1,
      ∀ pair ∈ served.source.breedPair.rows,
        pair.userAddress = "alice" ∧ pair.gameItemId = none := by
    decide +kernel
  obtain ⟨served, listed, asked, answered, pair, present, own⟩ := rolled
  have advances : Advances pair (allAlices.visited served) :=
    .finalize asked own (.inl answered)
  refine ⟨_, _, run, _, List.mem_map.mpr ⟨served, listed, rfl⟩, pair, present,
    advances, ?_⟩
  refine (advancing_requires_possession run).1 ?_ _
    (List.mem_map.mpr ⟨served, listed, rfl⟩) pair present advances
  intro step among dispossessed
  obtain ⟨old, known, rfl⟩ := List.mem_map.mp among
  obtain ⟨req, body, other, level, buds, -, granted, lost⟩ := dispossessed
  obtain ⟨user, itemless⟩ := alices old known other granted.listed
  apply lost
  constructor
  · unfold Chain.Owns
    rw [user]
    exact ⟨rfl, rfl⟩
  · intro gameItemId used
    rw [itemless] at used
    cases used

/-- `alice` sells her buds to `bob` after the last level-up, and finalizes. -/
theorem sold_buds_finalized :
    ∃ steps final, ChainRun (liveApp .goerli) .empty steps final ∧
      ∃ step ∈ steps, ∃ pair ∈ step.source.breedPair.rows, Advances pair step ∧
        finalized step.label.exchange.response = true ∧
        ¬ step.label.chain.Possesses step.source pair := by
  have bred := chainRun_served fun entry member =>
    agreeable_breedingScript entry (List.mem_of_mem_tail member)
  have run := bred.visit (handles_run (liveApp .goerli)
    (Chain.reported_heldBy "bob" (period 5))
    (.finalizeBreeding alice ⟨1, 17, 18⟩) _)
  have alices : ∃ pair ∈
      (serve (liveApp .goerli) breedingScript.tail signedUp).2.breedPair.rows,
      BreedController.ownPair "alice" 1 pair = true ∧
        pair.userAddress = "alice" := by
    decide +kernel
  have answered : finalized ((surroundings fun _ => True).run
      (fun _ => .agreeable "bob" (period 5))
      (handle (liveApp .goerli) (.finalizeBreeding alice ⟨1, 17, 18⟩))
      (serve (liveApp .goerli) breedingScript.tail signedUp).2).1 = true := by
    decide +kernel
  obtain ⟨pair, listed, own, user⟩ := alices
  refine ⟨_, _, run, _, List.mem_append_right _ List.mem_cons_self, pair, listed,
    .finalize rfl own (.inl answered), answered, fun possesses => ?_⟩
  have owner : "bob" = pair.userAddress := possesses.owns.1
  rw [user] at owner
  exact absurd owner (by decide)

end Examples

end BudBreeding.Possession
