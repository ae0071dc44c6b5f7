import BudBreeding.Concurrency.Levels
import BudBreeding.Concurrency.Tokens
import BudBreeding.Concurrency.Handlers

namespace BudBreeding.Concurrency

open Data Program Backend

/-! Under the terms the rows evolve as they should, and what the requests assume
of the database holds. -/

section Evolution

variable {db : Db}

theorem evolves_upsertUser (address : Address) (signature : String)
    (gameKeyId : Int) :
    Evolves db (db.upsertUser address signature gameKeyId) := by
  unfold Db.upsertUser
  split
  · exact { Evolves.refl db with
      user := .modify (by simp) UserLater.refl (by simp [UserLater]) }
  · exact { Evolves.refl db with
      user := .of_subset UserLater.refl (List.subset_append_left _ _) }

theorem evolves_updateBreedPair {filter : BreedPair → Bool}
    {data : BreedPairUpdate}
    (onward : ∀ pair ∈ db.breedPair.rows, filter pair = true →
      PairLater pair (data.apply pair)) :
    Evolves db (db.updateBreedPair filter data) :=
  { Evolves.refl db with breedPair := .modifySerial PairLater.refl onward }

theorem evolves_updateBreedSlot {filter : BreedSlot → Bool}
    {data : BreedSlotUpdate} (forward : Forward data) :
    Evolves db (db.updateBreedSlot filter data) := by
  refine { Evolves.refl db with breedSlot := .modifySerial SlotLater.refl ?_ }
  intro slot _ _
  cases data with
  | type value =>
      obtain rfl : value = .INDOOR := forward
      exact ⟨rfl, id, fun _ => rfl, id⟩
  | isUsed value => exact ⟨rfl, id, id, id⟩
  | isOpen value =>
      obtain rfl : value = true := forward
      exact ⟨rfl, fun _ => rfl, id, id⟩
  | deletedAt value => exact ⟨rfl, id, id, fun _ => Option.some_ne_none _⟩

theorem later_status {pair : BreedPair} {status : BreedPairStatus}
    (closed : status ≠ .PAIRED) :
    PairLater pair ((BreedPairUpdate.status status).apply pair) :=
  ⟨rfl, le_rfl, fun paired => absurd paired closed⟩

theorem evolves_updateGen1Bud (id : Int) (data : Gen1BudUpdate) :
    Evolves db (db.updateGen1Bud id data) := by
  refine { Evolves.refl db with gen1Bud := .modifySerial Gen1Later.refl ?_ }
  intro bud _ _
  cases data <;> rfl

variable {ι : Type} {app : App} {works : ι → Work} {thread : ι}

/-- The counter of a pair is moved up only. -/
theorem later_counter (climbing : Climbing app works db)
    {id value : Int} (may : MayCount app db (works thread) id value)
    {pair : BreedPair} (listed : pair ∈ db.breedPair.rows) (same : pair.id = id) :
    PairLater pair ((BreedPairUpdate.currentLevel value).apply pair) := by
  have standing : Standing db id pair.currentLevel := ⟨pair, listed, same, rfl⟩
  refine ⟨rfl, ?_, fun paired => paired⟩
  change pair.currentLevel ≤ value
  rcases may with raised | ⟨-, rfl, -⟩
  · have before := (climbing.climbers thread id value (.inr raised)).standing
    have reached := standing.unique before
    omega
  · exact (climbing.bounded id _ standing).2

theorem evolves_step (climbing : Climbing app works db)
    {holder : Option Address} {query : Query}
    (permitted : permits app ⟨holder, works thread⟩ query db)
    (oracle : Oracle) : Evolves db (exec oracle query db).2 := by
  cases query
  case userUpdate address value =>
    simp only [exec]
    split
    · exact .refl db
    · exact { Evolves.refl db with
        user := .modify (by simp) UserLater.refl (by simp [UserLater]) }
  case userUpsert address signature gameKeyId =>
    simp only [exec]
    split
    · exact evolves_upsertUser address signature gameKeyId
    · exact .refl db
  case breedPairCreate data =>
    simp only [exec]
    split
    · exact .refl db
    · exact { Evolves.refl db with
        breedPair := .of_subset PairLater.refl (List.subset_append_left _ _) }
  case breedPairUpdate id data =>
    refine evolves_updateBreedPair fun pair listed chosen => ?_
    cases data with
    | status status => exact later_status permitted.1
    | currentLevel value =>
        exact later_counter climbing permitted.2 listed
          (of_decide_eq_true chosen)
  case breedPairUpdateMany filter data =>
    obtain ⟨⟨status, closed, rfl⟩, -⟩ := permitted
    exact evolves_updateBreedPair fun pair _ _ => later_status closed
  case breedLevelCreate data =>
    simp only [exec]
    split
    · exact .refl db
    · exact { Evolves.refl db with
        breedLevel :=
          .of_subset LevelLater.refl (List.subset_append_left _ _) }
  case breedLevelUpdate id data =>
    refine { Evolves.refl db with
      breedLevel := .modifySerial LevelLater.refl ?_ }
    exact fun _ _ _ => ⟨rfl, fun _ => Option.some_ne_none _⟩
  case breedBudCreateMany levelId buds =>
    refine { Evolves.refl db with breedBud := ?_ }
    change _ ⊆ (db.createBreedBuds levelId buds oracle.now).breedBud.rows
    rw [Db.createBreedBuds, Serial.rows_createMany]
    exact List.subset_append_left _ _
  case breedSlotCreateMany data =>
    simp only [exec]
    split
    · exact { Evolves.refl db with breedSlot := .createMany SlotLater.refl }
    · exact .refl db
  case breedSlotUpdate id data => exact evolves_updateBreedSlot permitted.1
  case breedSlotUpdateMany filter data =>
    exact evolves_updateBreedSlot permitted.1
  case eventServiceLogCreate data =>
    simp only [exec]
    split
    · exact .refl db
    · split
      · exact .refl db
      · exact { Evolves.refl db with
          eventServiceLog := List.subset_append_left _ _ }
  case gen1BudCreate data =>
    exact { Evolves.refl db with
      gen1Bud := .of_subset Gen1Later.refl (List.subset_append_left _ _) }
  case gen1BudUpdateSignature id signature =>
    cases signature with
    | none => exact .refl db
    | some value => exact evolves_updateGen1Bud id _
  case gen1BudUpdateName id name => exact evolves_updateGen1Bud id _
  all_goals exact .refl db

end Evolution

section Lodging

variable {app : App} {db after : Db}

/-- Every pair is bred on a slot of its owner. -/
def SlotsOwned (db : Db) : Prop :=
  ∀ pair ∈ db.breedPair.rows, HoldsSlot db (some pair.userAddress) pair.slotId

theorem slotsOwned_of_rewritten (owned : SlotsOwned db)
    (evolved : Evolves db after)
    (rewritten : ∀ pair ∈ after.breedPair.rows, ∃ old ∈ db.breedPair.rows,
      pair.userAddress = old.userAddress ∧ pair.slotId = old.slotId) :
    SlotsOwned after := by
  intro pair listed
  obtain ⟨old, before, owner, slot⟩ := rewritten pair listed
  rw [owner, slot]
  exact evolved.holdsSlot (owned old before)

theorem rewritten_updateBreedPair {filter : BreedPair → Bool}
    {data : BreedPairUpdate} :
    ∀ pair ∈ (db.updateBreedPair filter data).breedPair.rows,
      ∃ old ∈ db.breedPair.rows,
        pair.userAddress = old.userAddress ∧ pair.slotId = old.slotId := by
  intro pair listed
  rcases Serial.of_mem_modify listed with ⟨old, stored, -, rfl⟩ | ⟨stored, -⟩
  · cases data <;> exact ⟨old, stored, rfl, rfl⟩
  · exact ⟨pair, stored, rfl, rfl⟩

theorem slotsOwned_step (owned : SlotsOwned db) {stage : Stage} {query : Query}
    (permitted : permits app stage query db) (oracle : Oracle)
    (evolved : Evolves db (exec oracle query db).2) :
    SlotsOwned (exec oracle query db).2 := by
  by_cases written : query.written = some .breedPair
  · cases query with
    | breedPairCreate data =>
        obtain ⟨own, held⟩ := permitted
        simp only [exec] at evolved ⊢
        split
        · exact owned
        · intro pair listed
          rcases List.mem_append.mp listed with old | new
          · exact owned pair old
          · rw [List.mem_singleton.mp new]
            rw [own] at held
            exact held
    | breedPairUpdate id data =>
        exact slotsOwned_of_rewritten owned evolved rewritten_updateBreedPair
    | breedPairUpdateMany filter data =>
        exact slotsOwned_of_rewritten owned evolved rewritten_updateBreedPair
    | _ => cases written
  · refine slotsOwned_of_rewritten owned evolved fun pair listed => ?_
    rw [(exec_sameBut oracle query db).breedPair written] at listed
    exact ⟨pair, listed, rfl, rfl⟩

end Lodging

section Upkeep

variable {ι : Type} {app : App} {admitted : Oracle → Prop}

/-- The invariant of the server: what holds of the stages of its requests and of
its database between any two queries. -/
structure Keeping (app : App) (admitted : Oracle → Prop) (stages : ι → Stage)
    (db : Db) : Prop where
  owned : SlotsOwned db
  climbing : Climbing app (fun thread => (stages thread).work) db
  issuing : Issuing admitted (fun thread => (stages thread).work) db

theorem work_update [DecidableEq ι] (stages : ι → Stage) (thread : ι)
    (stage : Stage) :
    (fun other => (Function.update stages thread stage other).work) =
      Function.update (fun other => (stages other).work) thread stage.work := by
  funext other
  by_cases same : other = thread
  · rw [same, Function.update_self, Function.update_self]
  · rw [Function.update_of_ne same, Function.update_of_ne same]

/-- Requests that keep to the terms keep the invariant. -/
theorem upholds [DecidableEq ι] :
    (discipline app).Upholds (surroundings admitted)
      (Keeping app admitted : (ι → Stage) → Db → Prop) where
  assumed {stages db} keeping thread :=
    ⟨keeping.owned, fun pair listed =>
      (keeping.climbing.bounded _ _ ⟨pair, listed, rfl, rfl⟩).1⟩
  step {stages db query oracle} thread keeping permitted allowed := by
    obtain ⟨owned, climbing, issuing⟩ := keeping
    have evolved := evolves_step climbing permitted oracle
    refine ⟨⟨slotsOwned_step owned permitted oracle evolved, ?_, ?_⟩, evolved⟩
    · rw [work_update]
      exact climbing.step permitted oracle
    · rw [work_update]
      exact issuing.step permitted allowed

end Upkeep

end BudBreeding.Concurrency
