import BudBreeding.Backend.Views
import BudBreeding.Concurrency.Confinement
import BudBreeding.Lifecycle.Revealing

namespace BudBreeding.Concurrency

open Data Program Backend Lifecycle

/-! What the API shows a user depends on what the user holds, and on nothing else. -/

section Views

variable {app : App} {oracle : Oracle} {db other : Db} {req : Req}
  {user : Address}

theorem filter_pairsOf (select : BreedPair → Bool) :
    (db.breedPair.rows.filter fun pair => pair.userAddress = user ∧ select pair) =
      (pairsOf db user).filter select := by
  rw [pairsOf, List.filter_filter]
  apply List.filter_congr
  intro pair _
  rw [Bool.and_comm, Bool.decide_and, Bool.decide_eq_true]

theorem filter_levelsOf {pair : BreedPair} (own : pair ∈ pairsOf db user) :
    (db.breedLevel.rows.filter fun level => level.pairId = pair.id) =
      (levelsOf db user).filter fun level => level.pairId = pair.id := by
  rw [levelsOf, List.filter_filter]
  apply List.filter_congr
  intro level _
  by_cases same : level.pairId = pair.id
  · have listed : level.pairId ∈ (pairsOf db user).map BreedPair.id :=
      same ▸ List.mem_map_of_mem own
    rw [decide_eq_true listed, Bool.and_true]
  · rw [decide_eq_false same, Bool.false_and]

theorem filter_bredOf {level : BreedLevel} (own : level ∈ levelsOf db user) :
    (db.breedBud.rows.filter fun bud => bud.levelId = level.id) =
      (bredOf db user).filter fun bud => bud.levelId = level.id := by
  rw [bredOf, List.filter_filter]
  apply List.filter_congr
  intro bud _
  by_cases same : bud.levelId = level.id
  · have listed : bud.levelId ∈ (levelsOf db user).map BreedLevel.id :=
      same ▸ List.mem_map_of_mem own
    rw [decide_eq_true listed, Bool.and_true]
  · rw [decide_eq_false same, Bool.false_and]

/-- A pair is loaded from the levels and buds of its user. -/
theorem loadPair_eq {pair : BreedPair} (own : pair ∈ pairsOf db user) :
    BreedController.loadPair oracle db pair =
      ⟨pair, some (loadRows oracle (levelsOf db user) (bredOf db user) pair)⟩ := by
  rw [BreedController.loadPair, loadRows, filter_levelsOf own]
  congr 2
  apply List.map_congr_left
  intro level member
  have listed := (List.perm_insertionSort _ _).mem_iff.mp member
  have mine := (List.mem_filter.mp (Oracle.mem_arrange.mp listed)).1
  rw [BreedController.loadLevel, filter_bredOf mine]

theorem getPairs_eq (pairId : Option Int) :
    BreedController.getPairs app oracle db user pairId =
      (oracle.arrange ((pairsOf db user).filter fun pair =>
          pairId.all fun id => pair.id = id)).map fun pair =>
        BreedPairDto.build oracle.now app.config.timePeriod
          ⟨pair, some (loadRows oracle (levelsOf db user) (bredOf db user) pair)⟩ := by
  have selected : db.breedPair.rows.filter
      (BreedController.pairOfUser user pairId) =
        (pairsOf db user).filter fun pair => pairId.all fun id => pair.id = id :=
    filter_pairsOf _
  rw [BreedController.getPairs, selected]
  apply List.map_congr_left
  intro pair member
  have mine := (List.mem_filter.mp (Oracle.mem_arrange.mp member)).1
  rw [loadPair_eq mine]

theorem getUserSlots_eq :
    LandController.getUserSlots oracle db req =
      oracle.arrange ((slotsOf db req.user).filter
        (LandController.slotOfUser req)) := by
  rw [LandController.getUserSlots, slotsOf, List.filter_filter]
  congr 1
  apply List.filter_congr
  intro slot _
  by_cases own : slot.userAddress = req.user
  · rw [decide_eq_true own, Bool.and_true]
  · simp [LandController.slotOfUser, own]

theorem getCurrentInBreedingItem_eq :
    BreedController.getCurrentInBreedingItem oracle db req =
      oracle.arrange (countBy BreedPair.gameItemId
        ((pairsOf db req.user).filter fun pair => pair.status = .PAIRED)) := by
  rw [BreedController.getCurrentInBreedingItem, pairsOf, List.filter_filter]
  simp only [Bool.decide_and]

theorem getGen1Buds_eq (budId : Option Int) :
    BudController.getGen1Buds oracle db req budId =
      oracle.arrange ((gen1BudsOf db req.user).filter fun bud =>
        budId.all fun id => bud.id = id) := by
  rw [BudController.getGen1Buds, gen1BudsOf, List.filter_filter]
  simp only [Bool.decide_and, Bool.decide_eq_true]

theorem getBPDepositHistory_eq :
    StatsService.getBPDepositHistory oracle db user =
      (oracle.arrange ((logsOf db user).filter fun log =>
          log.type = .DEPOSIT_BP)).map fun record =>
        { txHash := record.txHash
          blockNumber := record.blockNumber
          amount := StatsService.amountOf record.data } := by
  rw [StatsService.getBPDepositHistory, logsOf, List.filter_filter]
  simp only [Bool.decide_and, Bool.and_comm]

/-- Databases in which a user holds the same show the user the same. -/
theorem display_of_holdings
    (same : holdings db req.user = holdings other req.user) (view : View) :
    display app oracle db req view = display app oracle other req view := by
  obtain ⟨user, pairs, levels, bred, slots, logs, buds⟩ :=
    Holdings.mk.inj same
  cases view with
  | getUser => simp only [display, UserController.getUser, user]
  | getUserSlots => simp only [display, getUserSlots_eq, slots]
  | getPairs pairId => simp only [display, getPairs_eq, pairs, levels, bred]
  | getCurrentInBreedingItem =>
      simp only [display, getCurrentInBreedingItem_eq, pairs]
  | getGen1Buds budId => simp only [display, getGen1Buds_eq, buds]
  | getHistory => simp only [display, getBPDepositHistory_eq, logs]

theorem display_of_besides
    (same : (holdings db req.user).besides = (holdings other req.user).besides)
    {view : View} (apart : ¬ view.OfPairs) :
    display app oracle db req view = display app oracle other req view := by
  obtain ⟨user, -, levels, bred, -, logs, buds⟩ := Holdings.mk.inj same
  change db.user.find req.user = other.user.find req.user at user
  change gen1BudsOf db req.user = gen1BudsOf other req.user at buds
  change logsOf db req.user = logsOf other req.user at logs
  cases view with
  | getUser => simp only [display, UserController.getUser, user]
  | getGen1Buds budId => simp only [display, getGen1Buds_eq, buds]
  | getHistory => simp only [display, getBPDepositHistory_eq, logs]
  | getUserSlots => exact absurd trivial apart
  | getPairs pairId => exact absurd trivial apart
  | getCurrentInBreedingItem => exact absurd trivial apart

end Views

section Interleavings

variable {ι : Type} [DecidableEq ι] {app : App} {admitted : Oracle → Prop}
  {requests : ι → Request} {db : Db} {steps : List (ServerStep ι)}
  {final : Server ι}

/-- However the requests are interleaved, what an endpoint shows a user, whatever
the clock and the order of the rows, is changed by the requests of this user and
by `invalidatePair` only, and by this one only where pairs or slots are shown. -/
theorem views_confined (rested : Rested app admitted db)
    (interleaving : Interleaving app admitted requests db steps final) :
    ∀ step ∈ steps, ∀ (oracle : Oracle) (req : Req) (view : View),
      display app oracle step.target.store req view ≠
          display app oracle step.source.store req view →
        subject (requests step.label.thread) = some req.user ∨
          (∃ req body, requests step.label.thread = .invalidatePair req body) ∧
            view.OfPairs := by
  intro step member oracle req view changed
  obtain ⟨works, answering, climbing, permitted, after⟩ :=
    permitted_of_interleaving rested interleaving step member
  have moved : holdings step.target.store req.user ≠
      holdings step.source.store req.user :=
    fun same => changed (display_of_holdings same view)
  rw [after] at moved
  refine (holder_of_changed climbing permitted answering moved).imp_right ?_
  rintro ⟨nobody, same⟩
  refine ⟨invalidatePair_of_subject nobody, ?_⟩
  by_contra apart
  rw [after] at changed
  exact changed (display_of_besides same apart)

/-- What `alice` is shown changes while she levels her pair up twice. -/
theorem views_confined_rivals :
    ∃ step ∈ (rivalLevelsAfter 34).1,
      BreedController.getPairs (liveApp .goerli)
          (.agreeable "alice" (period 1)) step.target.store "alice" none ≠
        BreedController.getPairs (liveApp .goerli)
          (.agreeable "alice" (period 1)) step.source.store "alice" none ∧
      (subject (rivalLevels step.label.thread) = some "alice" ∨
        (∃ req body, rivalLevels step.label.thread = .invalidatePair req body) ∧
          (View.getPairs none).OfPairs) := by
  have changed : ∃ step ∈ (rivalLevelsAfter 34).1,
      BreedController.getPairs (liveApp .goerli)
          (.agreeable "alice" (period 1)) step.target.store "alice" none ≠
        BreedController.getPairs (liveApp .goerli)
          (.agreeable "alice" (period 1)) step.source.store "alice" none := by
    rw [rivalLevelsAfter, breedingAfter_succ 2]
    decide +kernel
  obtain ⟨step, member, moved⟩ := changed
  exact ⟨step, member, moved,
    views_confined (rested_breedingAfter 3)
      (interleaving_of_schedule (liveApp .goerli) rivalLevels _ _) step member
      (.agreeable "alice" (period 1)) alice (.getPairs none) moved⟩

end Interleavings

end BudBreeding.Concurrency
