import BudBreeding.Concurrency.Upkeep

namespace BudBreeding.Concurrency

open Data Program Backend Lifecycle

/-! What holds of the server however its requests are interleaved. -/

section Rest

variable {ι κ : Type} {app : App} {admitted : Oracle → Prop} {db after : Db}

theorem Climbing.relabel {works : ι → Work} (climbing : Climbing app works db)
    (idle : ∀ thread, works thread = .idle) :
    Climbing app (fun _ : κ => Work.idle) db := by
  have unclaimed : ∀ thread pairId number,
      ¬ (works thread).Climbs pairId number := by
    intro thread pairId number climbs
    have climber := climbs.climber
    rw [idle thread] at climber
    cases climber
  obtain ⟨bounded, covered, ranged, placed, unique, recorded, evaluated, bred,
    -, buds, -, -⟩ := climbing
  constructor
  · exact bounded
  · exact covered
  · exact ranged
  · intro level listed
    obtain ⟨count, standing, below | ⟨-, -, thread, climbs⟩⟩ :=
      placed level listed
    · exact ⟨count, standing, .inl below⟩
    · exact absurd climbs (unclaimed thread _ _)
  · exact unique
  · exact recorded
  · exact evaluated
  · intro level listed
    rcases bred level listed with complete | ⟨thread, raising⟩
    · exact .inl complete
    · exact absurd (.inl ⟨_, raising⟩) (unclaimed thread _ _)
  · intro _ _ _ _ busy
    cases busy
  · exact buds
  · intro _ _ _ climbs
    cases climbs.climber
  · intro _ _ _ busy
    cases busy

theorem Issuing.relabel {works : ι → Work} (issuing : Issuing admitted works db) :
    Issuing admitted (fun _ : κ => Work.idle) db where
  issued _ _ busy := by cases busy
  signed _ _ _ busy := by cases busy
  genuine := issuing.genuine
  apart _ _ _ busy := by cases busy

/-- The invariant of a database on which no request is under way. -/
def Rested (app : App) (admitted : Oracle → Prop) (db : Db) : Prop :=
  Keeping app admitted (fun _ : Unit => ⟨none, .idle⟩) db

namespace Rested

theorem empty : Rested app admitted .empty :=
  ⟨fun _ listed => absurd listed List.not_mem_nil, .empty, .empty⟩

theorem of_keeping {stages : ι → Stage}
    (keeping : Keeping app admitted stages db)
    (idle : ∀ thread, (stages thread).work = .idle) : Rested app admitted db :=
  ⟨keeping.owned, keeping.climbing.relabel idle, keeping.issuing.relabel⟩

/-- Requests may start on a database that has come to rest. -/
theorem keeping (rested : Rested app admitted db) (requests : ι → Request) :
    Keeping app admitted (fun thread => outset (requests thread)) db :=
  ⟨rested.owned, rested.climbing.relabel fun _ => rfl, rested.issuing.relabel⟩

theorem handles {exchange : Exchange} (rested : Rested app admitted db)
    (handles : Handles app admitted db exchange after) :
    Rested app admitted after := by
  obtain ⟨reached, keeping, _, _, idle⟩ :=
    (guarded_handle app db exchange.request).kept_of_runs (.refl db) upholds
      (rested.keeping fun _ => exchange.request) handles
  exact of_keeping keeping fun _ => idle

/-- A run of one request after the other leaves the database at rest. -/
theorem run {steps : List (Transition Db Exchange)}
    (rested : Rested app admitted db)
    (run : Run app admitted db steps after) : Rested app admitted after :=
  run.forall_states rested (fun _ _ before handled => before.handles handled)
    after run.final_mem_states

end Rested

end Rest

section Interleavings

variable {ι : Type} [DecidableEq ι] {app : App} {admitted : Oracle → Prop}
  {requests : ι → Request} {db : Db} {steps : List (ServerStep ι)}
  {final : Server ι}

/-- The stages the requests have reached. -/
def reached (app : App) (requests : ι → Request)
    (steps : List (ServerStep ι)) : ι → Stage :=
  (discipline app).protocol.stages (fun thread => outset (requests thread))
    steps

theorem keeping_of_interleaving (rested : Rested app admitted db)
    (interleaving : Interleaving app admitted requests db steps final) :
    Keeping app admitted (reached app requests steps) final.store ∧
      (discipline app).Underway (surroundings admitted) ended
        (reached app requests steps) final :=
  Discipline.kept_of_history interleaving upholds
    (fun thread => guarded_handle app db (requests thread))
    (rested.keeping requests)

/-- However the requests are interleaved, no row goes away, and every row changes
as its table allows from any moment to any later one. -/
theorem rows_evolve (rested : Rested app admitted db)
    (interleaving : Interleaving app admitted requests db steps final) :
    (states (serving app requests db) steps).Pairwise fun earlier later =>
      Evolves earlier.store later.store :=
  Discipline.evolves_of_history interleaving upholds
    (fun thread => guarded_handle app db (requests thread))
    (rested.keeping requests)

theorem evolved_of_interleaving (rested : Rested app admitted db)
    (interleaving : Interleaving app admitted requests db steps final) :
    ∀ server ∈ states (serving app requests db) steps,
      Evolves server.store final.store :=
  Discipline.evolved_of_history interleaving upholds
    (fun thread => guarded_handle app db (requests thread))
    (rested.keeping requests)

/-- The request has more to ask. -/
def Unfinished (server : Server ι) (thread : ι) : Prop :=
  ∃ query next, server.threads thread = .ask query next

omit [DecidableEq ι] in
theorem unfinished_of_busy {stages : ι → Stage} {server : Server ι}
    {thread : ι}
    (underway : (discipline app).Underway (surroundings admitted) ended stages
      server) (busy : (stages thread).work ≠ .idle) :
    Unfinished server thread := by
  obtain ⟨since, -, guarded⟩ := underway thread
  cases waiting : server.threads thread with
  | ask query next => exact ⟨query, next, waiting⟩
  | pure value =>
      rw [waiting] at guarded
      exact absurd guarded busy
  | throw error =>
      rw [waiting] at guarded
      exact absurd guarded busy

/-- When every request has ended, the database is at rest again. -/
theorem rested_of_ended (rested : Rested app admitted db)
    (interleaving : Interleaving app admitted requests db steps final)
    (finished : ∀ thread, ¬ Unfinished final thread) :
    Rested app admitted final.store := by
  obtain ⟨keeping, underway⟩ := keeping_of_interleaving rested interleaving
  refine Rested.of_keeping keeping fun thread => ?_
  by_contra busy
  exact finished thread (unfinished_of_busy underway busy)

end Interleavings

section Ladders

variable {ι : Type} {app : App} {db : Db} {works : ι → Work}
  {pair : BreedPair} {count : Int}

/-- The levels `1` to `count` of the pair are stored once each. -/
def Numbered (db : Db) (pairId count : Int) : Prop :=
  ((ladder db pairId).map fun rung => rung.level.level).Perm (upward count)

theorem numbered_of_mem (climbing : Climbing app works db)
    (members : ∀ number, (∃ level ∈ db.breedLevel.rows,
      level.pairId = pair.id ∧ level.level = number) ↔
        1 ≤ number ∧ number ≤ count) : Numbered db pair.id count := by
  have numbers : ((ladder db pair.id).map fun rung => rung.level.level) =
      (db.breedLevel.rows.filter fun level => level.pairId = pair.id).map
        BreedLevel.level := by
    rw [ladder, List.map_map]
    rfl
  rw [Numbered, numbers]
  refine (List.perm_ext_iff_of_nodup ?_ (upward_nodup count)).mpr ?_
  · have distinct := List.Nodup.of_map BreedLevel.id db.breedLevel.nodup
    refine (distinct.filter _).map_on ?_
    intro level first other second same
    obtain ⟨listed, mine⟩ := List.mem_filter.mp first
    obtain ⟨present, theirs⟩ := List.mem_filter.mp second
    exact climbing.unique level listed other present
      ((of_decide_eq_true mine).trans (of_decide_eq_true theirs).symm) same
  · intro number
    rw [mem_upward, ← members number, List.mem_map]
    constructor
    · rintro ⟨level, selected, rfl⟩
      obtain ⟨listed, mine⟩ := List.mem_filter.mp selected
      exact ⟨level, listed, of_decide_eq_true mine, rfl⟩
    · rintro ⟨level, listed, mine, rfl⟩
      exact ⟨level, List.mem_filter.mpr ⟨listed, decide_eq_true mine⟩, rfl⟩

/-- The levels of the pair up to its counter: each with its four buds, and
evaluated below the counter. -/
structure Climbed (app : App) (db : Db) (pair : BreedPair) : Prop where
  begun : 0 ≤ pair.currentLevel
  bounded : pair.currentLevel ≤ app.config.targetLevel + 1
  bred : ∀ rung ∈ ladder db pair.id, rung.level.level ≤ pair.currentLevel →
    rung.Bred
  evaluated : ∀ rung ∈ ladder db pair.id,
    rung.level.level < pair.currentLevel → rung.Evaluated app

theorem climbed_of_climbing (climbing : Climbing app works db)
    (listed : pair ∈ db.breedPair.rows) : Climbed app db pair := by
  have standing : Standing db pair.id pair.currentLevel :=
    ⟨pair, listed, rfl, rfl⟩
  obtain ⟨begun, bounded⟩ := climbing.bounded _ _ standing
  refine ⟨begun, bounded, ?_, ?_⟩
  · intro rung member within
    obtain ⟨stored, owner, buds⟩ := mem_ladder.mp member
    obtain ⟨level, bred⟩ := rung
    obtain rfl : bred = budsOf db level.id := buds
    rcases climbing.bred level stored with complete | ⟨thread, raising⟩
    · exact complete
    · -- A level without buds is above the counter.
      have above := (climbing.climbers thread _ _ (.inl ⟨_, raising⟩)).standing
      change level.pairId = pair.id at owner
      rw [owner] at above
      have same := above.unique standing
      change level.level ≤ pair.currentLevel at within
      omega
  · intro rung member below
    obtain ⟨stored, owner, buds⟩ := mem_ladder.mp member
    obtain ⟨level, bred⟩ := rung
    obtain rfl : bred = budsOf db level.id := buds
    change level.pairId = pair.id at owner
    have recorded := climbing.recorded level stored pair.currentLevel
      (owner ▸ standing) below
    rcases climbing.evaluated level stored with blank | chosen
    · exact absurd blank.maleBreedBudId recorded
    · exact chosen

/-- Either the levels are counted, or one request is about to count the next. -/
theorem numbered_of_climbing (climbing : Climbing app works db)
    (listed : pair ∈ db.breedPair.rows) :
    Numbered db pair.id (min pair.currentLevel app.config.targetLevel) ∨
      pair.currentLevel < app.config.targetLevel ∧
      Numbered db pair.id (pair.currentLevel + 1) ∧
      ∃ thread, (works thread).Climbs pair.id (pair.currentLevel + 1) := by
  have standing : Standing db pair.id pair.currentLevel :=
    ⟨pair, listed, rfl, rfl⟩
  by_cases claimed : ∃ level ∈ db.breedLevel.rows,
      level.pairId = pair.id ∧ level.level = pair.currentLevel + 1
  · obtain ⟨top, stored, owner, number⟩ := claimed
    have range := climbing.ranged top stored
    refine .inr ⟨by omega, numbered_of_mem climbing fun position => ?_, ?_⟩
    · constructor
      · rintro ⟨level, present, mine, rfl⟩
        obtain ⟨count, counted, place⟩ := climbing.placed level present
        rw [mine] at counted
        obtain rfl := counted.unique standing
        have positive := (climbing.ranged level present).1
        rcases place with below | ⟨next, -⟩ <;> omega
      · rintro ⟨positive, within⟩
        rcases within.eq_or_lt with rfl | below
        · exact ⟨top, stored, owner, number⟩
        · exact climbing.covered _ _ standing position positive (by omega)
            (by omega)
    · obtain ⟨count, counted, place⟩ := climbing.placed top stored
      rw [owner] at counted
      obtain rfl := counted.unique standing
      rcases place with below | ⟨-, -, thread, climbs⟩
      · omega
      · rw [owner, number] at climbs
        exact ⟨thread, climbs⟩
  · refine .inl (numbered_of_mem climbing fun position => ?_)
    constructor
    · rintro ⟨level, present, mine, rfl⟩
      obtain ⟨count, counted, place⟩ := climbing.placed level present
      rw [mine] at counted
      obtain rfl := counted.unique standing
      obtain ⟨positive, within⟩ := climbing.ranged level present
      rcases place with below | ⟨next, -⟩
      · omega
      · exact absurd ⟨level, present, mine, next⟩ claimed
    · rintro ⟨positive, within⟩
      exact climbing.covered _ _ standing position positive (by omega)
        (by omega)

end Ladders

section Pairs

variable {ι : Type} [DecidableEq ι] {app : App} {admitted : Oracle → Prop}
  {requests : ι → Request} {db : Db} {steps : List (ServerStep ι)}
  {final : Server ι}

/-- However the requests are interleaved, the levels of every pair are in order
up to its counter, and at most one more is stored, by a request that has not
ended and has not counted it yet. -/
theorem levels_in_order (rested : Rested app admitted db)
    (interleaving : Interleaving app admitted requests db steps final) :
    ∀ pair ∈ final.store.breedPair.rows, Climbed app final.store pair ∧
      (Numbered final.store pair.id
          (min pair.currentLevel app.config.targetLevel) ∨
        pair.currentLevel < app.config.targetLevel ∧
        Numbered final.store pair.id (pair.currentLevel + 1) ∧
        ∃ thread, Unfinished final thread ∧
          (reached app requests steps thread).work.Climbs pair.id
            (pair.currentLevel + 1)) := by
  intro pair listed
  obtain ⟨keeping, underway⟩ := keeping_of_interleaving rested interleaving
  refine ⟨climbed_of_climbing keeping.climbing listed, ?_⟩
  refine (numbered_of_climbing keeping.climbing listed).imp_right ?_
  rintro ⟨below, numbered, thread, climbs⟩
  refine ⟨below, numbered, thread, unfinished_of_busy underway ?_, climbs⟩
  intro idle
  have climber := climbs.climber
  rw [idle] at climber
  cases climber

end Pairs

section Rivals

theorem rested_breedingAfter (count : Nat) :
    Rested (liveApp .goerli) (fun _ => True) (breedingAfter count) :=
  Rested.empty.run (run_breedingAfter (fun _ => trivial) count)

/-- `alice` levels her pair up twice at the same time. -/
def rivalLevels : Bool → Request :=
  fun _ => .levelBreedingUp alice ⟨1, 1, 2⟩

def rivalLevelsAfter (count : Nat) : List (ServerStep Bool) × Server Bool :=
  interleave (liveApp .goerli) rivalLevels (turns count (period 1))
    (breedingAfter 3)

theorem rows_evolve_rivals :
    (states (serving (liveApp .goerli) rivalLevels (breedingAfter 3))
      (rivalLevelsAfter 40).1).Pairwise fun earlier later =>
        Evolves earlier.store later.store :=
  rows_evolve (rested_breedingAfter 3) (interleaving_of_schedule _ _ _ _)

/-- Level 2 is stored and not counted yet. -/
theorem levels_in_order_rivals :
    ∃ pair ∈ (rivalLevelsAfter 34).2.store.breedPair.rows,
      pair.currentLevel = 1 ∧
      (rivalLevelsAfter 34).2.store.breedLevel.rows.length = 2 ∧
      Climbed (liveApp .goerli) (rivalLevelsAfter 34).2.store pair ∧
      (Numbered (rivalLevelsAfter 34).2.store pair.id
          (min pair.currentLevel (liveApp .goerli).config.targetLevel) ∨
        pair.currentLevel < (liveApp .goerli).config.targetLevel ∧
        Numbered (rivalLevelsAfter 34).2.store pair.id
          (pair.currentLevel + 1) ∧
        ∃ thread, Unfinished (rivalLevelsAfter 34).2 thread ∧
          (reached (liveApp .goerli) rivalLevels (rivalLevelsAfter 34).1
            thread).work.Climbs pair.id (pair.currentLevel + 1)) := by
  have between : ∃ pair ∈ (rivalLevelsAfter 34).2.store.breedPair.rows,
      pair.currentLevel = 1 ∧
      (rivalLevelsAfter 34).2.store.breedLevel.rows.length = 2 := by
    rw [rivalLevelsAfter, breedingAfter_succ 2]
    decide +kernel
  obtain ⟨pair, listed, counter, stored⟩ := between
  exact ⟨pair, listed, counter, stored,
    levels_in_order (rested_breedingAfter 3)
      (interleaving_of_schedule (liveApp .goerli) rivalLevels _ _) pair listed⟩

end Rivals

end BudBreeding.Concurrency
