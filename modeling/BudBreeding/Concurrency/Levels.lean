import BudBreeding.Concurrency.Terms

namespace BudBreeding.Concurrency

open Data Program Backend Lifecycle

/-! The levels of the pairs while requests are under way: a request that has
stored a level holds the counter of the pair until it moves it there. -/

/-- The counter of a pair. -/
def Standing (db : Db) (pairId count : Int) : Prop :=
  ∃ pair ∈ db.breedPair.rows, pair.id = pairId ∧ pair.currentLevel = count

theorem Standing.unique {db : Db} {pairId count other : Int}
    (standing : Standing db pairId count) (also : Standing db pairId other) :
    count = other := by
  obtain ⟨pair, listed, rfl, rfl⟩ := standing
  obtain ⟨row, present, same, rfl⟩ := also
  rw [db.breedPair.eq_of_key_eq present listed same]

/-- The request has stored level `number` of the pair and not counted it. -/
def Work.Climbs (work : Work) (pairId number : Int) : Prop :=
  (∃ levelId, work = .raising pairId number levelId) ∨
    work = .raised pairId number

theorem Work.Climbs.climber {work : Work} {pairId number : Int}
    (climbs : work.Climbs pairId number) : work.climber = some pairId := by
  rcases climbs with ⟨levelId, rfl⟩ | rfl <;> rfl

theorem Work.exists_climbs {work : Work} {pairId : Int}
    (climber : work.climber = some pairId) :
    ∃ number, work.Climbs pairId number := by
  cases work with
  | raising other number levelId =>
      cases climber
      exact ⟨number, .inl ⟨levelId, rfl⟩⟩
  | raised other number =>
      cases climber
      exact ⟨number, .inr rfl⟩
  | idle => cases climber
  | issuing bud => cases climber
  | signed id signature => cases climber

def rungOf (db : Db) (level : BreedLevel) : Rung :=
  ⟨level, budsOf db level.id⟩

variable {ι : Type}

/-- A level is counted, or it is the next one and some request is about to count
it. -/
def Placed (works : ι → Work) (db : Db) (level : BreedLevel) : Prop :=
  ∃ count, Standing db level.pairId count ∧
    (level.level ≤ count ∨
      level.level = count + 1 ∧ level.maleBreedBudId = none ∧
        ∃ thread, (works thread).Climbs level.pairId level.level)

/-- What a request that has stored a level knows of its pair. -/
structure Ascending (db : Db) (pairId number : Int) : Prop where
  standing : Standing db pairId (number - 1)
  stored : ∃ level ∈ db.breedLevel.rows,
    level.pairId = pairId ∧ level.level = number
  climbed : number = 1 ∨ LevelRecorded db pairId (number - 1)

structure Climbing (app : App) (works : ι → Work) (db : Db) : Prop where
  bounded : ∀ pairId count, Standing db pairId count →
    0 ≤ count ∧ count ≤ app.config.targetLevel + 1
  covered : ∀ pairId count, Standing db pairId count → ∀ number, 1 ≤ number →
    number ≤ count → number ≤ app.config.targetLevel →
    ∃ level ∈ db.breedLevel.rows,
      level.pairId = pairId ∧ level.level = number
  ranged : ∀ level ∈ db.breedLevel.rows,
    1 ≤ level.level ∧ level.level ≤ app.config.targetLevel
  placed : ∀ level ∈ db.breedLevel.rows, Placed works db level
  unique : ∀ level ∈ db.breedLevel.rows, ∀ other ∈ db.breedLevel.rows,
    level.pairId = other.pairId → level.level = other.level → level = other
  recorded : ∀ level ∈ db.breedLevel.rows, ∀ count,
    Standing db level.pairId count → level.level < count →
    level.maleBreedBudId ≠ none
  evaluated : ∀ level ∈ db.breedLevel.rows,
    (rungOf db level).Unevaluated ∨ (rungOf db level).Evaluated app
  bred : ∀ level ∈ db.breedLevel.rows, (rungOf db level).Bred ∨
    ∃ thread, works thread = .raising level.pairId level.level level.id
  raising : ∀ thread pairId number levelId,
    works thread = .raising pairId number levelId →
    budsOf db levelId = [] ∧ ∃ level ∈ db.breedLevel.rows,
      level.id = levelId ∧ level.pairId = pairId ∧ level.level = number
  buds : ∀ bud ∈ db.breedBud.rows, bud.levelId < db.breedLevel.nextId
  climbers : ∀ thread pairId number,
    (works thread).Climbs pairId number → Ascending db pairId number
  apart : ∀ first second pairId, (works first).climber = some pairId →
    (works second).climber = some pairId → first = second

namespace Climbing

variable {app : App} {works later : ι → Work} {db after : Db}

theorem empty : Climbing app (fun _ : ι => Work.idle) .empty where
  bounded _ _ := by rintro ⟨pair, listed, -⟩; cases listed
  covered _ _ := by rintro ⟨pair, listed, -⟩; cases listed
  ranged _ listed := absurd listed List.not_mem_nil
  placed _ listed := absurd listed List.not_mem_nil
  unique _ listed := absurd listed List.not_mem_nil
  recorded _ listed := absurd listed List.not_mem_nil
  evaluated _ listed := absurd listed List.not_mem_nil
  bred _ listed := absurd listed List.not_mem_nil
  raising _ _ _ _ busy := by cases busy
  buds _ listed := absurd listed List.not_mem_nil
  climbers _ _ _ climbs := by rcases climbs with ⟨_, busy⟩ | busy <;> cases busy
  apart _ _ _ busy := by cases busy

/-- A step that neither moves a counter nor touches a level or its buds. -/
theorem of_same (climbing : Climbing app works db)
    (counters : ∀ pairId count,
      Standing after pairId count ↔ Standing db pairId count)
    (levels : after.breedLevel = db.breedLevel)
    (buds : after.breedBud = db.breedBud)
    (busy : ∀ thread, later thread = works thread ∨
      (works thread).climber = none ∧ (later thread).climber = none) :
    Climbing app later after := by
  have climbs : ∀ thread pairId number,
      (later thread).Climbs pairId number ↔
        (works thread).Climbs pairId number := by
    intro thread pairId number
    rcases busy thread with same | ⟨before, afterwards⟩
    · rw [same]
    · constructor
      all_goals
        intro climbs
        have climber := climbs.climber
        simp_all
  have raising : ∀ thread pairId number levelId,
      later thread = .raising pairId number levelId ↔
        works thread = .raising pairId number levelId := by
    intro thread pairId number levelId
    rcases busy thread with same | ⟨before, afterwards⟩
    · rw [same]
    · constructor
      all_goals
        intro raises
        simp_all [Work.climber]
  have climber : ∀ thread, (later thread).climber = (works thread).climber := by
    intro thread
    rcases busy thread with same | ⟨before, afterwards⟩
    · rw [same]
    · rw [before, afterwards]
  have recorded : ∀ pairId number,
      LevelRecorded after pairId number ↔ LevelRecorded db pairId number := by
    intro pairId number
    rw [LevelRecorded, LevelRecorded, levels]
  obtain ⟨bounded, covered, ranged, placed, unique, evaluation, evaluated, bred,
    raisings, owned, climbers, apart⟩ := climbing
  constructor
  · simpa only [counters] using bounded
  · simpa only [counters, levels] using covered
  · simpa only [levels] using ranged
  · simpa only [Placed, levels, counters, climbs] using placed
  · simpa only [levels] using unique
  · simpa only [levels, counters] using evaluation
  · simpa only [levels, rungOf, budsOf, buds] using evaluated
  · simpa only [levels, rungOf, budsOf, buds, raising] using bred
  · simpa only [levels, budsOf, buds, raising] using raisings
  · simpa only [levels, buds] using owned
  · intro thread pairId number
    rw [climbs]
    intro climbing
    obtain ⟨standing, stored, climbed⟩ := climbers thread pairId number climbing
    exact ⟨(counters _ _).mpr standing, levels ▸ stored,
      climbed.imp_right (recorded _ _).mpr⟩
  · simpa only [climber] using apart

section Pairs

theorem standing_createBreedPair {data : BreedPairCreate} {now : Time}
    {pairId count : Int} :
    Standing (db.createBreedPair data now) pairId count ↔
      Standing db pairId count ∨ db.breedPair.nextId = pairId ∧ 0 = count := by
  constructor
  · rintro ⟨pair, listed, rfl, rfl⟩
    rcases List.mem_append.mp listed with old | new
    · exact .inl ⟨pair, old, rfl, rfl⟩
    · rw [List.mem_singleton.mp new]
      exact .inr ⟨rfl, rfl⟩
  · rintro (⟨pair, listed, same, reached⟩ | ⟨rfl, rfl⟩)
    · exact ⟨pair, List.mem_append_left _ listed, same, reached⟩
    · exact ⟨_, List.mem_append_right _ List.mem_cons_self, rfl, rfl⟩

theorem createBreedPair (climbing : Climbing app works db)
    (data : BreedPairCreate) (now : Time) :
    Climbing app works (db.createBreedPair data now) := by
  have known : ∀ {pairId count}, Standing db pairId count →
      Standing (db.createBreedPair data now) pairId count :=
    fun standing => standing_createBreedPair.mpr (.inl standing)
  have levelless : ∀ level ∈ db.breedLevel.rows,
      level.pairId ≠ db.breedPair.nextId := by
    intro level listed same
    obtain ⟨count, ⟨pair, stored, owner, -⟩, -⟩ := climbing.placed level listed
    have below := db.breedPair.bounded pair stored
    rw [owner, same] at below
    exact lt_irrefl _ below
  have old : ∀ level ∈ db.breedLevel.rows, ∀ {count},
      Standing (db.createBreedPair data now) level.pairId count →
      Standing db level.pairId count := by
    intro level listed count standing
    rcases standing_createBreedPair.mp standing with before | ⟨same, -⟩
    · exact before
    · exact absurd same.symm (levelless level listed)
  constructor
  · intro pairId count standing
    rcases standing_createBreedPair.mp standing with before | ⟨-, rfl⟩
    · exact climbing.bounded pairId count before
    · have positive := app.config.targetLevel_pos
      omega
  · intro pairId count standing number positive within
    rcases standing_createBreedPair.mp standing with before | ⟨-, rfl⟩
    · exact climbing.covered pairId count before number positive within
    · omega
  · exact climbing.ranged
  · intro level listed
    obtain ⟨count, standing, place⟩ := climbing.placed level listed
    exact ⟨count, known standing, place⟩
  · exact climbing.unique
  · exact fun level listed count standing =>
      climbing.recorded level listed count (old level listed standing)
  · exact climbing.evaluated
  · exact climbing.bred
  · exact climbing.raising
  · exact climbing.buds
  · intro thread pairId number climbs
    obtain ⟨standing, stored, climbed⟩ :=
      climbing.climbers thread pairId number climbs
    exact ⟨known standing, stored, climbed⟩
  · exact climbing.apart

theorem standing_status {filter : BreedPair → Bool} {status : BreedPairStatus}
    {pairId count : Int} :
    Standing (db.updateBreedPair filter (.status status)) pairId count ↔
      Standing db pairId count := by
  constructor
  · rintro ⟨pair, listed, rfl, rfl⟩
    rcases Serial.of_mem_modify listed with ⟨old, stored, -, rfl⟩ | ⟨stored, -⟩
    · exact ⟨old, stored, rfl, rfl⟩
    · exact ⟨pair, stored, rfl, rfl⟩
  · rintro ⟨pair, listed, rfl, rfl⟩
    refine ⟨_, Serial.mem_modify.mpr ⟨pair, listed, rfl⟩, ?_⟩
    split <;> exact ⟨rfl, rfl⟩

theorem standing_counter {id value pairId count : Int} :
    Standing (db.updateBreedPair (fun pair => pair.id = id)
        (.currentLevel value)) pairId count ↔
      (pairId ≠ id ∧ Standing db pairId count) ∨
        pairId = id ∧ count = value ∧ ∃ before, Standing db id before := by
  constructor
  · rintro ⟨pair, listed, rfl, rfl⟩
    rcases Serial.of_mem_modify listed with
      ⟨old, stored, chosen, rfl⟩ | ⟨stored, passed⟩
    · have same : old.id = id := of_decide_eq_true chosen
      exact .inr ⟨same, rfl, _, old, stored, same, rfl⟩
    · exact .inl ⟨of_decide_eq_false passed, pair, stored, rfl, rfl⟩
  · rintro (⟨other, pair, listed, rfl, rfl⟩ |
      ⟨rfl, rfl, _, pair, listed, rfl, -⟩)
    · refine ⟨_, Serial.mem_modify.mpr ⟨pair, listed, rfl⟩, ?_⟩
      rw [if_neg (by simpa using other)]
      exact ⟨rfl, rfl⟩
    · refine ⟨_, Serial.mem_modify.mpr ⟨pair, listed, rfl⟩, ?_⟩
      rw [if_pos (by simp)]
      exact ⟨rfl, rfl⟩

end Pairs

section Counters

variable [DecidableEq ι] {thread : ι} {id value : Int}

/-- Moving a counter to `value` when all the levels up to it are stored, those
below it evaluated, and nobody but `thread` is adding one. -/
theorem count (climbing : Climbing app works db)
    (idle : ∀ other, (works other).climber = some id → other = thread)
    (bounded : 0 ≤ value ∧ value ≤ app.config.targetLevel + 1)
    (covered : ∀ number, 1 ≤ number → number ≤ value →
      number ≤ app.config.targetLevel → ∃ level ∈ db.breedLevel.rows,
        level.pairId = id ∧ level.level = number)
    (reached : ∀ level ∈ db.breedLevel.rows, level.pairId = id →
      level.level ≤ value ∧
        (level.level < value → level.maleBreedBudId ≠ none))
    (released : ∀ level ∈ db.breedLevel.rows, (rungOf db level).Bred ∨
      ∃ other ≠ thread,
        works other = .raising level.pairId level.level level.id)
    (owner : ∀ other, (works thread).climber = some other → other = id) :
    Climbing app (Function.update works thread .idle)
      (db.updateBreedPair (fun pair => pair.id = id)
        (.currentLevel value)) := by
  have others : ∀ other pairId number,
      (Function.update works thread .idle other).Climbs pairId number →
      other ≠ thread ∧ pairId ≠ id ∧ (works other).Climbs pairId number := by
    intro other pairId number climbs
    by_cases same : other = thread
    · rw [same, Function.update_self] at climbs
      rcases climbs with ⟨_, busy⟩ | busy <;> cases busy
    · rw [Function.update_of_ne same] at climbs
      refine ⟨same, ?_, climbs⟩
      rintro rfl
      exact same (idle other climbs.climber)
  constructor
  · intro pairId count standing
    rcases standing_counter.mp standing with ⟨-, before⟩ | ⟨-, rfl, -⟩
    · exact climbing.bounded pairId count before
    · exact bounded
  · intro pairId count standing number positive within
    rcases standing_counter.mp standing with ⟨-, before⟩ | ⟨rfl, rfl, -⟩
    · exact climbing.covered pairId count before number positive within
    · exact covered number positive within
  · exact climbing.ranged
  · intro level listed
    obtain ⟨count, standing, place⟩ := climbing.placed level listed
    by_cases same : level.pairId = id
    · refine ⟨value, standing_counter.mpr (.inr ⟨same, rfl, count, ?_⟩),
        .inl (reached level listed same).1⟩
      rw [← same]
      exact standing
    · refine ⟨count, standing_counter.mpr (.inl ⟨same, standing⟩),
        place.imp_right ?_⟩
      rintro ⟨next, bare, other, climbs⟩
      refine ⟨next, bare, other, ?_⟩
      have different : other ≠ thread := by
        rintro rfl
        exact same (owner _ climbs.climber)
      rw [Function.update_of_ne different]
      exact climbs
  · exact climbing.unique
  · intro level listed count standing
    rcases standing_counter.mp standing with ⟨-, before⟩ | ⟨same, rfl, -⟩
    · exact climbing.recorded level listed count before
    · exact (reached level listed same).2
  · exact climbing.evaluated
  · intro level listed
    refine (released level listed).imp_right ?_
    rintro ⟨other, different, raising⟩
    exact ⟨other, by rw [Function.update_of_ne different, raising]⟩
  · intro other pairId number levelId raising
    obtain ⟨different, -, -⟩ := others other pairId number (.inl ⟨_, raising⟩)
    rw [Function.update_of_ne different] at raising
    exact climbing.raising other pairId number levelId raising
  · exact climbing.buds
  · intro other pairId number climbs
    obtain ⟨-, apart, before⟩ := others other pairId number climbs
    obtain ⟨standing, stored, climbed⟩ :=
      climbing.climbers other pairId number before
    exact ⟨standing_counter.mpr (.inl ⟨apart, standing⟩), stored, climbed⟩
  · intro first second pairId left right
    have still : ∀ other, (Function.update works thread .idle other).climber =
        some pairId → (works other).climber = some pairId := by
      intro other climber
      by_cases same : other = thread
      · rw [same, Function.update_self] at climber
        cases climber
      · rwa [Function.update_of_ne same] at climber
    exact climbing.apart first second pairId (still first left)
      (still second right)

theorem count_raised (climbing : Climbing app works db)
    (raised : works thread = .raised id value) :
    Climbing app (Function.update works thread .idle)
      (db.updateBreedPair (fun pair => pair.id = id)
        (.currentLevel value)) := by
  obtain ⟨standing, ⟨top, stored, owner, number⟩, climbed⟩ :=
    climbing.climbers thread id value (.inr raised)
  have range := climbing.ranged top stored
  refine climbing.count ?_ ?_ ?_ ?_ ?_ ?_
  · intro other climber
    exact climbing.apart other thread id climber (by rw [raised]; rfl)
  · omega
  · intro position positive within reachable
    rcases within.eq_or_lt with rfl | below
    · exact ⟨top, stored, owner, number⟩
    · exact climbing.covered id _ standing position positive (by omega)
        reachable
  · intro level listed same
    obtain ⟨count, counted, place⟩ := climbing.placed level listed
    rw [same] at counted
    obtain rfl := counted.unique standing
    refine ⟨by rcases place with below | ⟨next, -⟩ <;> omega, ?_⟩
    intro below
    by_cases last : level.level = value - 1
    · rcases climbed with first | ⟨row, present, mine, position, evaluated⟩
      · have positive := (climbing.ranged level listed).1
        omega
      · rw [climbing.unique level listed row present (same.trans mine.symm)
          (last.trans position.symm)]
        exact evaluated
    · exact climbing.recorded level listed _ (same ▸ standing) (by omega)
  · intro level listed
    refine (climbing.bred level listed).imp_right ?_
    rintro ⟨other, raising⟩
    refine ⟨other, ?_, raising⟩
    rintro rfl
    rw [raised] at raising
    cases raising
  · intro other climber
    rw [raised] at climber
    cases climber
    rfl

/-- The last level is evaluated: the counter moves past it. -/
theorem count_beyond (climbing : Climbing app works db)
    (idle : works thread = .idle) (known : ∃ count, Standing db id count)
    (last : LevelRecorded db id app.config.targetLevel) :
    Climbing app (Function.update works thread .idle)
      (db.updateBreedPair (fun pair => pair.id = id)
        (.currentLevel (app.config.targetLevel + 1))) := by
  obtain ⟨count, standing⟩ := known
  obtain ⟨top, stored, owner, number, evaluated⟩ := last
  have arrived : app.config.targetLevel ≤ count := by
    obtain ⟨other, counted, place⟩ := climbing.placed top stored
    rw [owner] at counted
    obtain rfl := counted.unique standing
    rcases place with below | ⟨-, bare, -⟩
    · omega
    · exact absurd bare evaluated
  have positive := app.config.targetLevel_pos
  refine climbing.count ?_ ?_ ?_ ?_ ?_ ?_
  · intro other climber
    -- A request that climbs this pair would have stored a level past the last.
    obtain ⟨next, climbs⟩ := Work.exists_climbs climber
    obtain ⟨before, ⟨level, listed, -, position⟩, -⟩ :=
      climbing.climbers other id next climbs
    have same := before.unique standing
    have range := climbing.ranged level listed
    omega
  · omega
  · intro position first within reachable
    exact climbing.covered id count standing position first (by omega) reachable
  · intro level listed same
    have range := climbing.ranged level listed
    refine ⟨by omega, fun _ => ?_⟩
    by_cases final : level.level = app.config.targetLevel
    · rw [climbing.unique level listed top stored (same.trans owner.symm)
        (final.trans number.symm)]
      exact evaluated
    · exact climbing.recorded level listed count (same ▸ standing) (by omega)
  · intro level listed
    refine (climbing.bred level listed).imp_right ?_
    rintro ⟨other, raising⟩
    refine ⟨other, ?_, raising⟩
    rintro rfl
    rw [idle] at raising
    cases raising
  · intro other climber
    rw [idle] at climber
    cases climber

end Counters

section Levels

variable {thread : ι}

theorem levelRecorded_createBreedLevel {data : BreedLevelCreate} {now : Time}
    {pairId number : Int} (recorded : LevelRecorded db pairId number) :
    LevelRecorded (db.createBreedLevel data now) pairId number := by
  obtain ⟨level, listed, given⟩ := recorded
  exact ⟨level, List.mem_append_left _ listed, given⟩

/-- The unique index of the levels is a lock: who stores the next level of a pair
is alone in doing so. -/
theorem createBreedLevel [DecidableEq ι] (climbing : Climbing app works db)
    {holder : Option Address} {data : BreedLevelCreate} {now : Time}
    (idle : works thread = .idle) (bonusless : data.bonusRate = 0)
    (may : MayRaise app db holder data.pairId data.level)
    (free : ¬ ∃ other ∈ db.breedLevel.rows,
      other.pairId = data.pairId ∧ other.level = data.level) :
    Climbing app
      (Function.update works thread
        (.raising data.pairId data.level db.breedLevel.nextId))
      (db.createBreedLevel data now) := by
  obtain ⟨begun, bounded, ⟨pair, held, owner, -, reachable⟩, climbed⟩ := may
  have standing : Standing db data.pairId (data.level - 1) := by
    refine ⟨pair, held, owner, ?_⟩
    by_contra further
    exact free (climbing.covered data.pairId pair.currentLevel
      ⟨pair, held, owner, rfl⟩ data.level begun (by omega) bounded)
  have alone : ∀ other number, ¬ (works other).Climbs data.pairId number := by
    intro other number climbs
    obtain ⟨before, ⟨level, listed, mine, position⟩, -⟩ :=
      climbing.climbers other data.pairId number climbs
    have same := before.unique standing
    exact free ⟨level, listed, mine, by omega⟩
  have others : ∀ other, other ≠ thread → (Function.update works thread
      (.raising data.pairId data.level db.breedLevel.nextId)) other =
        works other :=
    fun other different => Function.update_of_ne different _ _
  have unclaimed : ∀ {pairId number}, ¬ (works thread).Climbs pairId number := by
    intro pairId number climbs
    rw [idle] at climbs
    rcases climbs with ⟨_, busy⟩ | busy <;> cases busy
  have fresh : budsOf (db.createBreedLevel data now) db.breedLevel.nextId =
      [] := by
    refine List.filter_eq_nil_iff.mpr fun bud listed same => ?_
    have below := climbing.buds bud listed
    rw [of_decide_eq_true same] at below
    exact lt_irrefl _ below
  have newest : data.row now db.breedLevel.nextId ∈
      (db.createBreedLevel data now).breedLevel.rows :=
    List.mem_append_right _ List.mem_cons_self
  constructor
  · exact climbing.bounded
  · intro pairId count counted number positive within reached
    obtain ⟨level, listed, given⟩ := climbing.covered pairId count counted
      number positive within reached
    exact ⟨level, List.mem_append_left _ listed, given⟩
  · intro level listed
    rcases List.mem_append.mp listed with old | new
    · exact climbing.ranged level old
    · rw [List.mem_singleton.mp new]
      exact ⟨begun, bounded⟩
  · intro level listed
    rcases List.mem_append.mp listed with old | new
    · obtain ⟨count, counted, place⟩ := climbing.placed level old
      refine ⟨count, counted, place.imp_right ?_⟩
      rintro ⟨next, bare, other, climbs⟩
      refine ⟨next, bare, other, ?_⟩
      rw [others other]
      · exact climbs
      · rintro rfl
        exact unclaimed climbs
    · rw [List.mem_singleton.mp new]
      refine ⟨data.level - 1, standing, .inr ⟨?_, rfl, thread, ?_⟩⟩
      · exact (sub_add_cancel data.level 1).symm
      · rw [Function.update_self]
        exact .inl ⟨_, rfl⟩
  · intro level listed other present samePair sameLevel
    rcases List.mem_append.mp listed with old | new
    · rcases List.mem_append.mp present with older | newer
      · exact climbing.unique level old other older samePair sameLevel
      · rw [List.mem_singleton.mp newer] at samePair sameLevel
        exact absurd ⟨level, old, samePair, sameLevel⟩ free
    · rcases List.mem_append.mp present with older | newer
      · rw [List.mem_singleton.mp new] at samePair sameLevel
        exact absurd ⟨other, older, samePair.symm, sameLevel.symm⟩ free
      · rw [List.mem_singleton.mp new, List.mem_singleton.mp newer]
  · intro level listed count counted below
    rcases List.mem_append.mp listed with old | new
    · exact climbing.recorded level old count counted below
    · rw [List.mem_singleton.mp new] at counted below
      have same := standing.unique counted
      change data.level < count at below
      omega
  · intro level listed
    rcases List.mem_append.mp listed with old | new
    · exact climbing.evaluated level old
    · rw [List.mem_singleton.mp new]
      exact .inl ⟨bonusless, rfl, rfl⟩
  · intro level listed
    rcases List.mem_append.mp listed with old | new
    · refine (climbing.bred level old).imp_right ?_
      rintro ⟨other, raising⟩
      refine ⟨other, ?_⟩
      rw [others other]
      · exact raising
      · rintro rfl
        exact unclaimed (.inl ⟨_, raising⟩)
    · rw [List.mem_singleton.mp new]
      exact .inr ⟨thread, Function.update_self _ _ _⟩
  · intro other pairId number levelId raising
    by_cases same : other = thread
    · rw [same, Function.update_self] at raising
      cases raising
      exact ⟨fresh, _, newest, rfl, rfl, rfl⟩
    · rw [others other same] at raising
      obtain ⟨bare, level, listed, given⟩ :=
        climbing.raising other pairId number levelId raising
      exact ⟨bare, level, List.mem_append_left _ listed, given⟩
  · intro bud listed
    exact (climbing.buds bud listed).trans (Int.lt_succ _)
  · intro other pairId number climbs
    by_cases same : other = thread
    · rw [same, Function.update_self] at climbs
      have named : pairId = data.pairId ∧ number = data.level := by
        rcases climbs with ⟨_, busy⟩ | busy
        · cases busy
          exact ⟨rfl, rfl⟩
        · cases busy
      obtain ⟨rfl, rfl⟩ := named
      exact ⟨standing, ⟨_, newest, rfl, rfl⟩,
        climbed.imp_right levelRecorded_createBreedLevel⟩
    · rw [others other same] at climbs
      obtain ⟨counted, ⟨level, listed, given⟩, evaluated⟩ :=
        climbing.climbers other pairId number climbs
      exact ⟨counted, ⟨level, List.mem_append_left _ listed, given⟩,
        evaluated.imp_right levelRecorded_createBreedLevel⟩
  · intro first second pairId left right
    have elsewhere : ∀ other, other ≠ thread →
        (works other).climber ≠ some data.pairId := by
      intro other _ climber
      obtain ⟨number, climbs⟩ := Work.exists_climbs climber
      exact alone other number climbs
    by_cases one : first = thread
    · by_cases two : second = thread
      · rw [one, two]
      · rw [one, Function.update_self] at left
        cases left
        rw [others second two] at right
        exact absurd right (elsewhere second two)
    · rw [others first one] at left
      by_cases two : second = thread
      · rw [two, Function.update_self] at right
        cases right
        exact absurd left (elsewhere first one)
      · rw [others second two] at right
        exact climbing.apart first second pairId left right

theorem of_updateBreedLevel {id : Int} {data : BreedLevelUpdate}
    {level : BreedLevel}
    (listed : level ∈ (db.updateBreedLevel (fun row => row.id = id)
      data).breedLevel.rows) :
    ∃ old ∈ db.breedLevel.rows, level.id = old.id ∧
      level.pairId = old.pairId ∧ level.level = old.level ∧
      (level = old ∨ old.id = id ∧ level = data.apply old) := by
  rcases Serial.of_mem_modify listed with
    ⟨old, stored, chosen, rfl⟩ | ⟨stored, -⟩
  · exact ⟨old, stored, rfl, rfl, rfl,
      .inr ⟨of_decide_eq_true chosen, rfl⟩⟩
  · exact ⟨level, stored, rfl, rfl, rfl, .inl rfl⟩

theorem exists_updateBreedLevel {id : Int} {data : BreedLevelUpdate}
    {level : BreedLevel} (listed : level ∈ db.breedLevel.rows) :
    ∃ row ∈ (db.updateBreedLevel (fun row => row.id = id)
        data).breedLevel.rows, row.id = level.id ∧
      row.pairId = level.pairId ∧ row.level = level.level ∧
      (level.maleBreedBudId ≠ none → row.maleBreedBudId ≠ none) := by
  refine ⟨_, Serial.mem_modify.mpr ⟨level, listed, rfl⟩, ?_⟩
  split
  · exact ⟨rfl, rfl, rfl, fun _ => Option.some_ne_none _⟩
  · exact ⟨rfl, rfl, rfl, fun recorded => recorded⟩

theorem updateBreedLevel (climbing : Climbing app works db) {id : Int}
    {data : BreedLevelUpdate} (chosen : Chosen app db id data)
    (counted : ∃ level ∈ db.breedLevel.rows, level.id = id ∧
      ∃ pair ∈ db.breedPair.rows, pair.id = level.pairId ∧
        level.level ≤ pair.currentLevel) :
    Climbing app works
      (db.updateBreedLevel (fun level => level.id = id) data) := by
  obtain ⟨target, stored, named, pair, held, owner, within⟩ := counted
  have recorded : ∀ pairId number, LevelRecorded db pairId number →
      LevelRecorded (db.updateBreedLevel (fun level => level.id = id) data)
        pairId number := by
    intro pairId number given
    obtain ⟨level, listed, mine, position, evaluated⟩ := given
    obtain ⟨row, present, -, samePair, sameLevel, kept⟩ :=
      exists_updateBreedLevel listed
    exact ⟨row, present, samePair.trans mine, sameLevel.trans position,
      kept evaluated⟩
  constructor
  · exact climbing.bounded
  · intro pairId count standing number positive within reached
    obtain ⟨level, listed, mine, position⟩ := climbing.covered pairId count
      standing number positive within reached
    obtain ⟨row, present, -, samePair, sameLevel, -⟩ :=
      exists_updateBreedLevel listed
    exact ⟨row, present, samePair.trans mine, sameLevel.trans position⟩
  · intro level listed
    obtain ⟨old, before, -, -, sameLevel, -⟩ := of_updateBreedLevel listed
    rw [sameLevel]
    exact climbing.ranged old before
  · intro level listed
    obtain ⟨old, before, -, samePair, sameLevel, changed⟩ :=
      of_updateBreedLevel listed
    obtain ⟨count, standing, place⟩ := climbing.placed old before
    rw [Placed, samePair, sameLevel]
    rcases changed with rfl | ⟨same, rfl⟩
    · exact ⟨count, standing, place⟩
    · obtain rfl := db.breedLevel.eq_of_key_eq before stored
        (same.trans named.symm)
      exact ⟨pair.currentLevel, ⟨pair, held, owner, rfl⟩, .inl within⟩
  · intro level listed other present samePair sameLevel
    obtain ⟨old, before, id, mine, position, -⟩ := of_updateBreedLevel listed
    obtain ⟨older, earlier, otherId, theirs, place, -⟩ :=
      of_updateBreedLevel present
    have same := climbing.unique old before older earlier
      (by rw [← mine, ← theirs, samePair]) (by rw [← position, ← place, sameLevel])
    exact (db.updateBreedLevel _ data).breedLevel.eq_of_key_eq listed present
      (by rw [id, otherId, same])
  · intro level listed count standing below
    obtain ⟨old, before, -, samePair, sameLevel, changed⟩ :=
      of_updateBreedLevel listed
    rcases changed with rfl | ⟨-, rfl⟩
    · exact climbing.recorded level before count standing below
    · exact Option.some_ne_none _
  · intro level listed
    obtain ⟨old, before, -, -, -, changed⟩ := of_updateBreedLevel listed
    rcases changed with rfl | ⟨same, rfl⟩
    · exact climbing.evaluated level before
    · obtain ⟨male, maleBred, female, femaleBred, isMale, isFemale, maleId,
        femaleId, total⟩ := chosen
      rw [← same] at maleBred femaleBred
      refine .inr ⟨male, maleBred, female, femaleBred, isMale, isFemale, ?_, ?_,
        total⟩
      · exact congrArg some maleId
      · exact congrArg some femaleId
  · intro level listed
    obtain ⟨old, before, same, samePair, sameLevel, -⟩ :=
      of_updateBreedLevel listed
    have bred := climbing.bred old before
    rw [Rung.Bred, rungOf, ← same, ← samePair, ← sameLevel] at bred
    exact bred
  · intro thread pairId number levelId raising
    obtain ⟨bare, level, listed, given, mine, position⟩ :=
      climbing.raising thread pairId number levelId raising
    obtain ⟨row, present, same, samePair, sameLevel, -⟩ :=
      exists_updateBreedLevel listed
    exact ⟨bare, row, present, same.trans given, samePair.trans mine,
      sameLevel.trans position⟩
  · exact climbing.buds
  · intro thread pairId number climbs
    obtain ⟨standing, ⟨level, listed, mine, position⟩, climbed⟩ :=
      climbing.climbers thread pairId number climbs
    obtain ⟨row, present, -, samePair, sameLevel, -⟩ :=
      exists_updateBreedLevel listed
    exact ⟨standing, ⟨row, present, samePair.trans mine,
      sameLevel.trans position⟩, climbed.imp_right (recorded _ _)⟩
  · exact climbing.apart

end Levels

section Buds

variable {thread : ι} {pairId number levelId : Int}

theorem of_numbered {buds : List Bud} {now : Time} {first : Int} :
    ∀ bud ∈ Serial.numbered (breedBudRow levelId now) first buds,
      bud.levelId = levelId :=
  Serial.forall_numbered (fun bud : BreedBud => bud.levelId = levelId)
    fun _ _ => rfl

theorem budsOf_createBreedBuds {buds : List Bud} {now : Time} {other : Int} :
    budsOf (db.createBreedBuds levelId buds now) other =
      budsOf db other ++ if levelId = other then
        Serial.numbered (breedBudRow levelId now) db.breedBud.nextId buds
      else [] := by
  rw [budsOf, Db.createBreedBuds, Serial.rows_createMany, List.filter_append]
  congr 1
  split
  · next same =>
      refine List.filter_eq_self.mpr fun bud member => ?_
      exact decide_eq_true ((of_numbered bud member).trans same)
  · next different =>
      refine List.filter_eq_nil_iff.mpr fun bud member => ?_
      simpa [of_numbered bud member] using different

/-- The buds of the level are stored by the request that stored the level. -/
theorem createBreedBuds [DecidableEq ι] (climbing : Climbing app works db) {buds : List Bud}
    {now : Time} (busy : works thread = .raising pairId number levelId)
    (genders : buds.map Bud.gender = [.M, .F, .F, .M]) :
    Climbing app (Function.update works thread (.raised pairId number))
      (db.createBreedBuds levelId buds now) := by
  obtain ⟨bare, top, stored, named, owner, position⟩ :=
    climbing.raising thread pairId number levelId busy
  have climbs : ∀ other pair place,
      (Function.update works thread (.raised pairId number) other).Climbs pair
        place ↔ (works other).Climbs pair place := by
    intro other pair place
    by_cases same : other = thread
    · rw [same, Function.update_self, busy]
      simp [Work.Climbs]
    · rw [Function.update_of_ne same]
  have climber : ∀ other,
      (Function.update works thread (.raised pairId number) other).climber =
        (works other).climber := by
    intro other
    by_cases same : other = thread
    · rw [same, Function.update_self, busy]
      rfl
    · rw [Function.update_of_ne same]
  constructor
  · exact climbing.bounded
  · exact climbing.covered
  · exact climbing.ranged
  · intro level listed
    obtain ⟨count, standing, place⟩ := climbing.placed level listed
    refine ⟨count, standing, place.imp_right ?_⟩
    rintro ⟨next, blank, other, claimed⟩
    exact ⟨next, blank, other, (climbs _ _ _).mpr claimed⟩
  · exact climbing.unique
  · exact climbing.recorded
  · intro level listed
    rcases climbing.evaluated level listed with blank | chosen
    · exact .inl ⟨blank.bonusRate, blank.maleBreedBudId,
        blank.femaleBreedBudId⟩
    · obtain ⟨male, maleBred, female, femaleBred, given⟩ := chosen
      have kept : ∀ bud ∈ budsOf db level.id,
          bud ∈ budsOf (db.createBreedBuds levelId buds now) level.id := by
        intro bud member
        rw [budsOf_createBreedBuds]
        exact List.mem_append_left _ member
      exact .inr ⟨male, kept male maleBred, female, kept female femaleBred,
        given⟩
  · intro level listed
    rw [Rung.Bred, rungOf, budsOf_createBreedBuds]
    by_cases same : levelId = level.id
    · left
      rw [if_pos same, ← same, bare, List.nil_append, ← genders]
      apply Serial.map_numbered
      exact fun _ _ => rfl
    · rw [if_neg same, List.append_nil]
      refine (climbing.bred level listed).imp_right ?_
      rintro ⟨other, raising⟩
      refine ⟨other, ?_⟩
      rw [Function.update_of_ne]
      · exact raising
      · rintro rfl
        rw [busy] at raising
        cases raising
        exact same rfl
  · intro other pair place id raising
    have different : other ≠ thread := by
      rintro rfl
      rw [Function.update_self] at raising
      cases raising
    rw [Function.update_of_ne different] at raising
    obtain ⟨blank, level, listed, given, mine, height⟩ :=
      climbing.raising other pair place id raising
    refine ⟨?_, level, listed, given, mine, height⟩
    rw [budsOf_createBreedBuds, blank, List.nil_append, if_neg]
    rintro rfl
    -- Two requests never climb one pair, so they never fill one level.
    obtain rfl := db.breedLevel.eq_of_key_eq listed stored
      (given.trans named.symm)
    apply different
    apply climbing.apart other thread pair
    · rw [raising]
      rfl
    · rw [busy, ← mine, owner]
      rfl
  · intro bud listed
    rw [Db.createBreedBuds, Serial.rows_createMany] at listed
    rcases List.mem_append.mp listed with old | new
    · exact climbing.buds bud old
    · rw [of_numbered bud new, ← named]
      exact db.breedLevel.bounded top stored
  · intro other pair place claimed
    obtain ⟨standing, above, climbed⟩ :=
      climbing.climbers other pair place ((climbs _ _ _).mp claimed)
    exact ⟨standing, above, climbed⟩
  · simpa only [climber] using climbing.apart

end Buds

section Steps

variable [DecidableEq ι] {thread : ι}

omit [DecidableEq ι] in
theorem advance_elsewhere {query : Query}
    (pairs : query.written ≠ some .breedPair)
    (levels : query.written ≠ some .breedLevel)
    (buds : query.written ≠ some .breedBud) (work : Work)
    (answer : query.Answer) :
    work.advance query answer = work ∨
      work.climber = none ∧ (work.advance query answer).climber = none := by
  cases query <;> first
    | exact absurd rfl pairs
    | exact absurd rfl levels
    | exact absurd rfl buds
    | (cases work <;> first
        | exact .inl rfl
        | exact .inr ⟨rfl, rfl⟩)

theorem of_elsewhere (climbing : Climbing app works db) (oracle : Oracle)
    {query : Query} (pairs : query.written ≠ some .breedPair)
    (levels : query.written ≠ some .breedLevel)
    (buds : query.written ≠ some .breedBud) :
    Climbing app
      (Function.update works thread
        ((works thread).advance query (exec oracle query db).1))
      (exec oracle query db).2 := by
  have same := exec_sameBut oracle query db
  refine climbing.of_same ?_ (same.breedLevel levels) (same.breedBud buds) ?_
  · intro pairId count
    rw [Standing, Standing, same.breedPair pairs]
  · intro other
    by_cases here : other = thread
    · rw [here, Function.update_self]
      exact advance_elsewhere pairs levels buds _ _
    · rw [Function.update_of_ne here]
      exact .inl rfl

theorem of_status (climbing : Climbing app works db) (filter : BreedPair → Bool)
    (status : BreedPairStatus) :
    Climbing app (Function.update works thread (works thread))
      (db.updateBreedPair filter (.status status)) := by
  rw [Function.update_eq_self]
  exact climbing.of_same (fun _ _ => standing_status) rfl rfl
    fun _ => .inl rfl

/-- Every query that a request may ask keeps the levels as they should be. -/
theorem step (climbing : Climbing app works db) {holder : Option Address}
    {query : Query} (permitted : permits app ⟨holder, works thread⟩ query db)
    (oracle : Oracle) :
    Climbing app
      (Function.update works thread
        ((works thread).advance query (exec oracle query db).1))
      (exec oracle query db).2 := by
  cases query
  case breedPairCreate data =>
    have unmoved : ∀ answer, (works thread).advance (.breedPairCreate data)
        answer = works thread := by
      intro answer
      cases works thread <;> rfl
    rw [unmoved, Function.update_eq_self]
    simp only [exec]
    split
    · exact climbing
    · exact climbing.createBreedPair data oracle.now
  case breedPairUpdate id data =>
    cases data with
    | status status =>
        have unmoved : ∀ answer, (works thread).advance
            (.breedPairUpdate id (.status status)) answer = works thread := by
          intro answer
          cases works thread <;> rfl
        rw [unmoved]
        exact climbing.of_status _ status
    | currentLevel value =>
        obtain ⟨⟨pair, listed, same, -⟩, raised | ⟨idle, rfl, last⟩⟩ := permitted
        · have raised : works thread = .raised id value := raised
          have advanced : ∀ answer, (works thread).advance
              (.breedPairUpdate id (.currentLevel value)) answer = .idle := by
            intro answer
            rw [raised]
            rfl
          rw [advanced]
          exact climbing.count_raised raised
        · have idle : works thread = .idle := idle
          have advanced : ∀ answer, (works thread).advance
              (.breedPairUpdate id
                (.currentLevel (app.config.targetLevel + 1))) answer =
                .idle := by
            intro answer
            rw [idle]
            rfl
          rw [advanced]
          exact climbing.count_beyond idle ⟨_, pair, listed, same, rfl⟩ last
  case breedPairUpdateMany filter data =>
    obtain ⟨⟨status, -, rfl⟩, -⟩ := permitted
    have unmoved : ∀ answer, (works thread).advance
        (.breedPairUpdateMany filter (.status status)) answer =
          works thread := by
      intro answer
      cases works thread <;> rfl
    rw [unmoved]
    exact climbing.of_status filter status
  case breedLevelCreate data =>
    obtain ⟨idle, bonusless, may⟩ := permitted
    have idle : works thread = .idle := idle
    simp only [exec]
    split
    · have unmoved : (works thread).advance (.breedLevelCreate data)
          (.error .uniqueConstraint) = works thread := by
        rw [idle]
        rfl
      simp only [unmoved, Function.update_eq_self]
      exact climbing
    · next free =>
        have advanced : (works thread).advance (.breedLevelCreate data)
            (.ok (data.row oracle.now db.breedLevel.nextId)) =
              .raising data.pairId data.level db.breedLevel.nextId := by
          rw [idle]
          rfl
        simp only [advanced]
        exact climbing.createBreedLevel idle bonusless may free
  case breedLevelUpdate id data =>
    obtain ⟨chosen, level, listed, same, pair, held, owner, -, within⟩ :=
      permitted
    have unmoved : ∀ answer, (works thread).advance (.breedLevelUpdate id data)
        answer = works thread := by
      intro answer
      cases works thread <;> rfl
    rw [unmoved, Function.update_eq_self]
    exact climbing.updateBreedLevel chosen
      ⟨level, listed, same, pair, held, owner, within⟩
  case breedBudCreateMany levelId buds =>
    obtain ⟨genders, pairId, number, busy, -⟩ := permitted
    have busy : works thread = .raising pairId number levelId := busy
    have advanced : ∀ answer, (works thread).advance
        (.breedBudCreateMany levelId buds) answer = .raised pairId number := by
      intro answer
      rw [busy]
      rfl
    rw [advanced]
    exact climbing.createBreedBuds busy genders
  all_goals
    apply climbing.of_elsewhere
    all_goals simp [Query.written]

end Steps

end Climbing

end BudBreeding.Concurrency
