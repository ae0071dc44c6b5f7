import BudBreeding.Concurrency.Guarantees

namespace BudBreeding.Concurrency

open Data Program Backend

/-! Requests of one user leave alone what belongs to the others. -/

/-- Everything in the database that belongs to a user. -/
structure Holdings where
  user : Option User
  breedPairs : List BreedPair
  breedLevels : List BreedLevel
  breedBuds : List BreedBud
  breedSlots : List BreedSlot
  eventServiceLogs : List EventServiceLog
  gen1Buds : List Gen1Bud
  deriving DecidableEq, Repr

def pairsOf (db : Db) (owner : Address) : List BreedPair :=
  db.breedPair.rows.filter fun pair => pair.userAddress = owner

def levelsOf (db : Db) (owner : Address) : List BreedLevel :=
  db.breedLevel.rows.filter fun level =>
    level.pairId ∈ (pairsOf db owner).map BreedPair.id

def bredOf (db : Db) (owner : Address) : List BreedBud :=
  db.breedBud.rows.filter fun bud =>
    bud.levelId ∈ (levelsOf db owner).map BreedLevel.id

def slotsOf (db : Db) (owner : Address) : List BreedSlot :=
  db.breedSlot.rows.filter fun slot => slot.userAddress = owner

def logsOf (db : Db) (owner : Address) : List EventServiceLog :=
  db.eventServiceLog.rows.filter fun log => log.address = owner

def gen1BudsOf (db : Db) (owner : Address) : List Gen1Bud :=
  db.gen1Bud.rows.filter fun bud => bud.minterAddress = owner

def holdings (db : Db) (owner : Address) : Holdings where
  user := db.user.find owner
  breedPairs := pairsOf db owner
  breedLevels := levelsOf db owner
  breedBuds := bredOf db owner
  breedSlots := slotsOf db owner
  eventServiceLogs := logsOf db owner
  gen1Buds := gen1BudsOf db owner

section Queries

variable {db after : Db} {owner : Address} {holder : Option Address}

theorem apart_of_holdsPair {id : Int} (held : HoldsPair db holder id)
    (other : holder ≠ some owner) : id ∉ (pairsOf db owner).map BreedPair.id := by
  intro member
  obtain ⟨mine, listed, same, rfl⟩ := held
  obtain ⟨pair, selected, named⟩ := List.mem_map.mp member
  obtain ⟨present, theirs⟩ := List.mem_filter.mp selected
  rw [db.breedPair.eq_of_key_eq listed present (same.trans named.symm)] at other
  exact other (congrArg some (of_decide_eq_true theirs))

theorem holdings_congr (user : after.user.find owner = db.user.find owner)
    (pairs : pairsOf after owner = pairsOf db owner)
    (levels : levelsOf after owner = levelsOf db owner)
    (bred : bredOf after owner = bredOf db owner)
    (slots : slotsOf after owner = slotsOf db owner)
    (logs : logsOf after owner = logsOf db owner)
    (buds : gen1BudsOf after owner = gen1BudsOf db owner) :
    holdings after owner = holdings db owner := by
  rw [holdings, user, pairs, levels, bred, slots, logs, buds]
  rfl

/-- With the pairs of a user their levels stay, and with these the buds. -/
theorem holdings_of_pairs (same : Db.SameBut (some .breedPair) db after)
    (pairs : pairsOf after owner = pairsOf db owner) :
    holdings after owner = holdings db owner := by
  have levels : levelsOf after owner = levelsOf db owner := by
    rw [levelsOf, levelsOf, pairs, same.breedLevel (by simp)]
  refine holdings_congr ?_ pairs levels ?_ ?_ ?_ ?_
  · rw [same.user (by simp)]
  · rw [bredOf, bredOf, levels, same.breedBud (by simp)]
  · rw [slotsOf, slotsOf, same.breedSlot (by simp)]
  · rw [logsOf, logsOf, same.eventServiceLog (by simp)]
  · rw [gen1BudsOf, gen1BudsOf, same.gen1Bud (by simp)]

theorem holdings_of_levels {levels : Serial BreedLevel BreedLevel.id}
    (kept : levelsOf { db with breedLevel := levels } owner =
      levelsOf db owner) :
    holdings { db with breedLevel := levels } owner = holdings db owner := by
  refine holdings_congr rfl rfl kept ?_ rfl rfl rfl
  rw [bredOf, bredOf, kept]

theorem pairsOf_updateBreedPair {filter : BreedPair → Bool}
    {data : BreedPairUpdate}
    (apart : ∀ pair ∈ db.breedPair.rows, filter pair = true →
      pair.userAddress ≠ owner) :
    pairsOf (db.updateBreedPair filter data) owner = pairsOf db owner := by
  refine Serial.filter_modify_of_apart fun pair listed chosen => ?_
  have other := apart pair listed chosen
  cases data <;> exact ⟨decide_eq_false other, decide_eq_false other⟩

theorem holdings_setBreedingPoint {address : Address} {column : Int}
    (other : address ≠ owner) :
    holdings (db.setBreedingPoint address column) owner = holdings db owner := by
  refine holdings_congr ?_ rfl rfl rfl rfl rfl rfl
  rw [Db.setBreedingPoint, Table.find_modify]
  cases found : db.user.find owner with
  | none => rfl
  | some user =>
      have named := (Table.find_eq_some.mp found).2
      rw [Option.map_some, if_neg]
      rw [decide_eq_true_iff, named]
      exact other.symm

theorem holdings_upsertUser {address : Address} {signature : String}
    {gameKeyId : Int} (other : address ≠ owner) :
    holdings (db.upsertUser address signature gameKeyId) owner =
      holdings db owner := by
  unfold Db.upsertUser
  split
  · refine holdings_congr ?_ rfl rfl rfl rfl rfl rfl
    rw [Table.find_modify]
    cases found : db.user.find owner with
    | none => rfl
    | some user =>
        have named := (Table.find_eq_some.mp found).2
        rw [Option.map_some, if_neg]
        rw [decide_eq_true_iff, named]
        exact other.symm
  · refine holdings_congr ?_ rfl rfl rfl rfl rfl rfl
    rw [Table.find_insert, if_neg other]

theorem slotsOf_updateBreedSlot {filter : BreedSlot → Bool}
    {data : BreedSlotUpdate}
    (apart : ∀ slot ∈ db.breedSlot.rows, filter slot = true →
      slot.userAddress ≠ owner) :
    slotsOf (db.updateBreedSlot filter data) owner = slotsOf db owner := by
  refine Serial.filter_modify_of_apart fun slot listed chosen => ?_
  have other := apart slot listed chosen
  cases data <;> exact ⟨decide_eq_false other, decide_eq_false other⟩

theorem gen1BudsOf_updateGen1Bud {id : Int} {data : Gen1BudUpdate}
    (apart : ∀ bud ∈ db.gen1Bud.rows, bud.id = id →
      bud.minterAddress ≠ owner) :
    gen1BudsOf (db.updateGen1Bud id data) owner = gen1BudsOf db owner := by
  refine Serial.filter_modify_of_apart fun bud listed chosen => ?_
  have other := apart bud listed (of_decide_eq_true chosen)
  cases data <;> exact ⟨decide_eq_false other, decide_eq_false other⟩

theorem apart_of_holdsSlot {id : Int} (held : HoldsSlot db holder id)
    (other : holder ≠ some owner) :
    ∀ slot ∈ db.breedSlot.rows, slot.id = id → slot.userAddress ≠ owner := by
  rintro slot listed same rfl
  obtain ⟨mine, present, named, rfl⟩ := held
  rw [db.breedSlot.eq_of_key_eq listed present (same.trans named.symm)] at other
  exact other rfl

theorem apart_of_holdsBud {id : Int} (held : HoldsBud db holder id)
    (other : holder ≠ some owner) :
    ∀ bud ∈ db.gen1Bud.rows, bud.id = id → bud.minterAddress ≠ owner := by
  rintro bud listed same rfl
  obtain ⟨mine, present, named, rfl⟩ := held
  rw [db.gen1Bud.eq_of_key_eq listed present (same.trans named.symm)] at other
  exact other rfl

theorem apart_of_held {id : Int} (held : HoldsPair db holder id)
    (other : holder ≠ some owner) :
    ∀ pair ∈ db.breedPair.rows, pair.id = id → pair.userAddress ≠ owner := by
  rintro pair listed same rfl
  obtain ⟨mine, present, named, rfl⟩ := held
  rw [db.breedPair.eq_of_key_eq listed present (same.trans named.symm)] at other
  exact other rfl

variable {ι : Type} {app : App} {works : ι → Work} {thread : ι}

/-- A query asked for one user leaves alone what any other one holds. -/
theorem holdings_step (climbing : Climbing app works db) {query : Query}
    (permitted : permits app ⟨holder, works thread⟩ query db)
    (someone : holder ≠ none) (other : holder ≠ some owner) (oracle : Oracle) :
    holdings (exec oracle query db).2 owner = holdings db owner := by
  have stranger : ∀ {user : Address}, holder = some user → user ≠ owner :=
    fun same own => other (same.trans (congrArg some own))
  cases query
  case userUpdate address value =>
    simp only [exec]
    split
    · rfl
    · exact holdings_setBreedingPoint (stranger permitted)
  case userUpsert address signature gameKeyId =>
    simp only [exec]
    split
    · exact holdings_upsertUser (stranger permitted)
    · rfl
  case breedPairCreate data =>
    have own : data.userAddress ≠ owner := stranger permitted.1
    simp only [exec]
    split
    · rfl
    · refine holdings_of_pairs (by constructor <;> simp [Db.createBreedPair]) ?_
      exact filter_append_of_apart (by simpa [BreedPairCreate.row] using own)
  case breedPairUpdate id data =>
    have held : HoldsPair db holder id := by
      cases data with
      | status status => exact permitted.2
      | currentLevel value => exact permitted.1
    refine holdings_of_pairs (exec_sameBut oracle (.breedPairUpdate id data) db) ?_
    exact pairsOf_updateBreedPair fun pair listed chosen =>
      apart_of_held held other pair listed (of_decide_eq_true chosen)
  case breedPairUpdateMany filter data =>
    refine holdings_of_pairs
      (exec_sameBut oracle (.breedPairUpdateMany filter data) db) ?_
    refine pairsOf_updateBreedPair fun pair listed chosen => ?_
    exact stranger ((permitted.2 pair listed chosen).resolve_right someone)
  case breedLevelCreate data =>
    obtain ⟨-, -, -, -, ⟨pair, listed, same, owned, -⟩, -⟩ := permitted
    have outside := apart_of_holdsPair ⟨pair, listed, same, owned⟩ other
    simp only [exec]
    split
    · rfl
    · refine holdings_of_levels (filter_append_of_apart fun row member => ?_)
      rw [List.mem_singleton.mp member]
      exact decide_eq_false outside
  case breedLevelUpdate id data =>
    obtain ⟨-, level, listed, same, pair, held, mine, owned, -⟩ := permitted
    have outside := apart_of_holdsPair ⟨pair, held, mine, owned⟩ other
    refine holdings_of_levels ?_
    refine Serial.filter_modify_of_apart fun row present chosen => ?_
    obtain rfl := db.breedLevel.eq_of_key_eq present listed
      ((of_decide_eq_true chosen).trans same.symm)
    exact ⟨decide_eq_false outside, decide_eq_false outside⟩
  case breedBudCreateMany levelId buds =>
    obtain ⟨-, pairId, number, busy, held⟩ := permitted
    obtain ⟨-, level, listed, named, mine, -⟩ :=
      climbing.raising thread pairId number levelId busy
    have outside := apart_of_holdsPair held other
    refine holdings_congr rfl rfl rfl ?_ rfl rfl rfl
    change (db.createBreedBuds levelId buds oracle.now).breedBud.rows.filter _ = _
    rw [Db.createBreedBuds, Serial.rows_createMany]
    refine filter_append_of_apart fun bud member => decide_eq_false fun theirs => ?_
    rw [Climbing.of_numbered bud member] at theirs
    obtain ⟨row, selected, same⟩ := List.mem_map.mp theirs
    obtain ⟨present, owned⟩ := List.mem_filter.mp selected
    obtain rfl := db.breedLevel.eq_of_key_eq present listed
      (same.trans named.symm)
    rw [mine] at owned
    exact outside (of_decide_eq_true owned)
  case breedSlotCreateMany data =>
    simp only [exec]
    split
    · refine holdings_congr rfl rfl rfl rfl ?_ rfl rfl
      change (db.createBreedSlots data).breedSlot.rows.filter _ = _
      rw [Db.rows_createBreedSlots]
      refine filter_append_of_apart fun slot member => ?_
      obtain ⟨entry, listed, id, rfl⟩ := Serial.of_mem_numbered member
      exact decide_eq_false (stranger (permitted entry listed))
    · rfl
  case breedSlotUpdate id data =>
    refine holdings_congr rfl rfl rfl rfl ?_ rfl rfl
    exact slotsOf_updateBreedSlot fun slot listed chosen =>
      apart_of_holdsSlot permitted.2 other slot listed
        (of_decide_eq_true chosen)
  case breedSlotUpdateMany filter data =>
    refine holdings_congr rfl rfl rfl rfl ?_ rfl rfl
    refine slotsOf_updateBreedSlot fun slot listed chosen => ?_
    exact stranger ((permitted.2 slot listed chosen).resolve_right someone)
  case eventServiceLogCreate data =>
    have own : data.address ≠ owner := stranger permitted
    simp only [exec]
    split
    · rfl
    · split
      · rfl
      · refine holdings_congr rfl rfl rfl rfl rfl ?_ rfl
        exact filter_append_of_apart
          (by simpa [EventServiceLogCreate.row] using own)
  case gen1BudCreate data =>
    have own : data.minterAddress ≠ owner := stranger permitted.2.1
    refine holdings_congr rfl rfl rfl rfl rfl rfl ?_
    exact filter_append_of_apart (by simpa [Gen1BudCreate.row] using own)
  case gen1BudUpdateSignature id signature =>
    cases signature with
    | none => rfl
    | some value =>
        refine holdings_congr rfl rfl rfl rfl rfl rfl ?_
        exact gen1BudsOf_updateGen1Bud
          (apart_of_holdsBud permitted.2 other)
  case gen1BudUpdateName id name =>
    refine holdings_congr rfl rfl rfl rfl rfl rfl ?_
    exact gen1BudsOf_updateGen1Bud (apart_of_holdsBud permitted other)
  all_goals rfl

/-- What a user holds besides the pairs and the slots. -/
def Holdings.besides (held : Holdings) : Holdings :=
  { held with breedPairs := [], breedSlots := [] }

theorem levelsOf_updateBreedPair {filter : BreedPair → Bool}
    {data : BreedPairUpdate} :
    levelsOf (db.updateBreedPair filter data) owner = levelsOf db owner := by
  have ids : (pairsOf (db.updateBreedPair filter data) owner).map BreedPair.id =
      (pairsOf db owner).map BreedPair.id := by
    have kept : ∀ pair : BreedPair,
        decide ((data.apply pair).userAddress = owner) =
          decide (pair.userAddress = owner) := by
      intro pair
      cases data <;> rfl
    rw [pairsOf, Db.updateBreedPair, Serial.filter_modify kept, List.map_map]
    apply List.map_congr_left
    intro pair _
    rw [Function.comp_apply]
    split
    · exact data.apply_id pair
    · rfl
  rw [levelsOf, ids]
  rfl

/-- The pairs are failed and their slots freed, nothing else. -/
theorem besides_step {work : Work} {query : Query}
    (permitted : permits app ⟨none, work⟩ query db) (oracle : Oracle) :
    (holdings (exec oracle query db).2 owner).besides =
      (holdings db owner).besides := by
  cases query
  case breedPairUpdateMany filter data =>
    have levels := @levelsOf_updateBreedPair db owner filter data
    change Holdings.besides (holdings (db.updateBreedPair filter data) owner) = _
    simp only [holdings, Holdings.besides, bredOf, levels]
    rfl
  case userUpdate address value => cases permitted
  case userUpsert address signature gameKeyId => cases permitted
  case breedPairCreate data => cases permitted.1
  case breedPairUpdate id data =>
    cases data with
    | status status =>
        obtain ⟨_, _, _, absent⟩ := permitted.2
        cases absent
    | currentLevel value =>
        obtain ⟨_, _, _, absent⟩ := permitted.1
        cases absent
  case breedLevelCreate data =>
    obtain ⟨-, -, -, -, ⟨_, _, _, absent, -⟩, -⟩ := permitted
    cases absent
  case breedLevelUpdate id data =>
    obtain ⟨-, _, _, _, _, _, _, absent, -⟩ := permitted
    cases absent
  case breedBudCreateMany levelId buds =>
    obtain ⟨-, _, _, _, _, _, _, absent⟩ := permitted
    cases absent
  case breedSlotCreateMany data =>
    simp only [exec]
    split <;> rfl
  case eventServiceLogCreate data => cases permitted
  case gen1BudCreate data => cases permitted.2.1
  case gen1BudUpdateSignature id signature =>
    obtain ⟨_, _, _, absent⟩ := permitted.2
    cases absent
  case gen1BudUpdateName id name =>
    obtain ⟨_, _, _, absent⟩ := permitted
    cases absent
  all_goals rfl

/-- Who changes what a user holds is the user, or nobody in particular, who
changes pairs and slots only. -/
theorem holder_of_changed (climbing : Climbing app works db) {query : Query}
    (permitted : permits app ⟨holder, works thread⟩ query db) (oracle : Oracle)
    (changed : holdings (exec oracle query db).2 owner ≠ holdings db owner) :
    holder = some owner ∨ holder = none ∧
      (holdings (exec oracle query db).2 owner).besides =
        (holdings db owner).besides := by
  by_cases nobody : holder = none
  · subst nobody
    exact .inr ⟨rfl, besides_step permitted oracle⟩
  · left
    by_contra other
    exact changed (holdings_step climbing permitted nobody other oracle)

end Queries

section Interleavings

variable {ι : Type} [DecidableEq ι] {app : App} {admitted : Oracle → Prop}
  {requests : ι → Request} {db : Db} {steps : List (ServerStep ι)}
  {final : Server ι}

theorem reached_subject (app : App) (steps : List (ServerStep ι)) (thread : ι) :
    (reached app requests steps thread).subject = subject (requests thread) := by
  induction steps using List.reverseRecOn with
  | nil => rfl
  | append_singleton steps step induction =>
      rw [reached, Protocol.stages_snoc]
      by_cases same : thread = step.label.thread
      · rw [same, Function.update_self, ← same]
        exact induction
      · rw [Function.update_of_ne same]
        exact induction

theorem invalidatePair_of_subject {request : Request}
    (nobody : subject request = none) :
    ∃ req body, request = .invalidatePair req body := by
  cases request with
  | invalidatePair req body => exact ⟨req, body, rfl⟩
  | _ => cases nobody

/-- Every step of an interleaving asks a query that is permitted to its request. -/
theorem permitted_of_interleaving (rested : Rested app admitted db)
    (interleaving : Interleaving app admitted requests db steps final) :
    ∀ step ∈ steps, ∃ (works : ι → Work) (oracle : Oracle),
      Climbing app works step.source.store ∧
      permits app
        ⟨subject (requests step.label.thread), works step.label.thread⟩
        step.label.query step.source.store ∧
      step.target.store =
        (exec oracle step.label.query step.source.store).2 := by
  refine Discipline.induct (fun steps _ => ∀ step ∈ steps,
      ∃ (works : ι → Work) (oracle : Oracle),
        Climbing app works step.source.store ∧
        permits app
          ⟨subject (requests step.label.thread), works step.label.thread⟩
          step.label.query step.source.store ∧
        step.target.store =
          (exec oracle step.label.query step.source.store).2)
    interleaving upholds
    (fun thread => guarded_handle app db (requests thread))
    (rested.keeping requests) ?_ ?_
  · exact fun step member => absurd member List.not_mem_nil
  · intro steps current thread query next oracle keeping before permitted _
      step member
    rcases List.mem_append.mp member with old | new
    · exact before step old
    · obtain rfl := List.mem_singleton.mp new
      refine ⟨fun thread => (reached app requests steps thread).work, oracle,
        keeping.climbing, ?_, rfl⟩
      change permits app ⟨subject (requests thread), _⟩ query current.store
      rw [← reached_subject app steps thread]
      exact permitted

/-- However the requests are interleaved, what a user holds is changed by the
requests of this user and by `invalidatePair` only, which changes nothing but
pairs and slots. -/
theorem confined (rested : Rested app admitted db)
    (interleaving : Interleaving app admitted requests db steps final) :
    ∀ step ∈ steps, ∀ owner,
      holdings step.target.store owner ≠ holdings step.source.store owner →
      subject (requests step.label.thread) = some owner ∨
        (∃ req body, requests step.label.thread = .invalidatePair req body) ∧
        (holdings step.target.store owner).besides =
          (holdings step.source.store owner).besides := by
  intro step member owner changed
  obtain ⟨works, oracle, climbing, permitted, after⟩ :=
    permitted_of_interleaving rested interleaving step member
  rw [after] at changed ⊢
  refine (holder_of_changed climbing permitted oracle changed).imp_right ?_
  rintro ⟨nobody, same⟩
  exact ⟨invalidatePair_of_subject nobody, same⟩

end Interleavings

section Neighbours

def bob : Req := ⟨"bob", 7⟩

/-- `alice` and `bob` log in and receive breeding points, and `alice` breeds a
pair. -/
def neighbourScript : List (Request × Oracle) :=
  [(.login (loginFrom "alice"), .agreeable "alice" (period 0)),
    (.login (loginFrom "bob"), .agreeable "bob" (period 0)),
    (.addBreedingPoint ⟨⟨"alice", "deposit", 1, "goerli"⟩, 100000⟩,
      .agreeable "alice" (period 0)),
    (.addBreedingPoint ⟨⟨"bob", "other deposit", 1, "goerli"⟩, 100000⟩,
      .agreeable "bob" (period 0)),
    (.createPair alice ⟨1, 2, 1, none, none⟩, .agreeable "alice" (period 0))]

def neighbourhood : List (Transition Db Exchange) × Db :=
  serve (liveApp .goerli) neighbourScript .empty

/-- `alice` levels her pair up while `bob` creates one. -/
def neighbours : Bool → Request
  | true => .levelBreedingUp alice ⟨1, 1, 2⟩
  | false => .createPair bob ⟨3, 4, 6, none, none⟩

def neighbourTurns : List (Bool × Oracle) :=
  (List.replicate 40
    [(true, Oracle.agreeable "alice" (period 1)),
      (false, Oracle.agreeable "bob" (period 1))]).flatten

def neighbourSteps : List (ServerStep Bool) :=
  (interleave (liveApp .goerli) neighbours neighbourTurns neighbourhood.2).1

/-- The threads whose steps change what `owner` holds. -/
def changing (owner : Address) : List Bool :=
  (neighbourSteps.filter fun step =>
    holdings step.target.store owner ≠ holdings step.source.store owner).map
      fun step => step.label.thread

theorem rested_neighbourhood :
    Rested (liveApp .goerli) (fun _ => True) neighbourhood.2 :=
  Rested.empty.run (run_of_serve _ _ _)

theorem both_changing : changing "alice" ≠ [] ∧ changing "bob" ≠ [] := by
  rw [changing, changing, neighbourSteps, neighbourhood, neighbourScript,
    serve_login (liveApp .goerli) (by decide +kernel) rfl,
    serve_login (liveApp .goerli) (by decide +kernel) rfl]
  decide +kernel

/-- What `alice` holds changes, and by her request only; so does what `bob`
holds. -/
theorem confined_neighbours :
    (changing "alice" ≠ [] ∧ ∀ thread ∈ changing "alice", thread = true) ∧
      changing "bob" ≠ [] ∧ ∀ thread ∈ changing "bob", thread = false := by
  have owned : ∀ owner, ∀ thread ∈ changing owner,
      subject (neighbours thread) = some owner := by
    intro owner thread member
    obtain ⟨step, selected, rfl⟩ := List.mem_map.mp member
    obtain ⟨present, changed⟩ := List.mem_filter.mp selected
    rcases confined rested_neighbourhood
      (interleaving_of_schedule (liveApp .goerli) neighbours _ _) step present
      owner (of_decide_eq_true changed) with own | ⟨⟨req, body, other⟩, -⟩
    · exact own
    · revert other
      cases step.label.thread <;> exact nofun
  refine ⟨⟨both_changing.1, fun thread member => ?_⟩, both_changing.2,
    fun thread member => ?_⟩
  · cases thread with
    | true => rfl
    | false => exact absurd (Option.some.inj (owned _ _ member)) (by decide)
  · cases thread with
    | false => rfl
    | true => exact absurd (Option.some.inj (owned _ _ member)) (by decide)

end Neighbours

end BudBreeding.Concurrency
