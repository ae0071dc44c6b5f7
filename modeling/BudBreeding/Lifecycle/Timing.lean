import Mathlib.Tactic.Linarith
import BudBreeding.Program.Recording
import BudBreeding.Lifecycle.Structure

namespace BudBreeding.Lifecycle

open Data Program Backend

/-! How long a pair has been breeding when its dice is rolled. -/

/-- The calls of a run, each with the clock it read. -/
abbrev Record := List (Call Query Oracle)

/-- The clock of the application and the database never goes back. -/
def Ticking (record : Record) : Prop :=
  (record.map fun call => call.oracle.now).Pairwise (· ≤ ·)

/-- One request handled with every call on record. -/
def Logs (app : App) (admitted : Oracle → Prop) (source : Db × Record)
    (exchange : Exchange) (target : Db × Record) : Prop :=
  (surroundings admitted).recorded.Runs (handle app exchange.request) source
    exchange.response target

abbrev RecordedStep := Transition (Db × Record) Exchange

abbrev RecordedRun (app : App) (admitted : Oracle → Prop) (start : Db × Record)
    (steps : List RecordedStep) (final : Db × Record) : Prop :=
  History (Logs app admitted) start steps final

def callsOf (step : RecordedStep) : Record :=
  step.target.2.drop step.source.2.length

/-- What a pair waits at each of its levels, in milliseconds. -/
def levelTime (app : App) (pair : BreedPair) : Time :=
  getBreedTime app.config.timePeriod pair.gameItemId * 1000

namespace Ticking

variable {earlier later : Record}

theorem left (ticking : Ticking (earlier ++ later)) : Ticking earlier := by
  rw [Ticking, List.map_append, List.pairwise_append] at ticking
  exact ticking.1

theorem le (ticking : Ticking (earlier ++ later)) {first second : Call Query Oracle}
    (before : first ∈ earlier) (after : second ∈ later) :
    first.oracle.now ≤ second.oracle.now := by
  rw [Ticking, List.map_append, List.pairwise_append] at ticking
  exact ticking.2.2 _ (List.mem_map.mpr ⟨first, before, rfl⟩) _
    (List.mem_map.mpr ⟨second, after, rfl⟩)

theorem right (ticking : Ticking (earlier ++ later)) : Ticking later := by
  rw [Ticking, List.map_append, List.pairwise_append] at ticking
  exact ticking.2.1

end Ticking

section Stamps

variable {before db : Db} {calls : Record}

/-- The pairs and levels of a database are those of an earlier one, or the calls
made since then gave them their timestamps. -/
structure Stamped (before : Db) (calls : Record) (after : Db) : Prop where
  pairs : ∀ pair ∈ after.breedPair.rows,
    (∃ old ∈ before.breedPair.rows,
      old.id = pair.id ∧ old.createdAt = pair.createdAt) ∨
    before.breedPair.nextId ≤ pair.id ∧
      ∃ call ∈ calls, pair.createdAt = call.oracle.now
  levels : ∀ level ∈ after.breedLevel.rows,
    (∃ old ∈ before.breedLevel.rows,
      old.id = level.id ∧ old.createdAt = level.createdAt) ∨
    ∃ call ∈ calls, level.createdAt = call.oracle.now
  nextId : before.breedPair.nextId ≤ after.breedPair.nextId

theorem Stamped.refl (db : Db) : Stamped db [] db where
  pairs pair member := .inl ⟨pair, member, rfl, rfl⟩
  levels level member := .inl ⟨level, member, rfl, rfl⟩
  nextId := le_rfl

theorem Stamped.of_rows {after : Db} (stamped : Stamped before calls db)
    (pairs : ∀ pair ∈ after.breedPair.rows, ∃ old ∈ db.breedPair.rows,
      old.id = pair.id ∧ old.createdAt = pair.createdAt)
    (levels : ∀ level ∈ after.breedLevel.rows, ∃ old ∈ db.breedLevel.rows,
      old.id = level.id ∧ old.createdAt = level.createdAt)
    (nextId : db.breedPair.nextId ≤ after.breedPair.nextId) :
    Stamped before calls after where
  pairs pair member := by
    obtain ⟨old, present, id, createdAt⟩ := pairs pair member
    rw [← id, ← createdAt]
    exact stamped.pairs old present
  levels level member := by
    obtain ⟨old, present, id, createdAt⟩ := levels level member
    rw [← id, ← createdAt]
    exact stamped.levels old present
  nextId := stamped.nextId.trans nextId

theorem Stamped.more {call : Call Query Oracle}
    (stamped : Stamped before calls db) : Stamped before (calls ++ [call]) db where
  pairs pair member := by
    rcases stamped.pairs pair member with old | ⟨fresh, made, listed, same⟩
    · exact .inl old
    · exact .inr ⟨fresh, made, List.mem_append_left _ listed, same⟩
  levels level member := by
    rcases stamped.levels level member with old | ⟨made, listed, same⟩
    · exact .inl old
    · exact .inr ⟨made, List.mem_append_left _ listed, same⟩
  nextId := stamped.nextId

theorem Stamped.updateBreedPair (stamped : Stamped before calls db)
    (filter : BreedPair → Bool) (data : BreedPairUpdate) :
    Stamped before calls (db.updateBreedPair filter data) := by
  apply stamped.of_rows
  · intro pair member
    rcases Serial.of_mem_modify member with
      ⟨old, present, -, rfl⟩ | ⟨present, -⟩
    · refine ⟨old, present, (data.apply_id old).symm, ?_⟩
      cases data <;> rfl
    · exact ⟨pair, present, rfl, rfl⟩
  · exact fun level member => ⟨level, member, rfl, rfl⟩
  · exact le_rfl

theorem Stamped.updateBreedLevel (stamped : Stamped before calls db)
    (filter : BreedLevel → Bool) (data : BreedLevelUpdate) :
    Stamped before calls (db.updateBreedLevel filter data) := by
  apply stamped.of_rows
  · exact fun pair member => ⟨pair, member, rfl, rfl⟩
  · intro level member
    rcases Serial.of_mem_modify member with
      ⟨old, present, -, rfl⟩ | ⟨present, -⟩
    · exact ⟨old, present, rfl, rfl⟩
    · exact ⟨level, present, rfl, rfl⟩
  · exact le_rfl

theorem Stamped.createBreedPair {query : Query} {oracle : Oracle}
    (stamped : Stamped before calls db) (data : BreedPairCreate) :
    Stamped before (calls ++ [⟨query, oracle⟩])
      (db.createBreedPair data oracle.now) := by
  constructor
  · intro pair member
    rcases List.mem_append.mp member with old | new
    · exact stamped.more.pairs pair old
    · rw [List.mem_singleton.mp new]
      exact .inr ⟨stamped.nextId, ⟨query, oracle⟩,
        List.mem_append_right _ (List.mem_singleton_self _), rfl⟩
  · exact stamped.more.levels
  · have bound := stamped.nextId
    change before.breedPair.nextId ≤ db.breedPair.nextId + 1
    omega

theorem Stamped.createBreedLevel {query : Query} {oracle : Oracle}
    (stamped : Stamped before calls db) (data : BreedLevelCreate) :
    Stamped before (calls ++ [⟨query, oracle⟩])
      (db.createBreedLevel data oracle.now) := by
  constructor
  · exact stamped.more.pairs
  · intro level member
    rcases List.mem_append.mp member with old | new
    · exact stamped.more.levels level old
    · rw [List.mem_singleton.mp new]
      exact .inr ⟨⟨query, oracle⟩,
        List.mem_append_right _ (List.mem_singleton_self _), rfl⟩
  · exact stamped.nextId

theorem Stamped.exec (stamped : Stamped before calls db) (oracle : Oracle)
    (query : Query) :
    Stamped before (calls ++ [⟨query, oracle⟩]) (exec oracle query db).2 := by
  by_cases pairs : query.written = some .breedPair
  · cases query with
    | breedPairCreate data =>
        simp only [Backend.exec]
        split
        · exact stamped.more
        · exact stamped.createBreedPair data
    | breedPairUpdate id data => exact stamped.more.updateBreedPair _ data
    | breedPairUpdateMany filter data =>
        exact stamped.more.updateBreedPair filter data
    | _ => cases pairs
  · by_cases levels : query.written = some .breedLevel
    · cases query with
      | breedLevelCreate data =>
          simp only [Backend.exec]
          split
          · exact stamped.more
          · exact stamped.createBreedLevel data
      | breedLevelUpdate id data => exact stamped.more.updateBreedLevel _ data
      | _ => cases levels
    · have same := exec_sameBut oracle query db
      apply stamped.more.of_rows
      · rw [same.breedPair pairs]
        exact fun pair member => ⟨pair, member, rfl, rfl⟩
      · rw [same.breedLevel levels]
        exact fun level member => ⟨level, member, rfl, rfl⟩
      · rw [same.breedPair pairs]

theorem stamped_of_runs {admitted : Oracle → Prop} {α : Type} {record : Record}
    (program : Handler α) :
    (surroundings admitted).recorded.Ensures program
      (fun _ final => ∃ calls, final.2 = record ++ calls ∧
        Stamped db calls final.1) (db, record) := by
  refine World.ensures_of_uses ?_ (Prog.uses_all program)
    ⟨[], (List.append_nil _).symm, .refl db⟩
  intro query _ state oracle _ before
  obtain ⟨calls, recorded, stamped⟩ := before
  refine ⟨calls ++ [⟨query, oracle⟩], ?_, stamped.exec oracle query⟩
  change state.2 ++ [_] = _
  rw [recorded, List.append_assoc]

end Stamps

/-- The dice, or the statement that ends the breeding of a pair. -/
def settles (pairId : Int) : Query → Bool
  | .mathRandom => true
  | .breedPairUpdate id (.status _) => id = pairId
  | _ => false

/-- The clock was read when a level of the pair had lasted long enough. -/
structure Checked (app : App) (db : Db) (calls : Record) (pair : BreedPair)
    (number : Int) (now : Time) : Prop where
  asked : ∃ call ∈ calls, call.query = .dateNow ∧ call.oracle.now = now
  elapsed : ∃ level ∈ db.breedLevel.rows,
    level.pairId = pair.id ∧ level.level = number ∧
      BreedService.breedTimeElapsed app now level.createdAt pair.gameItemId = true

theorem Checked.more {app : App} {db : Db} {calls more : Record}
    {pair : BreedPair} {number : Int} {now : Time}
    (checked : Checked app db calls pair number now)
    (included : calls ⊆ more) : Checked app db more pair number now := by
  obtain ⟨⟨call, listed, clock⟩, elapsed⟩ := checked
  exact ⟨⟨call, included listed, clock⟩, elapsed⟩

section Recorded

variable {app : App} {admitted : Oracle → Prop} {db : Db} {record : Record}
  {β : Type} {post : Except Failure β → Db × Record → Prop}

theorem ensures_recorded_call {query : Query} {rest : query.Answer → Handler β}
    (answered : ∀ oracle answer, (exec oracle query db).1 = answer →
      (surroundings admitted).recorded.Ensures (rest answer) post
        ((exec oracle query db).2, record ++ [⟨query, oracle⟩])) :
    (surroundings admitted).recorded.Ensures (ask query >>= rest) post
      (db, record) :=
  World.ensures_call_bind.mpr fun oracle _ => answered oracle _ rfl

theorem ensures_recorded_evaluate {pair : BreedPair} {maleBudId femaleBudId : Int}
    (pairId : Int) {rest : BreedService.Evaluation → Handler β}
    (refused : ∀ calls error,
      (∀ call ∈ calls, settles pairId call.query = false) →
      post (.error error) (db, record ++ calls))
    (evaluated : ∀ calls level buds now,
      (∀ call ∈ calls, settles pairId call.query = false) →
      Checked app db calls pair pair.currentLevel now →
      (surroundings admitted).recorded.Ensures
        (rest (BreedService.evaluationOf app buds)) post
        (db.evaluateLevel app level buds maleBudId femaleBudId,
          record ++ calls)) :
    (surroundings admitted).recorded.Ensures
      (BreedService.evaluateBreedLevel app pair maleBudId femaleBudId >>= rest)
      post (db, record) := by
  rw [World.ensures_bind]
  refine ensures_recorded_call fun finder answer found => ?_
  change World.Ensures _ _ _ (db, record ++ [⟨.breedLevelFindFirst _, finder⟩])
  cases answer with
  | none => exact World.ensures_throw.mpr (refused _ _ (by simp [settles]))
  | some level =>
      obtain ⟨listed, current⟩ := Oracle.findFirst_eq_some found
      obtain ⟨owner, number⟩ := decide_eq_true_iff.mp current
      rw [World.ensures_bind, World.ensures_throwIf]
      refine ⟨fun _ => refused _ _ (by simp [settles]), fun _ => ?_⟩
      refine World.ensures_call_bind.mpr fun clock _ => ?_
      change World.Ensures _ (Prog.throwIf (BreedService.breedTimeElapsed app
        clock.now level.createdAt pair.gameItemId = false) _ >>= _) _
        (db, record ++ [_] ++ [⟨.dateNow, clock⟩])
      rw [List.append_assoc, World.ensures_bind, World.ensures_throwIf]
      refine ⟨fun _ => refused _ _ (by simp [settles]), fun elapsed => ?_⟩
      refine World.ensures_call_bind.mpr fun reader _ => ?_
      change World.Ensures _ _ _
        (db, record ++ _ ++ [⟨.breedBudFindMany _, reader⟩])
      rw [List.append_assoc, World.ensures_bind, World.ensures_throwIf]
      refine ⟨fun _ => refused _ _ (by simp [settles]), fun _ => ?_⟩
      refine World.ensures_ask.mpr fun writer _ => ?_
      change World.Ensures _
        (settle (orNotFound ((db.breedLevel.find level.id).map _)) >>= _) _
        (db.evaluateLevel app level _ maleBudId femaleBudId,
          record ++ _ ++ [⟨.breedLevelUpdate _ _, writer⟩])
      rw [Table.find_eq_some.mpr ⟨listed, rfl⟩, List.append_assoc]
      refine World.ensures_pure.mpr (evaluated _ level _ clock.now
        (by simp [settles]) ⟨⟨⟨.dateNow, clock⟩, by simp, rfl, rfl⟩, ?_⟩)
      exact ⟨level, listed, owner, number,
        Bool.eq_true_of_not_eq_false elapsed⟩

theorem recorded_of_ensures {program : Handler β}
    (facts : Except Failure β → Db → Prop)
    (ensures : ∀ among, (surroundings among).Ensures program facts db) :
    (surroundings admitted).recorded.Ensures program
      (fun result final => facts result final.1) (db, record) :=
  World.ensures_recorded fun calls =>
    ensures fun oracle => admitted oracle ∧ Answered calls oracle

theorem recorded_placePair (req : Req) (body : CreateBreedPairDto) :
    (surroundings admitted).recorded.Ensures
      (BreedController.placePair app req body)
      (fun result final => final.1.breedLevel = db.breedLevel ∧
        ∀ placed, result = .ok placed →
          final.1.breedPair.nextId = db.breedPair.nextId + 1) (db, record) := by
  apply recorded_of_ensures fun result final =>
    final.breedLevel = db.breedLevel ∧ ∀ placed, result = .ok placed →
      final.breedPair.nextId = db.breedPair.nextId + 1
  intro among
  refine World.ensures_tail.mp (ensures_placePair ?_ ?_ ?_)
  · intro error
    exact ⟨rfl, fun placed same => by cases same⟩
  · intro slot metadatas granted error
    exact ⟨db.breedLevel_upgradeSlot body slot,
      fun placed same => by cases same⟩
  · intro slot metadatas rate now granted
    refine World.ensures_pure.mpr ⟨db.breedLevel_upgradeSlot body slot, fun _ _ => ?_⟩
    change (db.upgradeSlot body slot).breedPair.nextId + 1 = _
    rw [db.breedPair_upgradeSlot body slot]

/-- The first level of a new pair is not older than the pair. -/
theorem recorded_createPair (req : Req) (body : CreateBreedPairDto) :
    (surroundings admitted).recorded.Ensures
      (BreedController.createPair app req body)
      (fun _ final => ∃ calls, final.2 = record ++ calls ∧
        (Ticking calls → ∀ level ∈ final.1.breedLevel.rows,
          (∃ old ∈ db.breedLevel.rows,
            old.id = level.id ∧ old.createdAt = level.createdAt) ∨
          ∀ pair ∈ final.1.breedPair.rows, pair.id = db.breedPair.nextId →
            pair.createdAt ≤ level.createdAt)) (db, record) := by
  rw [createPair_eq, World.ensures_bind]
  intro result middle runs
  obtain ⟨first, recorded, stamped⟩ := stamped_of_runs _ result middle runs
  obtain ⟨levels, next⟩ := recorded_placePair req body result middle runs
  cases result with
  | error error =>
      refine ⟨first, recorded, fun _ level member => .inl ?_⟩
      rw [levels] at member
      exact ⟨level, member, rfl, rfl⟩
  | ok placed =>
      intro result final runs
      obtain ⟨second, more, later⟩ := stamped_of_runs _ result final runs
      refine ⟨first ++ second, ?_, fun ticking level member => ?_⟩
      · rw [more, recorded, List.append_assoc]
      rcases later.levels level member with ⟨old, present, same⟩ | ⟨call, made, clock⟩
      · rw [levels] at present
        exact .inl ⟨old, present, same⟩
      right
      intro pair listed id
      have created : ∃ call ∈ first, pair.createdAt = call.oracle.now := by
        rcases later.pairs pair listed with ⟨old, present, sameId, same⟩ | ⟨fresh, -⟩
        · rw [← same]
          rcases stamped.pairs old present with
            ⟨older, known, olderId, -⟩ | ⟨-, stamp⟩
          · have below := db.breedPair.bounded older known
            omega
          · exact stamp
        · rw [next placed rfl] at fresh
          omega
      obtain ⟨stamp, before, same⟩ := created
      rw [same, clock]
      exact ticking.le before made

/-- A level that `levelBreedingUp` creates is not older than its time check. -/
theorem recorded_levelBreedingUp (req : Req) (body : BreedUpDto) :
    (surroundings admitted).recorded.Ensures
      (BreedController.levelBreedingUp app req body)
      (fun _ final => ∃ calls, final.2 = record ++ calls ∧
        (Ticking calls → ∀ level ∈ final.1.breedLevel.rows,
          (∃ old ∈ db.breedLevel.rows,
            old.id = level.id ∧ old.createdAt = level.createdAt) ∨
          ∃ pair ∈ db.breedPair.rows,
            BreedController.ownPair req.user body.pairId pair = true ∧
            ∃ now, Checked app db calls pair pair.currentLevel now ∧
              now ≤ level.createdAt)) (db, record) := by
  rw [levelBreedingUp_eq, World.ensures_bind]
  intro result middle runs
  obtain ⟨first, recorded, -⟩ := stamped_of_runs _ result middle runs
  have charged : (surroundings admitted).recorded.Ensures
      (BreedController.chargeLevel app req body)
      (fun result final => final.1.breedLevel = db.breedLevel ∧
        ∀ pair, result = .ok pair → pair ∈ db.breedPair.rows ∧
          BreedController.ownPair req.user body.pairId pair = true)
      (db, record) := by
    apply recorded_of_ensures fun result final =>
      final.breedLevel = db.breedLevel ∧
        ∀ pair, result = .ok pair → pair ∈ db.breedPair.rows ∧
          BreedController.ownPair req.user body.pairId pair = true
    intro among
    refine World.ensures_tail.mp (ensures_chargeLevel ?_ ?_)
    · intro error
      exact ⟨rfl, fun pair same => by cases same⟩
    · intro pair paid granted valid charged
      refine World.ensures_pure.mpr ⟨?_, fun other same => ?_⟩
      · exact (sameBreeding_paid charged).breedLevel
      · cases same
        exact ⟨granted.listed, granted.own⟩
  obtain ⟨levels, own⟩ := charged result middle runs
  have kept : ∀ level ∈ middle.1.breedLevel.rows, ∃ old ∈ db.breedLevel.rows,
      old.id = level.id ∧ old.createdAt = level.createdAt := by
    intro level member
    rw [levels] at member
    exact ⟨level, member, rfl, rfl⟩
  cases result with
  | error error =>
      exact ⟨first, recorded, fun _ level member => .inl (kept level member)⟩
  | ok pair =>
      obtain ⟨middle, entries⟩ := middle
      obtain rfl : entries = record ++ first := recorded
      refine ensures_recorded_evaluate body.pairId ?_ ?_
      · intro calls error _
        refine ⟨first ++ calls, List.append_assoc _ _ _, ?_⟩
        exact fun _ level member => .inl (kept level member)
      · intro calls evaluated buds now _ checked result final runs
        obtain ⟨second, more, stamped⟩ := stamped_of_runs _ result final runs
        refine ⟨first ++ (calls ++ second), ?_, fun ticking level member => ?_⟩
        · rw [more]
          simp only [List.append_assoc]
        rcases stamped.levels level member with
          ⟨old, present, id, createdAt⟩ | ⟨call, made, clock⟩
        · left
          rw [← id, ← createdAt]
          rcases Serial.of_mem_modify present with
            ⟨older, known, -, rfl⟩ | ⟨known, -⟩
          · exact kept older known
          · exact kept old known
        · right
          obtain ⟨listed, owned⟩ := own pair rfl
          obtain ⟨⟨reading, asked, isClock, rfl⟩, elapsed⟩ := checked
          rw [levels] at elapsed
          refine ⟨pair, listed, owned, reading.oracle.now, ⟨⟨reading, ?_, isClock,
            rfl⟩, elapsed⟩, ?_⟩
          · exact List.mem_append_right _ (List.mem_append_left _ asked)
          · rw [clock]
            exact ticking.right.le asked made

/-- The dice of a pair is rolled after the time check of its last level. -/
theorem recorded_finalizeBreeding (req : Req) (body : BreedFinalizeDto) :
    (surroundings admitted).recorded.Ensures
      (BreedController.finalizeBreeding app req body)
      (fun _ final => ∃ calls, final.2 = record ++ calls ∧
        (Ticking calls → ∀ call ∈ calls,
          settles body.pairId call.query = true →
          ∃ pair ∈ db.breedPair.rows,
            BreedController.ownPair req.user body.pairId pair = true ∧
            app.config.targetLevel ≤ pair.currentLevel ∧
            ∃ now, Checked app db calls pair pair.currentLevel now ∧
              now ≤ call.oracle.now)) (db, record) := by
  have unsettled : ∀ calls : Record,
      (∀ call ∈ calls, settles body.pairId call.query = false) →
      ∃ more, record ++ calls = record ++ more ∧
        (Ticking more → ∀ call ∈ more,
          settles body.pairId call.query = true →
          ∃ pair ∈ db.breedPair.rows,
            BreedController.ownPair req.user body.pairId pair = true ∧
            app.config.targetLevel ≤ pair.currentLevel ∧
            ∃ now, Checked app db more pair pair.currentLevel now ∧
              now ≤ call.oracle.now) := by
    intro calls early
    refine ⟨calls, rfl, fun _ call made settled => ?_⟩
    rw [early call made] at settled
    cases settled
  refine ensures_recorded_call fun finder answer found => ?_
  change World.Ensures _ _ _ (db, record ++ [⟨.breedPairFindFirst _, finder⟩])
  cases answer with
  | none => exact World.ensures_throw.mpr (unsettled _ (by simp [settles]))
  | some pair =>
      obtain ⟨listed, own⟩ := Oracle.findFirst_eq_some found
      rw [World.ensures_bind, World.ensures_throwIf]
      refine ⟨fun _ => unsettled _ (by simp [settles]), fun reached => ?_⟩
      refine ensures_recorded_evaluate body.pairId ?_ ?_
      · intro calls error early
        rw [List.append_assoc]
        refine unsettled _ fun call made => ?_
        rcases List.mem_append.mp made with first | later
        · rw [List.mem_singleton.mp first]
          rfl
        · exact early call later
      · intro calls evaluated buds now early checked result final runs
        obtain ⟨second, more, -⟩ := stamped_of_runs _ result final runs
        refine ⟨[⟨.breedPairFindFirst
          (BreedController.ownPair req.user body.pairId), finder⟩] ++
            (calls ++ second), ?_, fun ticking call made settled => ?_⟩
        · rw [more]
          simp only [List.append_assoc]
        refine ⟨pair, listed, own, not_lt.mp reached, now, ?_, ?_⟩
        · exact checked.more fun call made =>
            List.mem_append_right _ (List.mem_append_left _ made)
        · obtain ⟨⟨reading, asked, -, rfl⟩, -⟩ := checked
          rcases List.mem_append.mp made with first | later
          · rw [List.mem_singleton.mp first] at settled
            cases settled
          · rcases List.mem_append.mp later with middle | last
            · rw [early call middle] at settled
              cases settled
            · exact ticking.right.le asked last

end Recorded

section Steps

variable {app : App} {admitted : Oracle → Prop} {source target : Db × Record}

theorem handles_of_logs {exchange : Exchange}
    (logs : Logs app admitted source exchange target) :
    Handles app admitted source.1 exchange target.1 := by
  obtain ⟨calls, -, runs⟩ := logs.exists_calls
  exact runs.unrestricted

theorem exists_callsOf {exchange : Exchange}
    (logs : Logs app admitted source exchange target) :
    target.2 = source.2 ++ callsOf ⟨source, exchange, target⟩ := by
  obtain ⟨calls, recorded, -⟩ := logs.exists_calls
  rw [callsOf, recorded, List.drop_left]

theorem callsOf_eq {exchange : Exchange} {calls : Record}
    (recorded : target.2 = source.2 ++ calls) :
    callsOf ⟨source, exchange, target⟩ = calls := by
  rw [callsOf, recorded, List.drop_left]

theorem logs_createPair {req : Req} {body : CreateBreedPairDto}
    {response : Except Failure Response}
    (logs : Logs app admitted source ⟨.createPair req body, response⟩ target)
    (ticking : Ticking target.2) :
    ∀ level ∈ target.1.breedLevel.rows,
      (∃ old ∈ source.1.breedLevel.rows,
        old.id = level.id ∧ old.createdAt = level.createdAt) ∨
      ∀ pair ∈ target.1.breedPair.rows, pair.id = source.1.breedPair.nextId →
        pair.createdAt ≤ level.createdAt := by
  obtain ⟨db, record⟩ := source
  have every := @recorded_createPair app admitted db record req body
  change World.Runs _ (validated body.valid
    (Response.pair <$> BreedController.createPair app req body)) _ _ _ at logs
  unfold validated Prog.throwIf at logs
  split at logs
  · cases logs
    exact fun level member => .inl ⟨level, member, rfl, rfl⟩
  · obtain ⟨calls, recorded, levels⟩ := every.map Response.pair _ _ logs
    rw [recorded] at ticking
    exact levels ticking.right

theorem logs_levelBreedingUp {req : Req} {body : BreedUpDto}
    {response : Except Failure Response}
    (logs : Logs app admitted source ⟨.levelBreedingUp req body, response⟩ target)
    (ticking : Ticking target.2) :
    ∀ level ∈ target.1.breedLevel.rows,
      (∃ old ∈ source.1.breedLevel.rows,
        old.id = level.id ∧ old.createdAt = level.createdAt) ∨
      ∃ pair ∈ source.1.breedPair.rows,
        BreedController.ownPair req.user body.pairId pair = true ∧
        ∃ now, Checked app source.1
            (callsOf ⟨source, ⟨.levelBreedingUp req body, response⟩, target⟩)
            pair pair.currentLevel now ∧ now ≤ level.createdAt := by
  obtain ⟨db, record⟩ := source
  have every := @recorded_levelBreedingUp app admitted db record req body
  obtain ⟨calls, recorded, levels⟩ := every.map Response.status _ _ logs
  rw [callsOf_eq recorded]
  rw [recorded] at ticking
  exact levels ticking.right

theorem logs_finalizeBreeding {req : Req} {body : BreedFinalizeDto}
    {response : Except Failure Response}
    (logs : Logs app admitted source ⟨.finalizeBreeding req body, response⟩
      target)
    (ticking : Ticking target.2) :
    ∀ call ∈ callsOf ⟨source, ⟨.finalizeBreeding req body, response⟩, target⟩,
      settles body.pairId call.query = true →
      ∃ pair ∈ source.1.breedPair.rows,
        BreedController.ownPair req.user body.pairId pair = true ∧
        app.config.targetLevel ≤ pair.currentLevel ∧
        ∃ now, Checked app source.1
            (callsOf ⟨source, ⟨.finalizeBreeding req body, response⟩, target⟩)
            pair pair.currentLevel now ∧ now ≤ call.oracle.now := by
  obtain ⟨db, record⟩ := source
  have every := @recorded_finalizeBreeding app admitted db record req body
  obtain ⟨calls, recorded, rolled⟩ := every.map Response.reward _ _ logs
  rw [callsOf_eq recorded]
  rw [recorded] at ticking
  exact rolled ticking.right

end Steps

/-- A level-up of the pair at the level `number`: the user of the pair was
debited, and the level had lasted long enough. -/
structure LeveledUp (app : App) (pair : BreedPair) (number : Int)
    (step : RecordedStep) : Prop where
  requested : ∃ req body,
    step.label.request = .levelBreedingUp req body ∧ body.pairId = pair.id
  checked : ∃ now, Checked app step.source.1 (callsOf step) pair number now
  debited : ∃ user ∈ step.source.1.user.rows, user.address = pair.userAddress ∧
    ∃ later ∈ step.target.1.user.rows, later.address = pair.userAddress ∧
      later.breedingPoint = user.breedingPoint - app.config.breedingPointPerLevel

/-- The dice of the pair is rolled, or its result recorded, at the given time. -/
structure FinalizedAt (pair : BreedPair) (now : Time) (step : RecordedStep) :
    Prop where
  requested : ∃ req body,
    step.label.request = .finalizeBreeding req body ∧ body.pairId = pair.id
  settled : ∃ call ∈ callsOf step,
    settles pair.id call.query = true ∧ call.oracle.now = now

/-- What a pair has gone through before its dice is rolled. -/
structure FullyBred (app : App) (pair : BreedPair) (now : Time)
    (earlier : List RecordedStep) (step : RecordedStep) : Prop where
  lasted : app.config.targetLevel * levelTime app pair ≤ now - pair.createdAt
  climbed : ∃ ups, ups.Sublist earlier ∧
    List.Forall₂ (LeveledUp app pair) (upward (app.config.targetLevel - 1)) ups
  checked : ∃ check ≤ now,
    Checked app step.source.1 (callsOf step) pair app.config.targetLevel check

/-- What the levels of the pairs tell about the requests made so far. -/
structure Timed (app : App) (steps : List RecordedStep) (db : Db) : Prop where
  orderly : Orderly app db
  structured : Structured app none db
  lasted : ∀ level ∈ db.breedLevel.rows, ∀ pair ∈ db.breedPair.rows,
    level.pairId = pair.id →
    pair.createdAt + (level.level - 1) * levelTime app pair ≤ level.createdAt
  climbed : ∀ pair ∈ db.breedPair.rows,
    pair.currentLevel ≤ app.config.targetLevel →
    ∃ ups, ups.Sublist steps ∧
      List.Forall₂ (LeveledUp app pair) (upward (pair.currentLevel - 1)) ups

namespace Timed

variable {app : App} {admitted : Oracle → Prop} {steps : List RecordedStep}
  {db after : Db} {pair : BreedPair}

theorem empty (app : App) : Timed app [] .empty where
  orderly := .empty app
  structured := .empty app
  lasted _ member := absurd member List.not_mem_nil
  climbed _ member := absurd member List.not_mem_nil

theorem of_rows (timed : Timed app steps db) (step : RecordedStep)
    (orderly : Orderly app after) (structured : Structured app none after)
    (levels : ∀ level ∈ after.breedLevel.rows, ∃ old ∈ db.breedLevel.rows,
      old.pairId = level.pairId ∧ old.level = level.level ∧
        old.createdAt = level.createdAt)
    (pairs : ∀ pair ∈ after.breedPair.rows, ∃ old ∈ db.breedPair.rows,
      ∃ status, pair = { old with status := status }) :
    Timed app (steps ++ [step]) after where
  orderly := orderly
  structured := structured
  lasted level member pair listed same := by
    obtain ⟨old, present, pairId, number, createdAt⟩ := levels level member
    obtain ⟨oldPair, known, status, rfl⟩ := pairs pair listed
    rw [← createdAt, ← number]
    exact timed.lasted old present oldPair known (pairId.trans same)
  climbed pair listed below := by
    obtain ⟨old, known, status, rfl⟩ := pairs pair listed
    obtain ⟨ups, included, climbed⟩ := timed.climbed old known below
    refine ⟨ups, included.trans (List.sublist_append_left _ _), ?_⟩
    refine climbed.imp fun number step up => ?_
    exact ⟨up.requested, up.checked.imp fun _ checked =>
      ⟨checked.asked, checked.elapsed⟩, up.debited⟩

theorem start {middle : Db} {later : List RecordedStep}
    (orderly : Orderly app after) (structured : Structured app none after)
    (started : LevelStarted app middle pair after)
    (listed : pair ∈ middle.breedPair.rows)
    (lasted : ∀ level ∈ middle.breedLevel.rows, ∀ pair ∈ middle.breedPair.rows,
      level.pairId = pair.id →
      pair.createdAt + (level.level - 1) * levelTime app pair ≤ level.createdAt)
    (climbed : ∀ other ∈ middle.breedPair.rows, other.id ≠ pair.id →
      other.currentLevel ≤ app.config.targetLevel →
      ∃ ups, ups.Sublist later ∧
        List.Forall₂ (LeveledUp app other) (upward (other.currentLevel - 1)) ups)
    (late : ∀ level ∈ after.breedLevel.rows,
      level.id = middle.breedLevel.nextId →
      pair.createdAt + pair.currentLevel * levelTime app pair ≤ level.createdAt ∧
        ∃ ups, ups.Sublist later ∧
          List.Forall₂ (LeveledUp app pair) (upward pair.currentLevel) ups) :
    Timed app later after := by
  cases started with
  | beyond past =>
      refine ⟨orderly, structured, ?_, ?_⟩
      · intro level member other present same
        rcases OnTrack.mem_counter listed present with ⟨old, -⟩ | rfl
        · exact lasted level member other old same
        · exact lasted level member pair listed same
      · intro other present below
        rcases OnTrack.mem_counter listed present with ⟨old, apart⟩ | rfl
        · exact climbed other old apart below
        · exact absurd below (not_le.mpr past)
  | within reachable free buds genders created bred =>
      obtain ⟨late, ups, included, up⟩ :=
        late _ (List.mem_append_right _ (List.mem_singleton_self _)) rfl
      refine ⟨orderly, structured, ?_, ?_⟩
      · intro level member other present same
        rcases List.mem_append.mp member with old | new
        · rcases OnTrack.mem_counter listed present with ⟨known, -⟩ | rfl
          · exact lasted level old other known same
          · exact lasted level old pair listed same
        · rw [List.mem_singleton.mp new] at same ⊢
          rcases OnTrack.mem_counter listed present with ⟨-, apart⟩ | rfl
          · exact absurd same.symm apart
          · change pair.createdAt +
              (pair.currentLevel + 1 - 1) * levelTime app pair ≤ created
            rw [add_sub_cancel_right]
            exact late
      · intro other present below
        rcases OnTrack.mem_counter listed present with ⟨old, apart⟩ | rfl
        · exact climbed other old apart below
        · refine ⟨ups, included, ?_⟩
          change List.Forall₂ _ (upward (pair.currentLevel + 1 - 1)) ups
          rw [add_sub_cancel_right]
          refine up.imp fun number step up => ?_
          exact ⟨up.requested, up.checked.imp fun _ checked =>
            ⟨checked.asked, checked.elapsed⟩, up.debited⟩

theorem exists_counted {middle : Db} (started : LevelStarted app middle pair after)
    (listed : pair ∈ middle.breedPair.rows) :
    { pair with currentLevel := pair.currentLevel + 1 } ∈ after.breedPair.rows := by
  have selected : decide (pair.id = pair.id) = true := decide_eq_true rfl
  rw [started.breedPair]
  refine Serial.mem_modify.mpr ⟨pair, listed, ?_⟩
  rw [if_pos selected]
  rfl

theorem exists_debited {address : Address} {amount : Int} {paid : Db}
    (charged : db.Paid address amount paid) :
    ∃ user ∈ db.user.rows, user.address = address ∧
      ∃ later ∈ paid.user.rows, later.address = address ∧
        later.breedingPoint = user.breedingPoint - amount := by
  obtain ⟨user, found, -, rfl⟩ := charged
  obtain ⟨listed, same⟩ := Table.find_eq_some.mp found
  refine ⟨user, listed, same,
    { user with breedingPoint := user.breedingPoint - amount }, ?_, same, rfl⟩
  rw [Db.setBreedingPoint, Table.mem_modify]
  exact ⟨user, listed, if_pos (decide_eq_true same)⟩

/-- A pair that passed the check of a level has been breeding for all its levels
up to this one. -/
theorem lasted_of_checked {calls : Record} {number : Int} {now : Time}
    (timed : Timed app steps db) (listed : pair ∈ db.breedPair.rows)
    (checked : Checked app db calls pair number now) :
    number * levelTime app pair ≤ now - pair.createdAt := by
  obtain ⟨level, present, owner, rfl, elapsed⟩ := checked.elapsed
  have lasted := timed.lasted level present pair listed owner
  have waited : levelTime app pair ≤ now - level.createdAt :=
    of_decide_eq_true elapsed
  rw [sub_mul, one_mul] at lasted
  linarith

section Steps

variable {source target : Db × Record} {response : Except Failure Response}

theorem step_created {req : Req} {body : CreateBreedPairDto} {rate : Rat} {now : Time}
    {base : Db} (timed : Timed app steps source.1)
    (orderly : Orderly app target.1) (structured : Structured app none target.1)
    (logs : Logs app admitted source ⟨.createPair req body, response⟩ target)
    (ticking : Ticking target.2)
    (same : SameBreeding (source.1.createBreedPair (pairData req body rate) now) base)
    (started : LevelStarted app base
      ((pairData req body rate).row now source.1.breedPair.nextId) target.1) :
    Timed app (steps ++ [⟨source, ⟨.createPair req body, response⟩, target⟩])
      target.1 := by
  have stamps := logs_createPair logs ticking
  have origin : ∀ pair ∈ base.breedPair.rows, pair ∈ source.1.breedPair.rows ∨
      pair = (pairData req body rate).row now source.1.breedPair.nextId := by
    rw [same.breedPair]
    exact fun pair => mem_createBreedPair.mp
  have listed : (pairData req body rate).row now source.1.breedPair.nextId ∈
      base.breedPair.rows := by
    rw [same.breedPair]
    exact mem_createBreedPair.mpr (.inr rfl)
  apply Timed.start orderly structured started listed
  · intro level member pair present owner
    rw [same.breedLevel] at member
    rcases origin pair present with old | rfl
    · exact timed.lasted level member pair old owner
    · have below := timed.structured.levels level member
      rw [owner] at below
      exact absurd below (lt_irrefl _)
  · intro other present apart below
    rcases origin other present with old | rfl
    · obtain ⟨ups, included, climbed⟩ := timed.climbed other old below
      exact ⟨ups, included.trans (List.sublist_append_left _ _), climbed⟩
    · exact absurd rfl apart
  · intro level member id
    rw [same.breedLevel] at id
    refine ⟨?_, [], List.nil_sublist _, .nil⟩
    rcases stamps level member with ⟨old, present, sameId, -⟩ | younger
    · have below := source.1.breedLevel.bounded old present
      rw [sameId, id] at below
      exact absurd below (lt_irrefl _)
    · have bound := younger _ (exists_counted started listed) rfl
      change _ + 0 * _ ≤ _
      rw [zero_mul, add_zero]
      exact bound

theorem step_raised {req : Req} {body : BreedUpDto} {paid : Db} {level : BreedLevel}
    {buds : List BreedBud} (timed : Timed app steps source.1)
    (orderly : Orderly app target.1) (structured : Structured app none target.1)
    (logs : Logs app admitted source ⟨.levelBreedingUp req body, response⟩ target)
    (ticking : Ticking target.2)
    (granted : LevelGranted app admitted source.1 req body pair)
    (charged : source.1.Paid req.user app.config.breedingPointPerLevel paid)
    (started : LevelStarted app
      (paid.evaluateLevel app level buds body.maleBudId body.femaleBudId) pair
      target.1) :
    Timed app (steps ++ [⟨source, ⟨.levelBreedingUp req body, response⟩, target⟩])
      target.1 := by
  have stamps := logs_levelBreedingUp logs ticking
  obtain ⟨id, owner, -⟩ := decide_eq_true_iff.mp granted.own
  have listed : pair ∈ paid.breedPair.rows := by
    rw [charged.breedPair]
    exact granted.listed
  have begun := (timed.structured.pairs pair granted.listed
    (Option.some_ne_none _).symm).begun
  apply Timed.start orderly structured started listed
  · intro level member other present own
    change other ∈ paid.breedPair.rows at present
    obtain ⟨old, known, -, pairId, number, createdAt⟩ := exists_evaluateLevel member
    rw [charged.breedPair] at present
    rw [charged.breedLevel] at known
    rw [number, createdAt]
    exact timed.lasted old known other present (pairId.symm.trans own)
  · intro other present _ below
    change other ∈ paid.breedPair.rows at present
    rw [charged.breedPair] at present
    obtain ⟨ups, included, climbed⟩ := timed.climbed other present below
    exact ⟨ups, included.trans (List.sublist_append_left _ _), climbed⟩
  · intro next member newest
    change next.id = paid.breedLevel.nextId at newest
    rw [charged.breedLevel] at newest
    rcases stamps next member with ⟨old, present, sameId, -⟩ | fresh
    · have below := source.1.breedLevel.bounded old present
      rw [sameId, newest] at below
      exact absurd below (lt_irrefl _)
    obtain ⟨other, present, own, now, checked, younger⟩ := fresh
    obtain rfl := source.1.breedPair.eq_of_key_eq present granted.listed
      ((decide_eq_true_iff.mp own).1.trans id.symm)
    constructor
    · have lasted := timed.lasted_of_checked present checked
      linarith
    · obtain ⟨ups, included, climbed⟩ := timed.climbed other present granted.below
      have numbers : upward other.currentLevel =
          upward (other.currentLevel - 1) ++ [other.currentLevel] := by
        have next := @upward_succ (other.currentLevel - 1) (by omega)
        rw [sub_add_cancel] at next
        exact next
      rw [numbers]
      refine ⟨ups ++ [_], included.append_right _,
        List.rel_append climbed (.cons ?_ .nil)⟩
      refine ⟨⟨req, body, rfl, id.symm⟩, ⟨now, checked⟩, ?_⟩
      obtain ⟨user, known, address, later, written, sameAddress, points⟩ :=
        exists_debited charged
      rw [owner]
      refine ⟨user, known, address, later, ?_, sameAddress, points⟩
      change later ∈ target.1.user.rows
      rw [started.user]
      exact written

theorem step {exchange : Exchange} (timed : Timed app steps source.1)
    (logs : Logs app admitted source exchange target)
    (ticking : Ticking target.2) :
    Timed app (steps ++ [⟨source, exchange, target⟩]) target.1 := by
  have handles := handles_of_logs logs
  have orderly := timed.orderly.step handles
  have bred := timed.orderly.bred handles
  have structured := timed.structured.bred bred
  obtain ⟨request, response⟩ := exchange
  cases bred with
  | kept same =>
      apply timed.of_rows _ orderly structured
      · rw [same.breedLevel]
        exact fun level member => ⟨level, member, rfl, rfl, rfl⟩
      · rw [same.breedPair]
        exact fun pair member => ⟨pair, member, pair.status, rfl⟩
  | closed ended same =>
      apply timed.of_rows _ orderly structured
      · rw [same.breedLevel]
        exact fun level member => ⟨level, member, rfl, rfl, rfl⟩
      · rw [same.breedPair]
        intro pair member
        obtain ⟨old, present, closed⟩ := exists_updateStatus member
        exact ⟨old, present, _, closed⟩
  | created valid same started =>
      exact timed.step_created orderly structured logs ticking same started
  | raised granted charged evaluable started =>
      exact timed.step_raised orderly structured logs ticking granted charged started
  | finalized granted ended same =>
      apply timed.of_rows _ orderly structured
      · rw [same.breedLevel]
        intro level member
        obtain ⟨old, present, -, pairId, number, createdAt⟩ := exists_evaluateLevel member
        exact ⟨old, present, pairId.symm, number.symm, createdAt.symm⟩
      · rw [same.breedPair]
        intro pair member
        obtain ⟨old, present, closed⟩ := exists_updateStatus member
        exact ⟨old, present, _, closed⟩

end Steps

end Timed

section Runs

variable {app : App} {admitted : Oracle → Prop} {steps : List RecordedStep}
  {final : Db × Record}

/-- No pair reaches its dice before it has been bred through all its levels. -/
theorem no_shortcut (run : RecordedRun app admitted (.empty, []) steps final)
    (ticking : Ticking final.2) :
    Everywhere (fun earlier step => ∀ pair ∈ step.source.1.breedPair.rows,
      ∀ now, FinalizedAt pair now step → FullyBred app pair now earlier step)
      steps := by
  suffices both : Timed app steps final.1 ∧ Everywhere (fun earlier step =>
      ∀ pair ∈ step.source.1.breedPair.rows, ∀ now,
        FinalizedAt pair now step → FullyBred app pair now earlier step) steps from
    both.2
  induction run with
  | nil => exact ⟨.empty app, everywhere_nil⟩
  | @snoc steps current target exchange earlier logs induction =>
      have recorded := exists_callsOf logs
      have before : Ticking current.2 := by
        rw [recorded] at ticking
        exact ticking.left
      obtain ⟨timed, everywhere⟩ := induction before
      refine ⟨timed.step logs ticking, everywhere_snoc.mpr ⟨everywhere, ?_⟩⟩
      intro pair listed now finalized
      obtain ⟨⟨req, body, asked, same⟩, call, made, settled, rfl⟩ := finalized
      obtain ⟨request, response⟩ := exchange
      obtain rfl : request = .finalizeBreeding req body := asked
      rw [← same] at settled
      obtain ⟨other, present, own, reached, check, checked, passed⟩ :=
        logs_finalizeBreeding logs ticking call made settled
      obtain rfl := current.1.breedPair.eq_of_key_eq present listed
        ((decide_eq_true_iff.mp own).1.trans same)
      have last : other.currentLevel = app.config.targetLevel := by
        obtain ⟨level, stored, owner, number, -⟩ := checked.elapsed
        have member : ⟨level, budsOf current.1 level.id⟩ ∈
            ladder current.1 other.id := mem_ladder.mpr ⟨stored, owner, rfl⟩
        have bound := ((timed.structured.pairs other listed
          (Option.some_ne_none _).symm).bounds member).2
        change level.level ≤ _ at bound
        rw [number] at bound
        exact le_antisymm (bound.trans (min_le_right _ _)) reached
      rw [last] at checked
      obtain ⟨ups, included, climbed⟩ := timed.climbed other listed last.le
      rw [last] at climbed
      have lasted := timed.lasted_of_checked listed checked
      refine ⟨?_, ⟨ups, included, climbed⟩, check, passed, checked⟩
      linarith

/-- A request handled by one oracle, with every call on record. -/
def recordRequest (app : App) (entry : Request × Oracle) (state : Db × Record) :
    Exchange × Db × Record :=
  let handled := (surroundings fun _ => True).recorded.run (fun _ => entry.2)
    (handle app entry.1) state
  (⟨entry.1, handled.1⟩, handled.2)

theorem run_of_record (app : App) (script : List (Request × Oracle)) :
    RecordedRun app (fun _ => True) (.empty, [])
      (play (recordRequest app) script (.empty, [])).1
      (play (recordRequest app) script (.empty, [])).2 := by
  have made : ∀ (entry : Request × Oracle) (state : Db × Record),
      Logs app (fun _ => True) state (recordRequest app entry state).1
        (recordRequest app entry state).2 :=
    fun _ _ => World.runs_run (fun _ _ => trivial) _ _
  exact History.play made script .nil

/-- The record of a login names its message, but nothing reads the message again. -/
theorem play_login (app : App) (rest : List (Request × Oracle))
    (state : Db × Record) :
    play (recordRequest app) ((.login (loginFrom "alice"),
        .agreeable "alice" (period 0)) :: rest) state =
      let oracle := Oracle.agreeable "alice" (period 0)
      let signed := (surroundings fun _ => True).recorded.run (fun _ => oracle)
        (signIn (loginFrom "alice"))
        (state.1, state.2 ++ [⟨.dateNow, oracle⟩] ++
          [⟨.verifyMessage (loginFrom "alice").message "signed", oracle⟩])
      (⟨state, ⟨.login (loginFrom "alice"), signed.1⟩, signed.2⟩ ::
        (play (recordRequest app) rest signed.2).1,
        (play (recordRequest app) rest signed.2).2) := by
  have accepted := (genuine_loginFrom (Eq.refl "alice".toLower)).accepted
  rw [play, recordRequest, run_login (by decide +kernel) accepted rfl
    (Eq.refl (some "alice")) rfl]
  rfl

def finalizingScript : List (Request × Oracle) :=
  breedingScript ++
    [(.finalizeBreeding alice ⟨1, 17, 18⟩, .agreeable "alice" (period 5))]

theorem no_shortcut_breeding :
    ∃ earlier step later,
      (play (recordRequest (liveApp .goerli)) finalizingScript
        (.empty, [])).1 = earlier ++ step :: later ∧
      ∃ pair ∈ step.source.1.breedPair.rows,
        FinalizedAt pair (period 5) step ∧
        FullyBred (liveApp .goerli) pair (period 5) earlier step := by
  have served : finalizingScript = (.login (loginFrom "alice"),
    .agreeable "alice" (period 0)) :: finalizingScript.tail := rfl
  have rolled : ∃ step ∈ (play (recordRequest (liveApp .goerli))
      finalizingScript (.empty, [])).1,
      step.label.request = .finalizeBreeding alice ⟨1, 17, 18⟩ ∧
        ∃ pair ∈ step.source.1.breedPair.rows, pair.id = 1 ∧
          ∃ call ∈ callsOf step, settles pair.id call.query = true ∧
            call.oracle.now = period 5 := by
    rw [served, play_login]
    decide +kernel
  have ticking : Ticking (play (recordRequest (liveApp .goerli))
      finalizingScript (.empty, [])).2.2 := by
    rw [served, play_login]
    apply List.isChain_iff_pairwise.mp
    decide +kernel
  obtain ⟨step, member, asked, pair, listed, id, settled⟩ := rolled
  obtain ⟨earlier, later, split⟩ := List.append_of_mem member
  have finalized : FinalizedAt pair (period 5) step :=
    ⟨⟨alice, ⟨1, 17, 18⟩, asked, id.symm⟩, settled⟩
  refine ⟨earlier, step, later, split, pair, listed, finalized, ?_⟩
  exact no_shortcut (run_of_record (liveApp .goerli) finalizingScript) ticking
    earlier step later split pair listed (period 5) finalized

end Runs

end BudBreeding.Lifecycle
