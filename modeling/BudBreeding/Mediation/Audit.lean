import BudBreeding.Mediation.Conduct
import BudBreeding.Concurrency.Signatures

namespace BudBreeding.Mediation

open Data Program Backend Concurrency

/-! What can be told of every write, however the requests are interleaved. -/

section Writes

variable {db : Db} {oracle : Oracle} {query : Query}

/-- A second-generation bud that is stored was so before, or it is created now. -/
theorem origin_of_gen1Bud {bud : Gen1Bud}
    (listed : bud ∈ (exec oracle query db).2.gen1Bud.rows) :
    (∃ before ∈ db.gen1Bud.rows, Gen1Later before bud ∧
        (bud.name = before.name ∨
          query = .gen1BudUpdateName before.id bud.name)) ∨
      ∃ data, query = .gen1BudCreate data ∧
        bud = data.row oracle.now db.gen1Bud.nextId := by
  have stays : bud ∈ db.gen1Bud.rows → ∃ before ∈ db.gen1Bud.rows,
      Gen1Later before bud ∧ (bud.name = before.name ∨
        query = .gen1BudUpdateName before.id bud.name) :=
    fun stored => ⟨bud, stored, .refl bud, .inl rfl⟩
  by_cases written : query.written = some .gen1Bud
  · cases query with
    | gen1BudCreate data =>
        rcases List.mem_append.mp listed with old | new
        · exact .inl (stays old)
        · exact .inr ⟨data, rfl, List.mem_singleton.mp new⟩
    | gen1BudUpdateSignature id signature =>
        cases signature with
        | none => exact .inl (stays listed)
        | some value =>
            rcases Serial.of_mem_modify listed with
              ⟨old, stored, -, rfl⟩ | ⟨old, -⟩
            · exact .inl ⟨old, stored, rfl, .inl rfl⟩
            · exact .inl (stays old)
    | gen1BudUpdateName id name =>
        rcases Serial.of_mem_modify listed with
          ⟨old, stored, chosen, rfl⟩ | ⟨old, -⟩
        · rw [← of_decide_eq_true chosen]
          exact .inl ⟨old, stored, rfl, .inr rfl⟩
        · exact .inl (stays old)
    | _ => cases written
  · rw [(exec_sameBut oracle query db).gen1Bud written] at listed
    exact .inl (stays listed)

/-- Only renaming changes the name of a stored bud. -/
theorem query_of_renamed {before after : Gen1Bud}
    (listed : before ∈ db.gen1Bud.rows)
    (present : after ∈ (exec oracle query db).2.gen1Bud.rows)
    (same : after.id = before.id) (changed : after.name ≠ before.name) :
    query = .gen1BudUpdateName before.id after.name := by
  rcases origin_of_gen1Bud present with
    ⟨old, stored, later, kept | renames⟩ | ⟨data, -, new⟩
  · obtain rfl := db.gen1Bud.eq_of_key_eq stored listed
      (later.id.symm.trans same)
    exact absurd kept changed
  · rw [renames, ← same, later.id]
  · have below := db.gen1Bud.bounded before listed
    rw [new] at same
    exact absurd same.symm below.ne

theorem origin_of_breedBud {bud : BreedBud}
    (listed : bud ∈ (exec oracle query db).2.breedBud.rows) :
    bud ∈ db.breedBud.rows ∨ ∃ levelId buds,
      query = .breedBudCreateMany levelId buds ∧ bud.toBud ∈ buds := by
  by_cases written : query.written = some .breedBud
  · cases query with
    | breedBudCreateMany levelId buds =>
        have rows :
            (exec oracle (.breedBudCreateMany levelId buds) db).2.breedBud.rows =
              _ := Serial.rows_createMany buds
        rw [rows] at listed
        rcases List.mem_append.mp listed with old | new
        · exact .inl old
        · obtain ⟨data, member, position, rfl⟩ := Serial.of_mem_numbered new
          exact .inr ⟨levelId, buds, rfl, member⟩
    | _ => cases written
  · rw [(exec_sameBut oracle query db).breedBud written] at listed
    exact .inl listed

end Writes

section Rivals

/-- `alice` finalizes her pair and names the bud that she wins. -/
def rivalNaming (thread : Bool) : Request :=
  if thread then .finalizeBreeding alice ⟨1, 17, 18⟩
  else .renameGen1Buds alice ⟨1, " Kush"⟩

def namedRivals : List (ServerStep Bool) × Server Bool :=
  interleave (liveApp .goerli) rivalNaming (inOrder 30 (period 5))
    (breedingAfter 7)

theorem interleaving_namedRivals :
    Interleaving (liveApp .goerli) (fun _ => True) rivalNaming (breedingAfter 7)
      namedRivals.1 namedRivals.2 :=
  interleaving_of_schedule _ _ _ _

theorem unwon_breedingAfter : (breedingAfter 7).gen1Bud.rows = [] := by
  rw [breedingAfter_succ 6]
  decide +kernel

end Rivals

section Interleavings

variable {ι : Type} [DecidableEq ι] {app : App} {admitted : Oracle → Prop}
  {requests : ι → Request} {db : Db} {steps : List (ServerStep ι)}
  {final : Server ι}

theorem evolved_of_steps (rested : Rested app admitted db)
    (interleaving : Interleaving app admitted requests db steps final) :
    ∀ step ∈ steps, Evolves step.source.store final.store ∧
      Evolves step.target.store final.store := by
  have evolved := evolved_of_interleaving rested interleaving
  intro step member
  obtain ⟨source, target, -⟩ := interleaving.source_mem_states member
  exact ⟨evolved _ source, evolved _ target⟩

/-- A step of an interleaving, given the steps before it. -/
structure Audited (app : App) (admitted : Oracle → Prop) (requests : ι → Request)
    (db : Db) (earlier : List (ServerStep ι)) (step : ServerStep ι) : Prop where
  reached : Interleaving app admitted requests db earlier step.source
  extended : Interleaving app admitted requests db (earlier ++ [step])
    step.target
  made : ∃ oracle, step.target.store =
    (exec oracle step.label.query step.source.store).2
  grounds : Grounded app (requests step.label.thread)
    (asked step.label.thread earlier) step.label.query

theorem audited_of_interleaving
    (interleaving : Interleaving app admitted requests db steps final) :
    Everywhere (Audited app admitted requests db) steps := by
  have grounded := justified_of_history interleaving
    fun thread => conducts_handle app (requests thread) rfl
  intro earlier step later split
  have grounds := grounded earlier step later split
  obtain ⟨source, label, target⟩ := step
  obtain ⟨reached, next⟩ :=
    interleaving.everywhere_reached earlier _ later split
  refine ⟨reached, reached.snoc next, ?_, grounds⟩
  dsimp only at next ⊢
  cases next with
  | ask oracle waiting allowed => exact ⟨oracle, rfl⟩

/-- A query that a thread has asked, with the step at which it was answered. -/
structure AskedAt (app : App) (admitted : Oracle → Prop) (requests : ι → Request)
    (db : Db) (steps : List (ServerStep ι)) (thread : ι)
    (known : Asked Query.Answer) (earlier : List (ServerStep ι))
    (step : ServerStep ι) : Prop where
  member : step ∈ steps
  reached : Interleaving app admitted requests db earlier step.source
  grounds : Grounded app (requests thread) (asked thread earlier) known.query
  answered : ∃ oracle, exec oracle known.query step.source.store =
    (known.answer, step.target.store)

theorem askedAt_of_asked
    (interleaving : Interleaving app admitted requests db steps final)
    {thread : ι} {known : Asked Query.Answer}
    (knows : known ∈ asked thread steps) :
    ∃ earlier step,
      AskedAt app admitted requests db steps thread known earlier step := by
  obtain ⟨step, member, label, answered⟩ := step_of_asked interleaving knows
  obtain ⟨earlier, later, split⟩ := List.append_of_mem member
  obtain ⟨reached, -, -, grounds⟩ :=
    audited_of_interleaving interleaving earlier step later split
  rw [label] at grounds
  exact ⟨earlier, step, member, reached, grounds, answered⟩

/-- However the requests are interleaved, no request changes a table or has
something signed but on the grounds of what it has asked and been answered
before. -/
theorem writes_grounded
    (interleaving : Interleaving app admitted requests db steps final) :
    Everywhere (fun earlier step =>
      Grounded app (requests step.label.thread)
        (asked step.label.thread earlier) step.label.query) steps :=
  fun earlier step later split =>
    (audited_of_interleaving interleaving earlier step later split).grounds

theorem writes_grounded_naming :
    ∃ earlier step later, namedRivals.1 = earlier ++ step :: later ∧
      mintedToken step.label.query = some 1 ∧
      Grounded (liveApp .goerli) (rivalNaming step.label.thread)
        (asked step.label.thread earlier) step.label.query := by
  have signed : ∃ step ∈ namedRivals.1,
      mintedToken step.label.query = some 1 := by
    rw [namedRivals, breedingAfter_succ 6]
    decide +kernel
  obtain ⟨step, member, minted⟩ := signed
  obtain ⟨earlier, later, split⟩ := List.append_of_mem member
  exact ⟨earlier, step, later, split, minted,
    writes_grounded interleaving_namedRivals earlier step later split⟩

section Names

/-- The request names the bud as its minter may: in time, and after it has seen
that the name is acceptable and that nothing bore it. -/
def NamedInTime (app : App) (request : Request) (thread : ι)
    (earlier : List (ServerStep ι)) (bud : Gen1Bud) (name : String) : Prop :=
  ∃ req body, request = .renameGen1Buds req body ∧ body.budId = bud.id ∧
    req.user = bud.minterAddress ∧ name = BudController.trim body.name ∧
    (∃ now, Knows (asked thread earlier) .dateNow now ∧
      now ≤ bud.createdAt + app.config.renameAllowedTime) ∧
    Knows (asked thread earlier) (.checkBudNameApi body.name) (some true) ∧
    ∃ look ∈ earlier, look.label.thread = thread ∧
      ∀ bud ∈ look.source.store.gen1Bud.rows,
        BudController.sqlTrim bud.name ≠ name

/-- However the requests are interleaved, a stored bud is renamed by its minter
only, in the time that is allowed since it was stored, and to an acceptable name
that no bud bore at an earlier step of the request. -/
theorem names_in_time (rested : Rested app admitted db)
    (interleaving : Interleaving app admitted requests db steps final) :
    Everywhere (fun earlier step =>
      ∀ before ∈ step.source.store.gen1Bud.rows,
        ∀ after ∈ step.target.store.gen1Bud.rows,
          after.id = before.id → after.name ≠ before.name →
          NamedInTime app (requests step.label.thread) step.label.thread earlier
            before after.name) steps := by
  intro earlier step later split before listed after present same changed
  obtain ⟨reached, -, ⟨oracle, made⟩, grounds⟩ :=
    audited_of_interleaving interleaving earlier step later split
  have evolved := evolved_of_steps rested reached
  rw [made] at present
  rw [query_of_renamed listed present same changed] at grounds
  obtain ⟨req, body, bud, now, asks, id, name, found, clock, inTime, unborne,
    acceptable⟩ := grounds
  -- The row that was read is the stored one, as far as its name goes.
  obtain ⟨look, looked, -, reader, read⟩ := answered_of_history reached found
  obtain ⟨seen, mine⟩ := Oracle.findFirst_eq_some (congrArg Prod.fst read)
  obtain ⟨chosen, owner⟩ := decide_eq_true_iff.mp mine
  obtain ⟨row, kept, unmoved⟩ := (evolved look looked).1.gen1Bud bud seen
  obtain rfl := step.source.store.gen1Bud.eq_of_key_eq listed kept
    (id.trans (chosen.symm.trans unmoved.id.symm))
  -- No row bore the name when it was counted.
  obtain ⟨count, counted, own, counter, counts⟩ :=
    answered_of_history reached unborne
  refine ⟨req, body, asks, id.symm, ?_, name, ⟨now, clock, ?_⟩, acceptable,
    count, counted, own, ?_⟩
  · rw [unmoved.minterAddress, owner]
  · rw [unmoved.createdAt]
    exact inTime
  · intro other stored bore
    have none := List.countP_eq_zero.mp (congrArg Prod.fst counts) other stored
    exact none (decide_eq_true (bore.trans name))

theorem names_in_time_naming :
    ∃ earlier step later, namedRivals.1 = earlier ++ step :: later ∧
      ∃ bud ∈ step.source.store.gen1Bud.rows, bud.name ≠ "Kush" ∧
        NamedInTime (liveApp .goerli) (rivalNaming step.label.thread)
          step.label.thread earlier bud "Kush" := by
  have named : ∃ step ∈ namedRivals.1,
      ∃ before ∈ step.source.store.gen1Bud.rows,
        ∃ after ∈ step.target.store.gen1Bud.rows, after.id = before.id ∧
          before.name ≠ "Kush" ∧ after.name = "Kush" := by
    rw [namedRivals, breedingAfter_succ 6]
    decide +kernel
  obtain ⟨step, member, before, listed, after, present, same, other, kush⟩ :=
    named
  obtain ⟨earlier, later, split⟩ := List.append_of_mem member
  refine ⟨earlier, step, later, split, before, listed, other, kush ▸ ?_⟩
  refine names_in_time (rested_breedingAfter 7) interleaving_namedRivals earlier
    step later split before listed after present same ?_
  rw [kush]
  exact Ne.symm other

end Names

section Traits

/-- The bred buds have sizes that can be drawn, and the second-generation buds
are as some dice awards them, but for their names. -/
structure Traited (app : App) (db : Db) : Prop where
  bred : ∀ bud ∈ db.breedBud.rows, Sized bud.toBud
  won : ∀ bud ∈ db.gen1Bud.rows, ∃ rate name,
    Awarded app rate { bud.toBud with name := name }

theorem PrizeGrounds.awarded {request : Request} {past : Past}
    {data : Gen1BudCreate} (grounds : PrizeGrounds app request past data) :
    ∃ rate, Awarded app rate data.bud := by
  rcases grounds with ⟨-, -, -, -, rate, -, -, -, -, -, awarded, -⟩ |
    ⟨-, -, -, -, awarded, -⟩
  · exact ⟨rate, awarded⟩
  · exact ⟨_, awarded⟩

omit [DecidableEq ι] in
theorem Traited.step {request : Request} {past : Past} {query : Query}
    (traited : Traited app db) (grounds : Grounded app request past query)
    (oracle : Oracle) : Traited app (exec oracle query db).2 where
  bred bud listed := by
    rcases origin_of_breedBud listed with old | ⟨levelId, buds, rfl, drawn⟩
    · exact traited.bred bud old
    · exact grounds.1 bud.toBud drawn
  won bud listed := by
    rcases origin_of_gen1Bud listed with
      ⟨before, stored, later, -⟩ | ⟨data, rfl, rfl⟩
    · obtain ⟨rate, name, awarded⟩ := traited.won before stored
      refine ⟨rate, name, ?_⟩
      rw [later]
      exact awarded
    · obtain ⟨rate, awarded⟩ := PrizeGrounds.awarded grounds
      exact ⟨rate, data.bud.name, awarded⟩

/-- However the requests are interleaved, every bud that is bred or won has the
traits its dice can give. -/
theorem traits_kept (traited : Traited app db)
    (interleaving : Interleaving app admitted requests db steps final) :
    ∀ server ∈ states (serving app requests db) steps,
      Traited app server.store := by
  refine interleaving.forall_states traited ?_
  intro step member before _
  obtain ⟨earlier, later, split⟩ := List.append_of_mem member
  obtain ⟨-, -, ⟨oracle, made⟩, grounds⟩ :=
    audited_of_interleaving interleaving earlier step later split
  rw [made]
  exact before.step grounds oracle

theorem traited_breedingAfter : Traited (liveApp .goerli) (breedingAfter 7) := by
  have sized : ∀ bud ∈ (breedingAfter 7).breedBud.rows,
      1 ≤ bud.thc ∧ bud.thc < 22 ∧ 1 ≤ bud.budSize ∧ bud.budSize < 20 := by
    rw [breedingAfter_succ 6]
    decide +kernel
  refine ⟨sized, fun bud listed => ?_⟩
  rw [unwon_breedingAfter] at listed
  cases listed

theorem traits_kept_naming :
    namedRivals.2.store.gen1Bud.rows.length = 1 ∧
      Traited (liveApp .goerli) namedRivals.2.store := by
  constructor
  · rw [namedRivals, breedingAfter_succ 6]
    decide +kernel
  · exact traits_kept traited_breedingAfter interleaving_namedRivals _
      interleaving_namedRivals.final_mem_states

end Traits

section Prizes

/-- The pair that a second-generation bud comes from is the minter's, has reached
the target level and breeds no longer. -/
def Earned (app : App) (db : Db) (bud : Gen1Bud) : Prop :=
  ∀ id, bud.pairId = some id → ∃ pair ∈ db.breedPair.rows, pair.id = id ∧
    pair.userAddress = bud.minterAddress ∧
    app.config.targetLevel ≤ pair.currentLevel ∧ pair.status ≠ .PAIRED

theorem Earned.later {after : Db} {bud row : Gen1Bud} (earned : Earned app db bud)
    (evolved : Evolves db after) (later : Gen1Later bud row) :
    Earned app after row := by
  intro id origin
  rw [later] at origin
  obtain ⟨pair, listed, same, owner, reached, closed⟩ := earned id origin
  obtain ⟨next, present, kept⟩ := evolved.breedPair pair listed
  refine ⟨next, present, kept.id.trans same, ?_, reached.trans kept.climbing, ?_⟩
  · rw [kept.userAddress, owner, later.minterAddress]
  · exact fun paired => closed (kept.paired paired)

omit [DecidableEq ι] in
theorem pair_of_status {id : Int} {status : BreedPairStatus} {pair : BreedPair}
    {after : Db} (oracle : Oracle)
    (made : exec oracle (.breedPairUpdate id (.status status)) db =
      (.ok pair, after)) :
    ∃ row ∈ after.breedPair.rows, row.id = id ∧ row.status = status := by
  obtain ⟨answered, rfl⟩ := Prod.mk.inj made
  cases found : db.breedPair.find id with
  | none =>
      rw [found] at answered
      cases answered
  | some row =>
      obtain ⟨listed, same⟩ := Table.find_eq_some.mp found
      refine ⟨{ row with status := status },
        Serial.mem_modify.mpr ⟨row, listed, if_pos (decide_eq_true same)⟩, same,
        rfl⟩

/-- A pair that was found while it was breeding is the user's, and it stays so. -/
theorem pair_of_found {earlier : List (ServerStep ι)} {server : Server ι}
    (rested : Rested app admitted db)
    (reached : Interleaving app admitted requests db earlier server)
    {thread : ι} {user : Address} {pairId : Int} {pair : BreedPair}
    (found : FoundPair (asked thread earlier) user pairId pair) :
    pair.id = pairId ∧ ∃ row ∈ server.store.breedPair.rows,
      PairLater pair row ∧ row.id = pairId ∧ row.userAddress = user := by
  obtain ⟨look, looked, -, reader, read⟩ := answered_of_history reached found
  obtain ⟨seen, mine⟩ := Oracle.findFirst_eq_some (congrArg Prod.fst read)
  obtain ⟨chosen, owner, -⟩ := decide_eq_true_iff.mp mine
  obtain ⟨row, listed, kept⟩ :=
    (evolved_of_steps rested reached look looked).1.breedPair pair seen
  exact ⟨chosen, row, listed, kept, kept.id.trans chosen,
    kept.userAddress.trans owner⟩

/-- The pair was found while it was breeding, and closed later on. -/
theorem earned_of_grounds {earlier : List (ServerStep ι)} {server : Server ι}
    (rested : Rested app admitted db)
    (reached : Interleaving app admitted requests db earlier server)
    {thread : ι} {data : Gen1BudCreate} {now : Time} {id : Int}
    (grounds : PrizeGrounds app (requests thread) (asked thread earlier) data) :
    Earned app server.store (data.row now id) := by
  rcases grounds with ⟨req, body, pair, closed, rate, asks, finishes, -, closing,
    -, -, origin, minter⟩ | ⟨body, -, -, -, -, origin, -⟩
  · intro pairId same
    have same : data.pairId = some pairId := same
    obtain rfl := Option.some.inj (origin.symm.trans same)
    obtain ⟨chosen, row, listed, kept, named, owner⟩ :=
      pair_of_found rested reached finishes.found
    refine ⟨row, listed, kept.id, owner.trans minter.symm,
      finishes.reached.trans kept.climbing, ?_⟩
    -- The row that was closed is the same, and stays closed.
    obtain ⟨update, updated, -, writer, closes⟩ :=
      answered_of_history reached closing
    obtain ⟨ended, stored, id, status⟩ := pair_of_status writer closes
    obtain ⟨last, present, after⟩ :=
      (evolved_of_steps rested reached update updated).2.breedPair ended stored
    obtain rfl := server.store.breedPair.eq_of_key_eq listed present
      (named.trans (id.symm.trans after.id.symm))
    intro paired
    have again := after.paired paired
    rw [status] at again
    cases again
  · intro pairId same
    cases origin.symm.trans same

theorem earned_of_interleaving (rested : Rested app admitted db)
    (before : ∀ bud ∈ db.gen1Bud.rows, Earned app db bud)
    (interleaving : Interleaving app admitted requests db steps final) :
    ∀ server ∈ states (serving app requests db) steps,
      ∀ bud ∈ server.store.gen1Bud.rows, Earned app server.store bud := by
  refine interleaving.forall_states before ?_
  intro step member earned _ bud listed
  obtain ⟨earlier, later, split⟩ := List.append_of_mem member
  obtain ⟨reached, extended, ⟨oracle, made⟩, grounds⟩ :=
    audited_of_interleaving interleaving earlier step later split
  have evolved := (evolved_of_steps rested extended step
    (List.mem_append_right _ List.mem_cons_self)).1
  rw [made] at listed
  rcases origin_of_gen1Bud listed with
    ⟨row, stored, kept, -⟩ | ⟨data, asks, rfl⟩
  · exact (earned row stored).later evolved kept
  · rw [asks] at grounds
    exact (earned_of_grounds rested reached grounds).later evolved (.refl _)

/-- However the requests are interleaved, every second-generation bud that comes
from a pair is the minter's prize for a breeding that is over. -/
theorem prizes_earned (rested : Rested app admitted db)
    (before : ∀ bud ∈ db.gen1Bud.rows, Earned app db bud)
    (interleaving : Interleaving app admitted requests db steps final) :
    ∀ server ∈ states (serving app requests db) steps,
      ∀ bud ∈ server.store.gen1Bud.rows, Earned app server.store bud :=
  earned_of_interleaving rested before interleaving

theorem prizes_earned_naming :
    ∃ bud ∈ namedRivals.2.store.gen1Bud.rows, bud.pairId = some 1 ∧
      Earned (liveApp .goerli) namedRivals.2.store bud := by
  have won : ∃ bud ∈ namedRivals.2.store.gen1Bud.rows, bud.pairId = some 1 := by
    rw [namedRivals, breedingAfter_succ 6]
    decide +kernel
  obtain ⟨bud, listed, origin⟩ := won
  refine ⟨bud, listed, origin, ?_⟩
  refine prizes_earned (rested_breedingAfter 7) ?_ interleaving_namedRivals _
    interleaving_namedRivals.final_mem_states bud listed
  intro other stored
  rw [unwon_breedingAfter] at stored
  cases stored

end Prizes

end Interleavings

end BudBreeding.Mediation
