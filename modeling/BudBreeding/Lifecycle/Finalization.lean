import BudBreeding.Backend.Interleavings

namespace BudBreeding.Lifecycle

open Data Program Backend

/-! Finalize requests that are handled at the same time. -/

/-- How far a finalize request has come with the reward of its pair. -/
inductive Phase where
  | looking
  | won
  | issued
  | signed
  deriving DecidableEq

def Phase.Rewarded (phase : Phase) : Prop :=
  phase = .issued ∨ phase = .signed

structure FinalizeStage where
  pairId : Int
  phase : Phase

/-- Queries that neither change a pair nor issue or sign a bud. -/
def Harmless : Query → Prop
  | .breedPairCreate _ => False
  | .breedPairUpdate _ _ => False
  | .breedPairUpdateMany _ _ => False
  | .gen1BudCreate _ => False
  | .signMessage _ => False
  | _ => True

namespace FinalizeStage

def protocol : Protocol Query.Answer FinalizeStage where
  advance
    | ⟨pairId, .looking⟩, .breedPairUpdate _ (.status .COMPLETED), .ok _ =>
        ⟨pairId, .won⟩
    | ⟨pairId, .won⟩, .gen1BudCreate _, _ => ⟨pairId, .issued⟩
    | ⟨pairId, .issued⟩, .signMessage _, _ => ⟨pairId, .signed⟩
    | stage, _, _ => stage
  legal
    | ⟨pairId, .looking⟩, .breedPairUpdate id (.status status), _ =>
        id = pairId ∧ status ≠ .PAIRED
    | ⟨pairId, .won⟩, .gen1BudCreate data, _ => data.pairId = some pairId
    | ⟨_, .issued⟩, .signMessage _, _ => True
    | _, query, _ => Harmless query

end FinalizeStage

open FinalizeStage

section Handler

variable {admitted : Oracle → Prop} {stage : FinalizeStage}

theorem ignores_harmless {query : Query} (harmless : Harmless query) :
    protocol.Ignores query := by
  rintro ⟨pairId, phase⟩ answer
  cases query <;> first
    | exact harmless.elim
    | (cases phase <;> exact ⟨trivial, rfl⟩)

theorem uses_harmless {α : Type} {program : Handler α}
    {resources : List Resource} (uses : program.Uses (Query.Within resources))
    (apart : .table .breedPair ∉ resources ∧ .table .gen1Bud ∉ resources ∧
      .wallet ∉ resources) : program.Uses protocol.Ignores := by
  apply uses.mono
  intro query within
  apply ignores_harmless
  cases query <;> first
    | exact trivial
    | exact absurd within apart.1
    | exact absurd within apart.2.1
    | exact absurd within apart.2.2

theorem follows_ask (query : Query) {α : Type}
    {finish : FinalizeStage → Except Failure α → Prop}
    {rest : query.Answer → Handler α} (harmless : Harmless query)
    (continued : ∀ answer, (surroundings admitted).Answers query answer →
      protocol.Follows (surroundings admitted) finish stage (rest answer)) :
    protocol.Follows (surroundings admitted) finish stage
      (ask query >>= rest) := by
  rw [Protocol.follows_call_bind]
  intro answer possible
  obtain ⟨legal, unmoved⟩ := ignores_harmless harmless stage answer
  refine ⟨legal, ?_⟩
  rw [unmoved]
  exact continued answer possible

theorem follows_issueGen1BudMint (minter : Address) (data : Bud) (pairId : Int)
    {rest : Gen1Bud → Handler (Option BreedController.Gen1Reward)}
    (continued : ∀ stage bud,
      protocol.Follows (surroundings admitted) (fun _ _ => True) stage
        (rest bud)) :
    protocol.Follows (surroundings admitted) (fun _ _ => True) ⟨pairId, .won⟩
      (BudService.issueGen1BudMint minter data (some pairId) >>= rest) := by
  rw [Protocol.follows_bind, BudService.issueGen1BudMint, Prisma.gen1BudCreate,
    Protocol.follows_call_bind]
  intro bud _
  refine ⟨rfl, ?_⟩
  rw [signMintRequest, Protocol.follows_call_bind]
  intro signature _
  refine ⟨trivial, ?_⟩
  apply follows_ask (.gen1BudUpdateSignature _ _) trivial
  intro answer _
  cases answer with
  | ok row => exact continued _ row
  | error error => exact trivial

theorem follows_finalizeBreeding (app : App) (req : Req)
    (body : BreedFinalizeDto) :
    protocol.Follows (surroundings admitted) (fun _ _ => True)
      ⟨body.pairId, .looking⟩
      (BreedController.finalizeBreeding app req body) := by
  apply follows_ask (.breedPairFindFirst _) trivial
  intro answer given
  obtain ⟨db, oracle, -, rfl⟩ := given
  simp only [surroundings_exec, exec]
  cases found : oracle.findFirst db.breedPair.rows
      (BreedController.ownPair req.user body.pairId) with
  | none => exact trivial
  | some pair =>
      have own := (Oracle.findFirst_eq_some found).2
      have identified : pair.id = body.pairId := (decide_eq_true_iff.mp own).1
      apply Protocol.follows_throwIf_bind (fun _ => trivial)
      intro _
      apply Protocol.follows_skip
        (uses_harmless (uses_evaluateBreedLevel _ _ _ _) (by simp))
        fun _ => trivial
      intro evaluation
      apply Protocol.follows_skip
        (uses_harmless (uses_finalizeBreeding _ _) (by simp)) fun _ => trivial
      intro result
      apply Protocol.follows_skip _ fun _ => trivial
      · intro freed
        rw [Protocol.follows_bind, Prisma.breedPairUpdate,
          Protocol.follows_call_bind]
        intro answer _
        cases result with
        | none =>
            refine ⟨⟨rfl, by simp⟩, ?_⟩
            cases answer <;> exact trivial
        | some data =>
            refine ⟨⟨rfl, by simp⟩, ?_⟩
            cases answer with
            | error error => exact trivial
            | ok row =>
                simp only [identified]
                apply Protocol.follows_skip
                  (uses_harmless (uses_openNextSlot _) (by simp))
                  fun _ => trivial
                intro slot
                apply follows_issueGen1BudMint
                exact fun _ _ => trivial
      · apply Prog.uses_bind _ uses_settle
        exact (Prog.uses_call _).mpr (ignores_harmless trivial)

end Handler

section Moves

variable {db after : Db} {pairId : Int}

/-- The pairs the issued buds come from, in the order of their rows. -/
def mintedPairs (db : Db) : List (Option Int) :=
  db.gen1Bud.rows.map Gen1Bud.pairId

theorem mintedPairs_updateGen1Bud (db : Db) (id : Int) (data : Gen1BudUpdate) :
    mintedPairs (db.updateGen1Bud id data) = mintedPairs db := by
  change (db.gen1Bud.rows.map _).map _ = _
  rw [List.map_map]
  apply List.map_congr_left
  intro bud _
  simp only [Function.comp_apply]
  split
  · cases data <;> rfl
  · rfl

theorem mintedPairs_harmless (oracle : Oracle) {query : Query}
    (harmless : Harmless query) :
    mintedPairs (exec oracle query db).2 = mintedPairs db := by
  by_cases written : query.written = some .gen1Bud
  · cases query with
    | gen1BudUpdateName id name => exact mintedPairs_updateGen1Bud db _ _
    | gen1BudUpdateSignature id signature =>
        cases signature with
        | none => rfl
        | some value => exact mintedPairs_updateGen1Bud db _ _
    | gen1BudCreate data => exact harmless.elim
    | _ => cases written
  · rw [mintedPairs, (exec_sameBut oracle query db).gen1Bud written]
    rfl

theorem breedPair_harmless (oracle : Oracle) {query : Query}
    (harmless : Harmless query) :
    (exec oracle query db).2.breedPair = db.breedPair := by
  apply (exec_sameBut oracle query db).breedPair
  intro written
  cases query <;> first
    | exact harmless.elim
    | cases written

/-- What one call of a finalize request for `pairId` does to its phase and to the
database. -/
inductive Moved (db : Db) (pairId : Int) (query : Query) :
    Phase → Phase → Db → Prop
  | still {phase : Phase} {after : Db}
      (pairs : after.breedPair = db.breedPair)
      (buds : mintedPairs after = mintedPairs db)
      (unsigned : ∀ request, query ≠ .signMessage request) :
      Moved db pairId query phase phase after
  | lost {status : BreedPairStatus} (closed : status ≠ .PAIRED)
      (asked : query = .breedPairUpdate pairId (.status status)) :
      Moved db pairId query .looking .looking
        (db.updateBreedPair (fun pair => pair.id = pairId) (.status status))
  | won {pair : BreedPair} (present : pair ∈ db.breedPair.rows)
      (same : pair.id = pairId)
      (asked : query = .breedPairUpdate pairId (.status .COMPLETED)) :
      Moved db pairId query .looking .won
        (db.updateBreedPair (fun pair => pair.id = pairId) (.status .COMPLETED))
  | issued {after : Db} (pairs : after.breedPair = db.breedPair)
      (buds : mintedPairs after = mintedPairs db ++ [some pairId])
      (unsigned : ∀ request, query ≠ .signMessage request) :
      Moved db pairId query .won .issued after
  | signed {request : MintRequest} (asked : query = .signMessage request) :
      Moved db pairId query .issued .signed db

theorem moved_of_legal (oracle : Oracle) {query : Query} {phase : Phase}
    (legal : protocol.legal ⟨pairId, phase⟩ query (exec oracle query db).1) :
    ∃ next, protocol.advance ⟨pairId, phase⟩ query (exec oracle query db).1 =
        ⟨pairId, next⟩ ∧
      Moved db pairId query phase next (exec oracle query db).2 := by
  by_cases harmless : Harmless query
  · refine ⟨phase, (ignores_harmless harmless _ _).2, ?_⟩
    apply Moved.still (breedPair_harmless oracle harmless)
      (mintedPairs_harmless oracle harmless)
    rintro request rfl
    exact harmless
  · cases query with
    | breedPairUpdate id data =>
        cases data with
        | currentLevel value => cases phase <;> exact legal.elim
        | status status =>
            cases phase with
            | looking =>
                obtain ⟨rfl, closed⟩ := legal
                simp only [exec]
                cases found : db.breedPair.find id with
                | none =>
                    refine ⟨.looking, ?_, .lost closed rfl⟩
                    cases status <;> rfl
                | some pair =>
                    obtain ⟨present, same⟩ := Table.find_eq_some.mp found
                    cases status with
                    | PAIRED => exact absurd rfl closed
                    | COMPLETED => exact ⟨.won, rfl, .won present same rfl⟩
                    | CANCELED => exact ⟨.looking, rfl, .lost closed rfl⟩
                    | FAILED => exact ⟨.looking, rfl, .lost closed rfl⟩
            | won => exact legal.elim
            | issued => exact legal.elim
            | signed => exact legal.elim
    | gen1BudCreate data =>
        cases phase with
        | won =>
            have minted : data.pairId = some pairId := legal
            refine ⟨.issued, rfl, .issued rfl ?_ ?_⟩
            · rw [← minted]
              exact List.map_append
            · intro request asked
              cases asked
        | looking => exact legal.elim
        | issued => exact legal.elim
        | signed => exact legal.elim
    | signMessage request =>
        cases phase with
        | issued => exact ⟨.signed, rfl, .signed rfl⟩
        | looking => exact legal.elim
        | won => exact legal.elim
        | signed => exact legal.elim
    | breedPairCreate data => cases phase <;> exact legal.elim
    | breedPairUpdateMany filter data => cases phase <;> exact legal.elim
    | _ => exact absurd trivial harmless

end Moves

/-- The pair on which a query records that its breeding was won. -/
def recordsWin : Query → Option Int
  | .breedPairUpdate id (.status .COMPLETED) => some id
  | _ => none

/-- A win is recorded on a pair that is still breeding. -/
def StillPaired (query : Query) (db : Db) : Prop :=
  ∀ pair ∈ db.breedPair.rows, recordsWin query = some pair.id →
    pair.status = .PAIRED

instance (query : Query) (db : Db) : Decidable (StillPaired query db) :=
  inferInstanceAs (Decidable (∀ pair ∈ db.breedPair.rows, _ → _))

section Invariant

variable {ι : Type} [DecidableEq ι]

/-- Requests that have won their pair are the only ones to do so, and only they
issue and sign. -/
structure OneBudEach (pairIds : ι → Int) (earlier : List (Option Int))
    (phases : ι → Phase) (signed : List Int) (db : Db) : Prop where
  closed : ∀ thread, phases thread ≠ .looking →
    ∀ pair ∈ db.breedPair.rows, pair.id = pairIds thread →
      pair.status ≠ .PAIRED
  unique : ∀ first second, phases first ≠ .looking →
    phases second ≠ .looking → pairIds first = pairIds second → first = second
  minted : ∃ pairs : List Int, mintedPairs db = earlier ++ pairs.map some ∧
    pairs.Nodup ∧ ∀ pairId ∈ pairs, ∃ thread, pairIds thread = pairId ∧
      (phases thread).Rewarded
  nodup : signed.Nodup
  signers : ∀ pairId ∈ signed, ∃ thread, pairIds thread = pairId ∧
    phases thread = .signed

/-- The pair for which a query of `thread` signs a bud. -/
def signing (pairIds : ι → Int) (thread : ι) : Query → Option Int
  | .signMessage _ => some (pairIds thread)
  | _ => none

variable {pairIds : ι → Int} {earlier : List (Option Int)} {phases : ι → Phase}
  {signed : List Int} {db after : Db} {thread : ι} {query : Query} {next : Phase}

omit [DecidableEq ι] in
theorem signing_eq_none
    (unsigned : ∀ request, query ≠ .signMessage request) :
    signing pairIds thread query = none := by
  cases query with
  | signMessage request => exact absurd rfl (unsigned request)
  | _ => rfl

omit [DecidableEq ι] in
theorem signing_breedPairUpdate (id : Int) (data : BreedPairUpdate) :
    signing pairIds thread (.breedPairUpdate id data) = none :=
  rfl

private theorem closed_update {id : Int} {status : BreedPairStatus}
    (closed : status ≠ .PAIRED) {pairId : Int}
    (before : pairId = id ∨ ∀ pair ∈ db.breedPair.rows, pair.id = pairId →
      pair.status ≠ .PAIRED) :
    ∀ pair ∈ (db.updateBreedPair (fun pair => pair.id = id)
      (.status status)).breedPair.rows, pair.id = pairId →
        pair.status ≠ .PAIRED := by
  intro pair member same
  rcases Serial.of_mem_modify member with ⟨old, -, -, rfl⟩ | ⟨present, passed⟩
  · exact closed
  · rcases before with here | before
    · exact absurd (same.trans here) (of_decide_eq_false passed)
    · exact before pair present same

private theorem witnessed_update {pairId : Int} (good : Phase → Prop)
    (unfit : ¬ good (phases thread))
    (witnessed : ∃ other, pairIds other = pairId ∧ good (phases other)) :
    ∃ other, pairIds other = pairId ∧
      good (Function.update phases thread next other) := by
  obtain ⟨other, same, fit⟩ := witnessed
  refine ⟨other, same, ?_⟩
  rw [Function.update_of_ne]
  · exact fit
  · rintro rfl
    exact unfit fit

private theorem update_finished (finished : phases thread ≠ .looking)
    (other : ι) (after : Function.update phases thread next other ≠ .looking) :
    phases other ≠ .looking := by
  by_cases same : other = thread
  · rw [same]
    exact finished
  · rw [Function.update_of_ne same] at after
    exact after

/-- A request that closes a pair still breeding is the first to close it. -/
theorem OneBudEach.step_won {pair : BreedPair}
    (before : OneBudEach pairIds earlier phases signed db)
    (was : phases thread = .looking) (present : pair ∈ db.breedPair.rows)
    (same : pair.id = pairIds thread) (breeding : pair.status = .PAIRED) :
    OneBudEach pairIds earlier (Function.update phases thread .won) signed
      (db.updateBreedPair (fun pair => pair.id = pairIds thread)
        (.status .COMPLETED)) := by
  have alone : ∀ other, phases other ≠ .looking →
      pairIds other ≠ pairIds thread := fun other finished samePair =>
    before.closed other finished _ present (same.trans samePair.symm) breeding
  refine ⟨?_, ?_, ?_, before.nodup, ?_⟩
  · intro other finished
    apply closed_update (by simp)
    by_cases here : other = thread
    · exact .inl (congrArg pairIds here)
    · rw [Function.update_of_ne here] at finished
      exact .inr (before.closed other finished)
  · intro first second finished finishedToo samePair
    by_cases atFirst : first = thread
    · by_cases atSecond : second = thread
      · rw [atFirst, atSecond]
      · rw [Function.update_of_ne atSecond] at finishedToo
        rw [atFirst] at samePair
        exact absurd samePair.symm (alone second finishedToo)
    · rw [Function.update_of_ne atFirst] at finished
      by_cases atSecond : second = thread
      · rw [atSecond] at samePair
        exact absurd samePair (alone first finished)
      · rw [Function.update_of_ne atSecond] at finishedToo
        exact before.unique first second finished finishedToo samePair
  · obtain ⟨pairs, shape, distinct, witnessed⟩ := before.minted
    refine ⟨pairs, shape, distinct, fun pairId member => ?_⟩
    exact witnessed_update Phase.Rewarded (by simp [was, Phase.Rewarded])
      (witnessed pairId member)
  · intro pairId member
    exact witnessed_update (fun phase => phase = .signed) (by simp [was])
      (before.signers pairId member)

theorem OneBudEach.step_issued
    (before : OneBudEach pairIds earlier phases signed db)
    (was : phases thread = .won) (pairs : after.breedPair = db.breedPair)
    (buds : mintedPairs after = mintedPairs db ++ [some (pairIds thread)]) :
    OneBudEach pairIds earlier (Function.update phases thread .issued) signed
      after := by
  have kept := @update_finished _ _ phases thread .issued (by simp [was])
  refine ⟨?_, ?_, ?_, before.nodup, ?_⟩
  · intro other finished
    rw [pairs]
    exact before.closed other (kept other finished)
  · intro first second finished finishedToo
    exact before.unique first second (kept first finished)
      (kept second finishedToo)
  · obtain ⟨minted, shape, distinct, witnessed⟩ := before.minted
    have unfit : ¬ (phases thread).Rewarded := by
      simp [was, Phase.Rewarded]
    have absent : pairIds thread ∉ minted := by
      intro member
      obtain ⟨other, samePair, rewarded⟩ := witnessed _ member
      have finished : phases other ≠ .looking := by
        rcases rewarded with issued | signed
        · simp [issued]
        · simp [signed]
      have here := before.unique other thread finished (by simp [was])
        samePair
      rw [here] at rewarded
      exact unfit rewarded
    refine ⟨minted ++ [pairIds thread], ?_, ?_, ?_⟩
    · rw [buds, shape, List.map_append, List.append_assoc]
      rfl
    · rw [← List.concat_eq_append]
      exact (List.nodup_concat _ _).mpr ⟨absent, distinct⟩
    · intro pairId member
      rcases List.mem_append.mp member with old | new
      · exact witnessed_update Phase.Rewarded unfit (witnessed pairId old)
      · rw [List.mem_singleton] at new
        exact ⟨thread, new.symm, .inl (Function.update_self _ _ _)⟩
  · intro pairId member
    exact witnessed_update (fun phase => phase = .signed) (by simp [was])
      (before.signers pairId member)

theorem OneBudEach.step_signed
    (before : OneBudEach pairIds earlier phases signed db)
    (was : phases thread = .issued) :
    OneBudEach pairIds earlier (Function.update phases thread .signed)
      (signed ++ [pairIds thread]) db := by
  have kept := @update_finished _ _ phases thread .signed (by simp [was])
  have absent : pairIds thread ∉ signed := by
    intro member
    obtain ⟨other, samePair, finished⟩ := before.signers _ member
    have here := before.unique other thread (by simp [finished])
      (by simp [was]) samePair
    rw [here, was] at finished
    cases finished
  refine ⟨?_, ?_, ?_, ?_, ?_⟩
  · exact fun other finished => before.closed other (kept other finished)
  · intro first second finished finishedToo
    exact before.unique first second (kept first finished)
      (kept second finishedToo)
  · obtain ⟨minted, shape, distinct, witnessed⟩ := before.minted
    refine ⟨minted, shape, distinct, fun pairId member => ?_⟩
    obtain ⟨other, samePair, rewarded⟩ := witnessed pairId member
    refine ⟨other, samePair, ?_⟩
    by_cases same : other = thread
    · rw [same, Function.update_self]
      exact .inr rfl
    · rw [Function.update_of_ne same]
      exact rewarded
  · rw [← List.concat_eq_append]
    exact (List.nodup_concat _ _).mpr ⟨absent, before.nodup⟩
  · intro pairId member
    rcases List.mem_append.mp member with old | new
    · exact witnessed_update (fun phase => phase = .signed) (by simp [was])
        (before.signers pairId old)
    · rw [List.mem_singleton] at new
      exact ⟨thread, new.symm, Function.update_self _ _ _⟩

/-- One call of one request keeps the invariant, as long as what it writes over
is still breeding. -/
theorem OneBudEach.step
    (before : OneBudEach pairIds earlier phases signed db)
    (moved : Moved db (pairIds thread) query (phases thread) next after)
    (still : StillPaired query db) :
    OneBudEach pairIds earlier (Function.update phases thread next)
      (signed ++ (signing pairIds thread query).toList) after := by
  generalize was : phases thread = phase at moved
  cases moved with
  | still pairs buds unsigned =>
      rw [← was, Function.update_eq_self, signing_eq_none unsigned,
        Option.toList_none, List.append_nil]
      refine ⟨?_, before.unique, ?_, before.nodup, before.signers⟩
      · rw [pairs]
        exact before.closed
      · rw [buds]
        exact before.minted
  | lost closed asked =>
      rw [← was, Function.update_eq_self, asked, signing_breedPairUpdate,
        Option.toList_none, List.append_nil]
      refine ⟨?_, before.unique, before.minted, before.nodup, before.signers⟩
      intro other finished
      exact closed_update closed (.inr (before.closed other finished))
  | won present same asked =>
      have breeding := by
        apply still _ present
        rw [asked, same]
        rfl
      rw [asked, signing_breedPairUpdate, Option.toList_none, List.append_nil]
      exact before.step_won was present same breeding
  | issued pairs buds unsigned =>
      rw [signing_eq_none unsigned, Option.toList_none, List.append_nil]
      exact before.step_issued was pairs buds
  | signed asked =>
      rw [asked, signing, Option.toList_some]
      exact before.step_signed was

end Invariant

section Interleavings

variable {ι : Type} {app : App} {admitted : Oracle → Prop}
  {requests : ι → Req × BreedFinalizeDto} {db : Db} {final : Server ι}
  {steps : List (ServerStep ι)}

def finalizing (requests : ι → Req × BreedFinalizeDto) (thread : ι) : Request :=
  .finalizeBreeding (requests thread).1 (requests thread).2

def pairIdOf (requests : ι → Req × BreedFinalizeDto) (thread : ι) : Int :=
  (requests thread).2.pairId

def signedPairs (requests : ι → Req × BreedFinalizeDto)
    (steps : List (ServerStep ι)) : List Int :=
  steps.filterMap fun step =>
    signing (pairIdOf requests) step.label.thread step.label.query

theorem signedPairs_snoc (step : ServerStep ι) :
    signedPairs requests (steps ++ [step]) = signedPairs requests steps ++
      (signing (pairIdOf requests) step.label.thread
        step.label.query).toList := by
  rw [signedPairs, List.filterMap_append]
  congr 1

theorem follows_finalizing (thread : ι) :
    protocol.Follows (surroundings admitted) (fun _ _ => True)
      ⟨pairIdOf requests thread, .looking⟩
      (handle app (finalizing requests thread)) :=
  Protocol.follows_map.mpr (follows_finalizeBreeding app _ _)

variable [DecidableEq ι]

theorem oneBudEach_of_interleaving
    (history : Interleaving app admitted (finalizing requests) db steps final)
    (still : ∀ step ∈ steps, StillPaired step.label.query step.source.store) :
    ∃ phases : ι → Phase, OneBudEach (pairIdOf requests) (mintedPairs db) phases
      (signedPairs requests steps) final.store := by
  suffices all : ∃ phases : ι → Phase,
      (∀ thread, protocol.stages
        (fun thread => ⟨pairIdOf requests thread, .looking⟩) steps thread =
          ⟨pairIdOf requests thread, phases thread⟩) ∧
      OneBudEach (pairIdOf requests) (mintedPairs db) phases
        (signedPairs requests steps) final.store by
    obtain ⟨phases, -, each⟩ := all
    exact ⟨phases, each⟩
  apply Protocol.induct history (fun thread => follows_finalizing thread)
    (everywhere_of_forall still)
  · refine ⟨fun _ => .looking, fun _ => rfl, ?_⟩
    constructor
    · exact fun _ finished => absurd rfl finished
    · exact fun _ _ finished => absurd rfl finished
    · exact ⟨[], by simp [serving], List.nodup_nil, by simp⟩
    · exact List.nodup_nil
    · simp [signedPairs]
  · rintro steps current thread query next oracle - ⟨phases, staged, each⟩ - legal
      paired
    rw [staged] at legal
    obtain ⟨phase, advanced, moved⟩ := moved_of_legal oracle legal
    refine ⟨Function.update phases thread phase, ?_, ?_⟩
    · intro other
      by_cases same : other = thread
      · subst same
        rw [Protocol.stages_transition_self, staged, Function.update_self]
        exact advanced
      · rw [Protocol.stages_transition_other same, staged,
          Function.update_of_ne same]
    · rw [signedPairs_snoc]
      exact each.step moved paired

/-- Finalize requests issue and sign at most one bud for each pair, as long as a
won breeding is only recorded on a pair that is still breeding. -/
theorem one_bud_per_pair
    (history : Interleaving app admitted (finalizing requests) db steps final)
    (still : ∀ step ∈ steps, StillPaired step.label.query step.source.store) :
    ((final.store.gen1Bud.rows.drop db.gen1Bud.rows.length).filterMap
        Gen1Bud.pairId).Nodup ∧
      (signedPairs requests steps).Nodup := by
  obtain ⟨phases, each⟩ := oneBudEach_of_interleaving history still
  obtain ⟨pairs, shape, distinct, -⟩ := each.minted
  refine ⟨?_, each.nodup⟩
  have issued : (final.store.gen1Bud.rows.drop db.gen1Bud.rows.length).map
      Gen1Bud.pairId = pairs.map some := by
    rw [List.map_drop]
    have length : (mintedPairs db).length = db.gen1Bud.rows.length :=
      List.length_map _
    change (mintedPairs final.store).drop _ = _
    rw [shape, ← length, List.drop_left]
  have collected := congrArg (List.filterMap id) issued
  simp only [List.filterMap_map, Function.id_comp, List.filterMap_some]
    at collected
  rw [collected]
  exact distinct

end Interleavings

def doubleFinalize : Bool → Req × BreedFinalizeDto :=
  fun _ => (alice, ⟨1, 17, 18⟩)

theorem two_buds_for_one_pair :
    Interleaving (liveApp .goerli) (fun _ => True) (finalizing doubleFinalize)
        (breedingAfter 7)
        (interleave (liveApp .goerli) (finalizing doubleFinalize)
          (turns 30 (period 5)) (breedingAfter 7)).1
        (interleave (liveApp .goerli) (finalizing doubleFinalize)
          (turns 30 (period 5)) (breedingAfter 7)).2 ∧
      ¬ (((interleave (liveApp .goerli) (finalizing doubleFinalize)
        (turns 30 (period 5)) (breedingAfter 7)).2.store.gen1Bud.rows.drop
          (breedingAfter 7).gen1Bud.rows.length).filterMap
            Gen1Bud.pairId).Nodup := by
  refine ⟨interleaving_of_schedule _ _ _ _, ?_⟩
  rw [breedingAfter_succ 6]
  decide +kernel

theorem one_bud_for_one_pair :
    ((interleave (liveApp .goerli) (finalizing doubleFinalize)
        (inOrder 30 (period 5)) (breedingAfter 7)).2.store.gen1Bud.rows.drop
          (breedingAfter 7).gen1Bud.rows.length |>.filterMap
            Gen1Bud.pairId).Nodup ∧
      (signedPairs doubleFinalize (interleave (liveApp .goerli)
        (finalizing doubleFinalize) (inOrder 30 (period 5))
          (breedingAfter 7)).1).Nodup := by
  apply one_bud_per_pair (interleaving_of_schedule (liveApp .goerli) _ _ _)
  rw [breedingAfter_succ 6]
  decide +kernel

end BudBreeding.Lifecycle
