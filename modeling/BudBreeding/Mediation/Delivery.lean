import Mathlib.Data.Finset.Card
import BudBreeding.Concurrency.Serial
import BudBreeding.Mediation.Audit
import BudBreeding.Backend.Shop

namespace BudBreeding.Mediation

open Data Program Backend Concurrency

/-! No request that completes a breeding ends before the bud is stored that was won
with it. -/

section Handlers

variable {app : App} {admitted : Oracle → Prop} {past : Past} {pairId : Int}

def completes : Query → Bool
  | .breedPairUpdate _ (.status .COMPLETED) => true
  | _ => false

/-- The request has completed the pair. -/
def Completed (past : Past) (pairId : Int) : Prop :=
  ∃ closed, Knows past (.breedPairUpdate pairId (.status .COMPLETED)) (.ok closed)

/-- The bud of the pair was stored, unless a slot that was found was gone when it was
to be opened. -/
inductive Delivered (past : Past) (pairId : Int) : Prop
  | stored {data : Gen1BudCreate} {bud : Gen1Bud}
      (created : Knows past (.gen1BudCreate data) bud)
      (origin : data.pairId = some pairId)
  | stopped {slotId : Int} {error : PrismaError}
      (missing : Knows past (.breedSlotUpdate slotId (.isOpen true))
        (.error error))

theorem Delivered.kept {later : Past} (delivered : Delivered past pairId)
    (onward : past <+: later) : Delivered later pairId := by
  cases delivered with
  | stored created origin => exact .stored (created.kept onward) origin
  | stopped missing => exact .stopped (missing.kept onward)

/-- Nothing has been completed yet. -/
def Incomplete (past : Past) : Prop :=
  ∀ pairId, ¬ Completed past pairId

theorem Incomplete.append {extra : Past} (incomplete : Incomplete past)
    (more : Incomplete extra) : Incomplete (past ++ extra) := by
  rintro pairId ⟨closed, knows⟩
  rcases List.mem_append.mp knows with old | new
  · exact incomplete pairId ⟨closed, old⟩
  · exact more pairId ⟨closed, new⟩

theorem incomplete_of_forall
    (others : ∀ known ∈ past, completes known.query = false) :
    Incomplete past := by
  rintro pairId ⟨closed, knows⟩
  cases others _ knows

theorem incomplete_of_within {resources : List Resource} {query : Query}
    (within : query.Within resources)
    (outside : .table .breedPair ∉ resources) : completes query = false := by
  cases query with
  | breedPairUpdate id data => exact absurd within outside
  | _ => rfl

/-- A request that finalizes a breeding owes the bud once it has completed it. -/
def Settled (memory : Memory Request Query.Answer) : Prop :=
  ∀ req body, memory.role = .finalizeBreeding req body →
    Completed memory.past body.pairId → Delivered memory.past body.pairId

theorem settled_of_incomplete {request : Request} (incomplete : Incomplete past) :
    Settled ⟨request, past⟩ := by
  rintro req body - completed
  exact absurd completed (incomplete body.pairId)

/-- From what it knows on, the program does not end before the bud is stored. -/
def Delivers (admitted : Oracle → Prop) (request : Request) (past : Past)
    {α : Type} (program : Handler α) : Prop :=
  (recollect fun _ _ _ => True).Follows (surroundings admitted)
    (fun memory _ => Settled memory) ⟨request, past⟩ program

section Rules

variable {request : Request} {α β : Type}

theorem delivers_of_incomplete (incomplete : Incomplete past)
    {program : Handler α}
    (uses : program.Uses fun query => completes query = false) :
    Delivers admitted request past program :=
  follows_of_free (fun _ _ _ _ => trivial) uses
    fun _ allowed _ => settled_of_incomplete
      (incomplete.append (incomplete_of_forall allowed))

theorem delivers_pass (incomplete : Incomplete past) {program : Handler α}
    {rest : α → Handler β}
    (uses : program.Uses fun query => completes query = false)
    (continued : ∀ value later, Incomplete later →
      Delivers admitted request later (rest value)) :
    Delivers admitted request past (program >>= rest) :=
  follows_free (fun _ _ _ _ => trivial) uses
    (fun _ allowed _ => settled_of_incomplete
      (incomplete.append (incomplete_of_forall allowed)))
    fun value _ allowed => continued value _
      (incomplete.append (incomplete_of_forall allowed))

variable {req : Req} {body : BreedFinalizeDto}

theorem Delivered.settled (delivered : Delivered past body.pairId) :
    Settled ⟨.finalizeBreeding req body, past⟩ := by
  intro _ _ same _
  cases same
  exact delivered

theorem delivers_of_delivered (delivered : Delivered past body.pairId)
    (program : Handler α) :
    Delivers admitted (.finalizeBreeding req body) past program :=
  follows_of_free (fun _ _ _ _ => trivial) program.uses_all
    fun extra _ _ => (delivered.kept (List.prefix_append _ extra)).settled

theorem delivers_issueGen1BudMint {minter : Address} {bud : Bud}
    {rest : Gen1Bud → Handler α} :
    Delivers admitted (.finalizeBreeding req body) past
      (BudService.issueGen1BudMint minter bud (some body.pairId) >>= rest) := by
  rw [BudService.issueGen1BudMint, Prog.bind_assoc]
  refine follows_asked trivial fun row => ?_
  exact delivers_of_delivered
    (.stored (List.mem_append_right _ List.mem_cons_self) rfl) _

theorem delivers_openNextSlot {rest : Option BreedSlot → Handler α}
    (continued : ∀ slot later,
      Delivers admitted (.finalizeBreeding req body) later (rest slot)) :
    Delivers admitted (.finalizeBreeding req body) past
      (BreedController.openNextSlot req.user >>= rest) := by
  rw [BreedController.openNextSlot, Prog.bind_assoc]
  refine follows_asked trivial fun found => ?_
  cases found with
  | none => exact continued none _
  | some slot =>
      rw [Prog.bind_assoc, Prisma.breedSlotUpdate, Prog.bind_assoc]
      refine follows_asked trivial fun answer => ?_
      cases answer with
      | error error =>
          exact Delivered.settled
            (.stopped (List.mem_append_right _ List.mem_cons_self))
      | ok opened => exact continued (some opened) _

end Rules

/-- Finalizing is the only way to complete a breeding. -/
theorem delivers_finalizeBreeding (app : App) (req : Req)
    (body : BreedFinalizeDto) :
    Delivers admitted (.finalizeBreeding req body) []
      (BreedController.finalizeBreeding app req body) := by
  refine Protocol.follows_call_bind.mpr fun found possible => ⟨trivial, ?_⟩
  have incomplete : Incomplete [⟨_, found⟩] :=
    incomplete_of_forall (List.forall_mem_singleton.mpr rfl)
  cases found with
  | none => exact settled_of_incomplete incomplete
  | some pair =>
      obtain ⟨db, oracle, -, answered⟩ := possible
      have own := (Oracle.findFirst_eq_some answered).2
      obtain ⟨same, -, -⟩ := decide_eq_true_iff.mp own
      refine Protocol.follows_throwIf_bind
        (fun _ => settled_of_incomplete incomplete) fun _ => ?_
      refine delivers_pass incomplete ?_ fun _ second incomplete => ?_
      · exact (uses_evaluateBreedLevel _ _ _ _).mono fun _ within =>
          incomplete_of_within within (by decide)
      refine delivers_pass incomplete ?_ fun result third incomplete => ?_
      · exact (uses_finalizeBreeding _ _).mono fun _ within =>
          incomplete_of_within within (by decide)
      refine delivers_pass incomplete ?_ fun _ fourth incomplete => ?_
      · exact Prog.uses_bind (by simp [completes]) fun _ => uses_settle _
      rw [Prisma.breedPairUpdate, Prog.bind_assoc]
      cases result with
      | none =>
          refine delivers_of_incomplete incomplete ?_
          exact Prog.uses_bind (by simp [completes]) fun answer =>
            Prog.uses_bind (uses_settle answer) fun _ => Prog.uses_pure _
      | some data =>
          refine follows_asked trivial fun answer => ?_
          cases answer with
          | error error =>
              refine settled_of_incomplete (incomplete.append ?_)
              rintro pairId ⟨closed, knows⟩
              cases List.mem_singleton.mp knows
          | ok closed =>
              refine delivers_openNextSlot fun slot later => ?_
              rw [same]
              exact delivers_issueGen1BudMint

theorem delivers_of_other {request : Request} {α : Type}
    (other : ∀ req body, request ≠ .finalizeBreeding req body)
    (program : Handler α) : Delivers admitted request past program :=
  follows_of_free (fun _ _ _ _ => trivial) program.uses_all
    fun _ _ _ req body same => absurd same (other req body)

theorem delivers_handle (app : App) (request : Request) :
    Delivers admitted request [] (handle app request) := by
  cases request with
  | finalizeBreeding req body =>
      exact Protocol.follows_map.mpr (delivers_finalizeBreeding app req body)
  | _ => exact delivers_of_other (by rintro _ _ ⟨⟩) _

end Handlers

section Completions

variable {app : App} {request : Request} {past : Past} {query : Query} {db : Db}

/-- A pair that is completed was so before, or it is completed now. -/
theorem completion_of_grounds (grounds : Grounded app request past query)
    (oracle : Oracle) {pair : BreedPair}
    (listed : pair ∈ (exec oracle query db).2.breedPair.rows)
    (completed : pair.status = .COMPLETED) :
    (∃ before ∈ db.breedPair.rows, before.id = pair.id ∧
        before.status = .COMPLETED) ∨
      ∃ closed, (⟨query, (exec oracle query db).1⟩ : Asked Query.Answer) =
        ⟨.breedPairUpdate pair.id (.status .COMPLETED), .ok closed⟩ := by
  have stays : pair ∈ db.breedPair.rows → ∃ before ∈ db.breedPair.rows,
      before.id = pair.id ∧ before.status = .COMPLETED :=
    fun stored => ⟨pair, stored, rfl, completed⟩
  by_cases written : query.written = some .breedPair
  · cases query with
    | breedPairCreate data =>
        obtain ⟨_, _, _, -, shape, -⟩ := grounds
        simp only [exec] at listed
        split at listed
        · exact .inl (stays listed)
        · rcases List.mem_append.mp listed with old | new
          · exact .inl (stays old)
          · rw [List.mem_singleton.mp new, BreedPairCreate.row, shape] at completed
            cases completed
    | breedPairUpdate id data =>
        rcases Serial.of_mem_modify listed with
          ⟨old, stored, chosen, rfl⟩ | ⟨old, -⟩
        · obtain rfl := of_decide_eq_true chosen
          cases data with
          | currentLevel value => exact .inl ⟨old, stored, rfl, completed⟩
          | status value =>
              obtain rfl : value = .COMPLETED := completed
              refine .inr ⟨{ old with status := .COMPLETED }, ?_⟩
              have found : db.breedPair.find old.id = some old :=
                Table.find_eq_some.mpr ⟨stored, rfl⟩
              simp only [exec, found]
              rfl
        · exact .inl (stays old)
    | breedPairUpdateMany filter data =>
        obtain ⟨rfl, -⟩ := grounds
        rcases Serial.of_mem_modify listed with ⟨old, -, -, rfl⟩ | ⟨old, -⟩
        · cases completed
        · exact .inl (stays old)
    | _ => cases written
  · rw [(exec_sameBut oracle query db).breedPair written] at listed
    exact .inl (stays listed)

end Completions

section Interleavings

variable {ι : Type} [DecidableEq ι] {app : App} {admitted : Oracle → Prop}
  {requests : ι → Request} {db : Db} {steps : List (ServerStep ι)}
  {final : Server ι}

/-- Who completes a pair. -/
theorem finalizes_of_completed (rested : Rested app admitted db)
    (interleaving : Interleaving app admitted requests db steps final)
    {thread : ι} {pairId : Int} (completed : Completed (asked thread steps) pairId) :
    ∃ req body, requests thread = .finalizeBreeding req body ∧
      body.pairId = pairId ∧ ∃ pair ∈ final.store.breedPair.rows,
        pair.id = pairId ∧ pair.userAddress = req.user := by
  obtain ⟨closed, knows⟩ := completed
  obtain ⟨earlier, step, taken⟩ := askedAt_of_asked interleaving knows
  rcases taken.grounds with ⟨-, -, -, -, -, -, canceled⟩ |
    ⟨req, body, pair, -, asks, finishes, id, -⟩
  · cases canceled
  · obtain ⟨-, row, listed, -, named, owner⟩ :=
      pair_of_found rested taken.reached finishes.found
    obtain ⟨last, present, kept⟩ :=
      (evolved_of_steps rested interleaving step taken.member).1.breedPair row
        listed
    exact ⟨req, body, asks, id.symm, last, present,
      kept.id.trans (named.trans id.symm), kept.userAddress.trans owner⟩

/-- The pair has brought its user a bud. -/
def Rewarded (db : Db) (pair : BreedPair) : Prop :=
  ∃ bud ∈ db.gen1Bud.rows, bud.pairId = some pair.id ∧
    bud.minterAddress = pair.userAddress

omit [DecidableEq ι] in
theorem Rewarded.later {after : Db} {before pair : BreedPair}
    (rewarded : Rewarded db before) (evolves : Evolves db after)
    (same : pair.id = before.id) (owner : pair.userAddress = before.userAddress) :
    Rewarded after pair := by
  obtain ⟨bud, stored, origin, minter⟩ := rewarded
  obtain ⟨row, listed, kept⟩ := evolves.gen1Bud bud stored
  refine ⟨row, listed, ?_, ?_⟩
  · rw [kept, same]
    exact origin
  · rw [kept.minterAddress, minter, owner]

theorem rewarded_of_created (rested : Rested app admitted db)
    (interleaving : Interleaving app admitted requests db steps final)
    {thread : ι} {req : Req} {body : BreedFinalizeDto}
    (asks : requests thread = .finalizeBreeding req body) {data : Gen1BudCreate}
    {bud : Gen1Bud} (created : Knows (asked thread steps) (.gen1BudCreate data) bud)
    {pair : BreedPair} (origin : data.pairId = some pair.id)
    (owner : pair.userAddress = req.user) : Rewarded final.store pair := by
  obtain ⟨earlier, step, taken⟩ := askedAt_of_asked interleaving created
  obtain ⟨oracle, made⟩ := taken.answered
  obtain ⟨rfl, after⟩ := Prod.mk.inj made
  have minter : data.minterAddress = req.user := by
    rcases taken.grounds with
      ⟨_, _, -, -, -, same, -, -, -, -, -, -, minter⟩ | ⟨_, same, -⟩
    all_goals cases asks.symm.trans same
    exact minter
  have stored : Rewarded step.target.store pair := by
    refine ⟨data.row oracle.now step.source.store.gen1Bud.nextId, ?_, origin,
      minter.trans owner.symm⟩
    rw [← after]
    exact List.mem_append_right _ List.mem_cons_self
  exact stored.later (evolved_of_steps rested interleaving step taken.member).2 rfl
    rfl

/-- The slot that a request opens was found before, and rows do not go away. -/
theorem not_stopped (rested : Rested app admitted db)
    (interleaving : Interleaving app admitted requests db steps final)
    {thread : ι} {req : Req} {body : BreedFinalizeDto}
    (asks : requests thread = .finalizeBreeding req body) {slotId : Int}
    {error : PrismaError} :
    ¬ Knows (asked thread steps) (.breedSlotUpdate slotId (.isOpen true))
      (.error error) := by
  intro missing
  obtain ⟨earlier, step, taken⟩ := askedAt_of_asked interleaving missing
  obtain ⟨oracle, made⟩ := taken.answered
  rcases taken.grounds with
    ⟨_, _, same, -⟩ | ⟨_, _, closed, slot, same, -, knows, rfl⟩
  · cases asks.symm.trans same
  · obtain ⟨look, looked, -, reader, read⟩ :=
      answered_of_history taken.reached knows
    obtain ⟨seen, -⟩ := Oracle.findFirst_eq_some (congrArg Prod.fst read)
    obtain ⟨row, listed, kept⟩ :=
      (evolved_of_steps rested taken.reached look looked).1.breedSlot slot seen
    have found : step.source.store.breedSlot.find slot.id = some row :=
      Table.find_eq_some.mpr ⟨listed, kept.id⟩
    have answered := congrArg Prod.fst made
    simp only [exec, found] at answered
    cases answered

theorem rewarded_of_delivered (rested : Rested app admitted db)
    (interleaving : Interleaving app admitted requests db steps final)
    {thread : ι} {req : Req} {body : BreedFinalizeDto}
    (asks : requests thread = .finalizeBreeding req body)
    (delivered : Delivered (asked thread steps) body.pairId) {pair : BreedPair}
    (same : body.pairId = pair.id) (owner : pair.userAddress = req.user) :
    Rewarded final.store pair := by
  cases delivered with
  | stored created origin =>
      rw [same] at origin
      exact rewarded_of_created rested interleaving asks created origin owner
  | stopped missing =>
      exact absurd missing (not_stopped rested interleaving asks)

/-- What is completed was so at the start, or a thread has completed it. -/
def Accounted (db : Db) (steps : List (ServerStep ι)) (server : Server ι) : Prop :=
  ∀ pair ∈ server.store.breedPair.rows, pair.status = .COMPLETED →
    (∃ before ∈ db.breedPair.rows, before.id = pair.id ∧
        before.status = .COMPLETED) ∨
      ∃ thread, Completed (asked thread steps) pair.id

theorem accounted_of_interleaving
    (interleaving : Interleaving app admitted requests db steps final) :
    Accounted db steps final := by
  refine interleaving.induct (audited_of_interleaving interleaving) ?_ ?_
  · exact fun pair listed completed => .inl ⟨pair, listed, rfl, completed⟩
  intro steps current label target _ induction next audited pair listed completed
  obtain ⟨-, -, -, grounds⟩ := audited
  cases next with
  | @ask thread query rest oracle waiting allowed =>
      rcases completion_of_grounds grounds oracle listed completed with
        ⟨before, stored, same, status⟩ | ⟨closed, same⟩
      · refine (induction before stored status).imp ?_ ?_
        · rintro ⟨row, present, id, was⟩
          exact ⟨row, present, id.trans same, was⟩
        · rintro ⟨other, row, knows⟩
          rw [same] at knows
          exact ⟨other, row, knows.kept (asked_mono other steps _)⟩
      · refine .inr ⟨thread, closed, mem_asked.mpr
          ⟨_, List.mem_append_right _ List.mem_cons_self, ?_⟩⟩
        exact congrArg (fun known : Asked Query.Answer =>
          Event.mk thread known.query known.answer) same

/-- A request of the user that finalizes the pair has not ended. -/
def Finalizing (requests : ι → Request) (server : Server ι) (pair : BreedPair) :
    Prop :=
  ∃ thread req body, requests thread = .finalizeBreeding req body ∧
    body.pairId = pair.id ∧ req.user = pair.userAddress ∧
    (server.threads thread).Waits

theorem rewarded_of_interleaving (rested : Rested app admitted db)
    (start : ∀ pair ∈ db.breedPair.rows, pair.status = .COMPLETED →
      Rewarded db pair)
    (interleaving : Interleaving app admitted requests db steps final) :
    ∀ pair ∈ final.store.breedPair.rows, pair.status = .COMPLETED →
      Rewarded final.store pair ∨ Finalizing requests final pair := by
  intro pair listed completed
  rcases accounted_of_interleaving interleaving pair listed completed with
    ⟨before, stored, same, status⟩ | ⟨thread, closes⟩
  · have evolves := evolved_of_interleaving rested interleaving _ List.mem_cons_self
    have kept := evolves.pair_of_id stored listed same.symm
    exact .inl ((start before stored status).later evolves kept.id kept.userAddress)
  · obtain ⟨req, body, asks, same, row, present, id, owner⟩ :=
      finalizes_of_completed rested interleaving closes
    obtain rfl := final.store.breedPair.eq_of_key_eq listed present id.symm
    rcases (final.threads thread).waits_or_ended with waits | ⟨result, ended⟩
    · exact .inr ⟨thread, req, body, asks, same, owner.symm, waits⟩
    · left
      have settled : Settled ⟨requests thread, asked thread steps⟩ :=
        finished_of_history interleaving
          (fun thread => delivers_handle app (requests thread)) ended
      exact rewarded_of_delivered rested interleaving asks
        (settled req body asks (same ▸ closes)) same owner

/-- However the requests are interleaved, every pair that is completed has brought its
user a bud, unless a request of the user that finalizes it is under way. -/
theorem prizes_delivered (rested : Rested app admitted db)
    (start : ∀ pair ∈ db.breedPair.rows, pair.status = .COMPLETED →
      Rewarded db pair)
    (interleaving : Interleaving app admitted requests db steps final) :
    ∀ server ∈ states (serving app requests db) steps,
      ∀ pair ∈ server.store.breedPair.rows, pair.status = .COMPLETED →
        Rewarded server.store pair ∨ Finalizing requests server pair := by
  intro server member
  obtain ⟨earlier, reached⟩ := interleaving.exists_of_mem_states member
  exact rewarded_of_interleaving rested start reached

theorem prizes_delivered_naming :
    ∃ pair ∈ namedRivals.2.store.breedPair.rows, pair.status = .COMPLETED ∧
      (Rewarded namedRivals.2.store pair ∨
        Finalizing rivalNaming namedRivals.2 pair) := by
  have closed : ∃ pair ∈ namedRivals.2.store.breedPair.rows,
      pair.status = .COMPLETED := by
    rw [namedRivals, breedingAfter_succ 6]
    decide +kernel
  have breeding : ∀ pair ∈ (breedingAfter 7).breedPair.rows,
      pair.status ≠ .COMPLETED := by
    rw [breedingAfter_succ 6]
    decide +kernel
  obtain ⟨pair, listed, completed⟩ := closed
  exact ⟨pair, listed, completed, prizes_delivered (rested_breedingAfter 7)
    (fun other stored ended => absurd ended (breeding other stored))
    interleaving_namedRivals _ interleaving_namedRivals.final_mem_states pair
    listed completed⟩

/-- The pairs that have brought the user a bud. -/
def wonPairs (db : Db) (user : Address) : Finset Int :=
  ((db.gen1Bud.rows.filter fun bud => bud.minterAddress = user).filterMap
    Gen1Bud.pairId).toFinset

omit [DecidableEq ι] in
theorem Rewarded.mem_wonPairs {pair : BreedPair} (rewarded : Rewarded db pair) :
    pair.id ∈ wonPairs db pair.userAddress := by
  obtain ⟨bud, stored, origin, minter⟩ := rewarded
  refine List.mem_toFinset.mpr (List.mem_filterMap.mpr ⟨bud, ?_, origin⟩)
  exact List.mem_filter.mpr ⟨stored, decide_eq_true minter⟩

omit [DecidableEq ι] in
theorem completed_le_wonPairs {user : Address}
    (rewarded : ∀ pair ∈ db.breedPair.rows,
      LandController.completedPair user pair = true → Rewarded db pair) :
    db.breedPair.rows.countP (LandController.completedPair user) ≤
      (wonPairs db user).card := by
  have distinct : ((db.breedPair.rows.filter
      (LandController.completedPair user)).map BreedPair.id).Nodup :=
    (List.filter_sublist.map BreedPair.id).nodup db.breedPair.nodup
  calc db.breedPair.rows.countP (LandController.completedPair user)
      = ((db.breedPair.rows.filter
          (LandController.completedPair user)).map BreedPair.id).toFinset.card := by
        rw [List.toFinset_card_of_nodup distinct, List.length_map,
          List.countP_eq_length_filter]
    _ ≤ (wonPairs db user).card := by
        refine Finset.card_le_card fun id member => ?_
        obtain ⟨pair, chosen, rfl⟩ := List.mem_map.mp (List.mem_toFinset.mp member)
        obtain ⟨listed, completed⟩ := List.mem_filter.mp chosen
        obtain ⟨owner, -⟩ := decide_eq_true_iff.mp completed
        rw [← owner]
        exact (rewarded pair listed completed).mem_wonPairs

/-- However the requests are interleaved, a farmer pass is signed only for users whom
four breedings have brought a bud, unless they are finalizing a pair. -/
theorem passes_earned (rested : Rested app admitted db)
    (start : ∀ pair ∈ db.breedPair.rows, pair.status = .COMPLETED →
      Rewarded db pair)
    (interleaving : Interleaving app admitted requests db steps final) :
    ∀ server ∈ states (serving app requests db) steps,
      ∀ (req : Req) (body : PurchaseGameItemDto)
        (signed : LandController.SignedItem) (after : Db),
        (surroundings admitted).Runs (LandController.purchaseFarmerPass req body)
          server.store (.ok signed) after →
        (∀ pair ∈ server.store.breedPair.rows, pair.userAddress = req.user →
          ¬ Finalizing requests server pair) →
        SignedFor admitted GameItem.FARMER_PASS req signed ∧
          4 ≤ (wonPairs server.store req.user).card := by
  intro server member req body signed after runs settled
  obtain ⟨earlier, reached⟩ := interleaving.exists_of_mem_states member
  obtain ⟨granted, enough⟩ :=
    (reads_purchaseFarmerPass req body _ _ runs).2 signed rfl
  refine ⟨granted, enough.trans (completed_le_wonPairs ?_)⟩
  intro pair listed completed
  obtain ⟨owner, status⟩ := decide_eq_true_iff.mp completed
  exact (rewarded_of_interleaving rested start reached pair listed status).resolve_right
    (settled pair listed owner)

end Interleavings

section Harvest

/-- `alice` breeds her pair up in the first slot and finalizes it. -/
def breeding (round : Int) : List (Request × Oracle) :=
  let bud := 20 * round
  let clock := fun step : Int => Oracle.agreeable "alice" (period (5 * round + step))
  [(.createPair alice ⟨1, 2, 1, none, none⟩, clock 0),
    (.levelBreedingUp alice ⟨round + 1, bud + 1, bud + 2⟩, clock 1),
    (.levelBreedingUp alice ⟨round + 1, bud + 5, bud + 6⟩, clock 2),
    (.levelBreedingUp alice ⟨round + 1, bud + 9, bud + 10⟩, clock 3),
    (.levelBreedingUp alice ⟨round + 1, bud + 13, bud + 14⟩, clock 4),
    (.finalizeBreeding alice ⟨round + 1, bud + 17, bud + 18⟩, clock 5)]

def harvestScript : List (Request × Oracle) :=
  (.login (loginFrom "alice"), .agreeable "alice" (period 0)) ::
    (.addBreedingPoint ⟨⟨"alice", "deposit", 1, "goerli"⟩, 100000⟩,
      .agreeable "alice" (period 0)) :: [0, 1, 2, 3].flatMap breeding

/-- Four pairs have been bred, one after the other. -/
def harvest : List (Transition Db Exchange) × Db :=
  serve (liveApp .goerli) harvestScript .empty

theorem run_harvest :
    Run (liveApp .goerli) (fun _ => True) .empty harvest.1 harvest.2 :=
  run_of_serve _ _ _

theorem four_completed_harvest :
    harvest.2.breedPair.rows.countP (LandController.completedPair "alice") = 4 := by
  rw [harvest, harvestScript, serve_login (liveApp .goerli) (by decide +kernel) rfl]
  decide +kernel

def passFor (db : Db) : Except Failure LandController.SignedItem × Db :=
  (surroundings fun _ => True).run (fun _ => .agreeable "alice" (period 20))
    (LandController.purchaseFarmerPass alice ⟨2⟩) db

theorem runs_passFor (db : Db) :
    (surroundings fun _ => True).Runs (LandController.purchaseFarmerPass alice ⟨2⟩) db
      (passFor db).1 (passFor db).2 :=
  World.runs_run (fun _ _ => trivial) _ _

theorem isOk_passFor {db : Db}
    (enough : 4 ≤ db.breedPair.rows.countP (LandController.completedPair "alice")) :
    (passFor db).1.isOk = true := by
  change ((surroundings fun _ => True).run (fun _ => .agreeable "alice" (period 20))
    (Prog.throwIf
        (db.breedPair.rows.countP (LandController.completedPair "alice") ≤ 3) _ >>=
      fun _ => LandController.signGameItem GameItem.FARMER_PASS alice ⟨2⟩)
    db).1.isOk = true
  rw [Prog.throwIf, if_neg (Nat.not_le_of_lt enough)]
  rfl

/-- `alice` is signed a pass for her four buds. -/
theorem passes_earned_harvest :
    ∃ signed after,
      (surroundings fun _ => True).Runs
        (LandController.purchaseFarmerPass alice ⟨2⟩) harvest.2 (.ok signed) after ∧
      SignedFor (fun _ => True) GameItem.FARMER_PASS alice signed ∧
      4 ≤ (wonPairs harvest.2 "alice").card := by
  have enough := four_completed_harvest.ge
  obtain ⟨calls, final, interleaving, reached, ended⟩ :=
    interleaving_of_run run_harvest (.purchaseLand alice)
  rw [← reached] at enough ⊢
  have answered := isOk_passFor enough
  have runs := runs_passFor final.store
  cases outcome : (passFor final.store).1 with
  | error error =>
      rw [outcome] at answered
      cases answered
  | ok signed =>
      rw [outcome] at runs
      refine ⟨signed, _, runs, ?_⟩
      apply passes_earned .empty (fun pair listed => absurd listed List.not_mem_nil)
        interleaving final interleaving.final_mem_states alice ⟨2⟩ signed _ runs
      rintro pair - - ⟨thread, req, body, asks, -, -, waits⟩
      rw [ended thread waits] at asks
      cases asks

end Harvest

end BudBreeding.Mediation
