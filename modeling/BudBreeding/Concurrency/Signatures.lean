import BudBreeding.Concurrency.Guarantees

namespace BudBreeding.Concurrency

open Data Program Backend

/-! How often the signer is asked to sign a second-generation bud. -/

/-- The token whose mint a query has signed. -/
def mintedToken : Query → Option Int
  | .signMessage request =>
      if request.typeString = .Gen1Bud then some request.tokenId else none
  | _ => none

section Ledger

variable {ι : Type} {first next : Int} {works : ι → Work} {signed : List Int}

/-- The tokens that were signed since token `first` was the next one: they are
issued, and no request is about to sign one of them again. -/
structure SignedOnce (first : Int) (works : ι → Work) (next : Int)
    (signed : List Int) : Prop where
  settled : ∀ id ∈ signed, first ≤ id ∧ id < next ∧
    ∀ thread, (works thread).token ≠ some id
  pending : ∀ thread id, (works thread).token = some id → first ≤ id
  onward : first ≤ next
  nodup : signed.Nodup

namespace SignedOnce

variable [DecidableEq ι] {thread : ι}

theorem still (ledger : SignedOnce first works next signed) {work : Work}
    (moved : work.token = (works thread).token ∨ work.token = none) :
    SignedOnce first (Function.update works thread work) next signed := by
  have before : ∀ other id,
      (Function.update works thread work other).token = some id →
      (works other).token = some id := by
    intro other id token
    by_cases here : other = thread
    · rw [here, Function.update_self] at token
      rcases moved with same | none
      · rw [here, ← same, token]
      · rw [none] at token
        cases token
    · rwa [Function.update_of_ne here] at token
  refine ⟨fun id member => ?_, fun other id token =>
    ledger.pending other id (before other id token), ledger.onward,
    ledger.nodup⟩
  obtain ⟨above, below, free⟩ := ledger.settled id member
  exact ⟨above, below, fun other token => free other (before other id token)⟩

theorem issue (ledger : SignedOnce first works next signed) {bud : Gen1Bud}
    (newest : bud.id = next) :
    SignedOnce first (Function.update works thread (.issuing bud)) (next + 1)
      signed := by
  have onward := ledger.onward
  refine ⟨fun id member => ?_, fun other id token => ?_, by omega,
    ledger.nodup⟩
  · obtain ⟨above, below, free⟩ := ledger.settled id member
    refine ⟨above, by omega, fun other token => ?_⟩
    by_cases here : other = thread
    · rw [here, Function.update_self] at token
      have same : bud.id = id := Option.some.inj token
      omega
    · rw [Function.update_of_ne here] at token
      exact free other token
  · by_cases here : other = thread
    · rw [here, Function.update_self] at token
      have same : bud.id = id := Option.some.inj token
      omega
    · rw [Function.update_of_ne here] at token
      exact ledger.pending other id token

theorem sign (ledger : SignedOnce first works next signed) {bud : Gen1Bud}
    {signature : Option String} (busy : works thread = .issuing bud)
    (below : bud.id < next)
    (apart : ∀ other, (works other).token = some bud.id → other = thread) :
    SignedOnce first
      (Function.update works thread (.signed bud.id signature)) next
      (signed ++ [bud.id]) := by
  have token : (works thread).token = some bud.id := by
    rw [busy]
    rfl
  obtain ⟨settled, pending, onward, nodup⟩ := @still _ _ _ _ _ _ thread ledger
    (.signed bud.id signature) (.inr rfl)
  refine ⟨fun id member => ?_, pending, onward, ?_⟩
  · rcases List.mem_append.mp member with old | new
    · exact settled id old
    · rw [List.mem_singleton.mp new]
      refine ⟨ledger.pending thread bud.id token, below, fun other again => ?_⟩
      by_cases here : other = thread
      · rw [here, Function.update_self] at again
        cases again
      · rw [Function.update_of_ne here] at again
        exact here (apart other again)
  · rw [← List.concat_eq_append]
    refine (List.nodup_concat _ _).mpr ⟨fun member => ?_, nodup⟩
    exact (ledger.settled bud.id member).2.2 thread token

end SignedOnce

end Ledger

section Steps

variable {ι : Type} [DecidableEq ι] {app : App} {admitted : Oracle → Prop}
  {first : Int} {works : ι → Work} {signed : List Int} {db : Db}
  {holder : Option Address} {thread : ι} {query : Query}

omit [DecidableEq ι] in
theorem token_advance (uncreated : ∀ data, query ≠ .gen1BudCreate data)
    (unsigned : ∀ request, query ≠ .signMessage request) (work : Work)
    (answer : query.Answer) :
    (work.advance query answer).token = work.token ∨
      (work.advance query answer).token = none := by
  by_cases elsewhere : query.written = some .gen1Bud
  · cases query with
    | gen1BudCreate data => exact absurd rfl (uncreated data)
    | gen1BudUpdateSignature id signature => cases work <;> exact .inl rfl
    | gen1BudUpdateName id name => cases work <;> exact .inl rfl
    | _ => cases elsewhere
  · rcases Issuing.advance_unissued elsewhere unsigned work answer with
      same | ⟨none, -⟩
    · rw [same]
      exact .inl rfl
    · exact .inr none

omit [DecidableEq ι] in
theorem nextId_exec (uncreated : ∀ data, query ≠ .gen1BudCreate data)
    (oracle : Oracle) :
    (exec oracle query db).2.gen1Bud.nextId = db.gen1Bud.nextId := by
  by_cases written : query.written = some .gen1Bud
  · cases query with
    | gen1BudCreate data => exact absurd rfl (uncreated data)
    | gen1BudUpdateSignature id signature => cases signature <;> rfl
    | gen1BudUpdateName id name => rfl
    | _ => cases written
  · rw [(exec_sameBut oracle query db).gen1Bud written]

theorem SignedOnce.step
    (ledger : SignedOnce first works db.gen1Bud.nextId signed)
    (issuing : Issuing admitted works db)
    (permitted : permits app ⟨holder, works thread⟩ query db)
    (oracle : Oracle) :
    SignedOnce first
      (Function.update works thread
        ((works thread).advance query (exec oracle query db).1))
      (exec oracle query db).2.gen1Bud.nextId
      (signed ++ (mintedToken query).toList) := by
  by_cases creates : ∃ data, query = .gen1BudCreate data
  · obtain ⟨data, rfl⟩ := creates
    have idle : works thread = .idle := permitted.1
    have advanced : (works thread).advance (.gen1BudCreate data)
        (data.row oracle.now db.gen1Bud.nextId) =
          .issuing (data.row oracle.now db.gen1Bud.nextId) := by
      rw [idle]
      rfl
    simp only [exec, advanced, mintedToken, Option.toList_none, List.append_nil]
    exact ledger.issue rfl
  have uncreated : ∀ data, query ≠ .gen1BudCreate data :=
    fun data same => creates ⟨data, same⟩
  rw [nextId_exec uncreated]
  by_cases signs : ∃ request, query = .signMessage request
  · obtain ⟨request, rfl⟩ := signs
    rcases permitted with ⟨bud, busy, rfl⟩ | ⟨idle, other, -⟩
    · have busy : works thread = .issuing bud := busy
      have advanced : (works thread).advance (.signMessage (mintRequest bud))
          (oracle.signature (mintRequest bud)) =
            .signed bud.id (oracle.signature (mintRequest bud)) := by
        rw [busy]
        rfl
      have token : (works thread).token = some bud.id := by
        rw [busy]
        rfl
      simp only [exec, advanced]
      exact ledger.sign busy (issuing.below_next token) fun other again =>
        issuing.apart other thread bud.id again token
    · have idle : works thread = .idle := idle
      have unmoved : ∀ answer, (works thread).advance (.signMessage request)
          answer = works thread := by
        intro answer
        rw [idle]
        rfl
      rw [unmoved, mintedToken, if_neg other, Option.toList_none,
        List.append_nil]
      exact ledger.still (.inl rfl)
  · have unsigned : ∀ request, query ≠ .signMessage request :=
      fun request same => signs ⟨request, same⟩
    have silent : mintedToken query = none := by
      cases query with
      | signMessage request => exact absurd rfl (unsigned request)
      | _ => rfl
    rw [silent, Option.toList_none, List.append_nil]
    exact ledger.still (token_advance uncreated unsigned _ _)

end Steps

section Interleavings

variable {ι : Type} [DecidableEq ι] {app : App} {admitted : Oracle → Prop}
  {requests : ι → Request} {db : Db} {steps : List (ServerStep ι)}
  {final : Server ι}

def mintedTokens (steps : List (ServerStep ι)) : List Int :=
  steps.filterMap fun step => mintedToken step.label.query

omit [DecidableEq ι] in
theorem mintedTokens_snoc (step : ServerStep ι) :
    mintedTokens (steps ++ [step]) =
      mintedTokens steps ++ (mintedToken step.label.query).toList := by
  rw [mintedTokens, List.filterMap_append]
  cases minted : mintedToken step.label.query <;> simp [mintedTokens, minted]

/-- The request signs the mint of a bud that is stored. -/
def SignsStored (step : ServerStep ι) : Prop :=
  ∀ request, step.label.query = .signMessage request →
    request.typeString = .Gen1Bud →
    ∃ bud ∈ step.source.store.gen1Bud.rows, request = mintRequest bud

/-- However the requests are interleaved, no token is signed twice or signed
again, every mint request is that of a stored bud, and every signature that is
stored is the signer's answer to the mint request of its own bud. -/
theorem tokens_signed_once (rested : Rested app admitted db)
    (interleaving : Interleaving app admitted requests db steps final) :
    (mintedTokens steps).Nodup ∧
      (∀ id ∈ mintedTokens steps, db.gen1Bud.nextId ≤ id) ∧
      (∀ step ∈ steps, SignsStored step) ∧
      ∀ bud ∈ final.store.gen1Bud.rows, bud.signature = "" ∨
        SignerAnswers admitted bud (some bud.signature) := by
  have ledger : SignedOnce db.gen1Bud.nextId
      (fun thread => (reached app requests steps thread).work)
      final.store.gen1Bud.nextId (mintedTokens steps) ∧
        ∀ step ∈ steps, SignsStored step := by
    refine Discipline.induct (fun steps pool => SignedOnce db.gen1Bud.nextId
        (fun thread => (reached app requests steps thread).work)
        pool.store.gen1Bud.nextId (mintedTokens steps) ∧
          ∀ step ∈ steps, SignsStored step)
      interleaving upholds
      (fun thread => guarded_handle app db (requests thread))
      (rested.keeping requests) ?_ ?_
    · refine ⟨⟨fun id member => absurd member List.not_mem_nil, ?_, le_rfl,
        List.nodup_nil⟩, fun step member => absurd member List.not_mem_nil⟩
      intro thread id token
      cases token
    · intro steps current thread query next oracle keeping before permitted _
      refine ⟨?_, fun step member => ?_⟩
      · rw [mintedTokens_snoc, reached, Protocol.stages_snoc, work_update]
        exact before.1.step keeping.issuing permitted oracle
      · rcases List.mem_append.mp member with old | new
        · exact before.2 step old
        · obtain rfl := List.mem_singleton.mp new
          rintro request rfl bred
          rcases permitted with ⟨bud, busy, rfl⟩ | ⟨-, other, -⟩
          · obtain ⟨row, listed, later⟩ :=
              keeping.issuing.issued thread bud busy
            exact ⟨row, listed, (mintRequest_later later).symm⟩
          · exact absurd bred other
  obtain ⟨keeping, -⟩ := keeping_of_interleaving rested interleaving
  exact ⟨ledger.1.nodup, fun id member => (ledger.1.settled id member).1,
    ledger.2, keeping.issuing.genuine⟩

end Interleavings

/-- `alice` finalizes her pair twice at the same time. -/
def rivalFinals : Bool → Request :=
  fun _ => .finalizeBreeding alice ⟨1, 17, 18⟩

theorem tokens_signed_once_rivals :
    mintedTokens (interleave (liveApp .goerli) rivalFinals
        (turns 30 (period 5)) (breedingAfter 7)).1 = [1, 2] ∧
      (mintedTokens (interleave (liveApp .goerli) rivalFinals
        (turns 30 (period 5)) (breedingAfter 7)).1).Nodup := by
  constructor
  · rw [breedingAfter_succ 6]
    decide +kernel
  · exact (tokens_signed_once (rested_breedingAfter 7)
      (interleaving_of_schedule (liveApp .goerli) rivalFinals _ _)).1

end BudBreeding.Concurrency
