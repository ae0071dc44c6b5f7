import BudBreeding.Concurrency.Terms

namespace BudBreeding.Concurrency

open Data Program Backend

/-! The mint signatures of the second-generation buds while requests are under
way. -/

/-- The signer has answered the mint request of the bud so. -/
def SignerAnswers (admitted : Oracle → Prop) (bud : Gen1Bud)
    (signature : Option String) : Prop :=
  ∃ oracle, admitted oracle ∧ oracle.signature (mintRequest bud) = signature

theorem mintRequest_later {bud row : Gen1Bud} (later : Gen1Later bud row) :
    mintRequest row = mintRequest bud := by
  rw [mintRequest, mintRequest, later.id, later.minterAddress, later.createdAt]

variable {ι : Type} {admitted : Oracle → Prop}

/-- A bud that is to be signed is stored, and signatures are those of the mint
request of the bud they are stored with. -/
structure Issuing (admitted : Oracle → Prop) (works : ι → Work) (db : Db) :
    Prop where
  issued : ∀ thread bud, works thread = .issuing bud →
    ∃ row ∈ db.gen1Bud.rows, Gen1Later bud row
  signed : ∀ thread id signature, works thread = .signed id signature →
    ∃ row ∈ db.gen1Bud.rows, row.id = id ∧
      SignerAnswers admitted row signature
  genuine : ∀ row ∈ db.gen1Bud.rows, row.signature = "" ∨
    SignerAnswers admitted row (some row.signature)
  apart : ∀ first second id, (works first).token = some id →
    (works second).token = some id → first = second

namespace Issuing

variable {works later : ι → Work} {db after : Db}

theorem empty : Issuing admitted (fun _ : ι => Work.idle) .empty where
  issued _ _ busy := by cases busy
  signed _ _ _ busy := by cases busy
  genuine _ listed := absurd listed List.not_mem_nil
  apart _ _ _ busy := by cases busy

theorem below_next (issuing : Issuing admitted works db) {thread : ι} {id : Int}
    (token : (works thread).token = some id) : id < db.gen1Bud.nextId := by
  cases busy : works thread with
  | issuing bud =>
      rw [busy] at token
      cases token
      obtain ⟨row, listed, same⟩ := issuing.issued thread bud busy
      rw [← same.id]
      exact db.gen1Bud.bounded row listed
  | idle => rw [busy] at token; cases token
  | raising pairId number levelId => rw [busy] at token; cases token
  | raised pairId number => rw [busy] at token; cases token
  | signed id signature => rw [busy] at token; cases token

/-- A request that is neither issuing nor signing a bud does not become so. -/
theorem of_same (issuing : Issuing admitted works db)
    (rows : Persists Gen1Later db.gen1Bud.rows after.gen1Bud.rows)
    (genuine : ∀ row ∈ after.gen1Bud.rows, row.signature = "" ∨
      SignerAnswers admitted row (some row.signature))
    (busy : ∀ thread, later thread = works thread ∨
      (later thread).token = none ∧
        ∀ id signature, later thread ≠ .signed id signature) :
    Issuing admitted later after where
  issued thread bud issues := by
    rcases busy thread with same | ⟨tokenless, -⟩
    · obtain ⟨row, listed, first⟩ :=
        issuing.issued thread bud (same.symm.trans issues)
      obtain ⟨next, present, second⟩ := rows row listed
      exact ⟨next, present, first.trans second⟩
    · rw [issues] at tokenless
      cases tokenless
  signed thread id signature signs := by
    rcases busy thread with same | ⟨-, unsigned⟩
    · obtain ⟨row, listed, first, answers⟩ :=
        issuing.signed thread id signature (same.symm.trans signs)
      obtain ⟨next, present, second⟩ := rows row listed
      refine ⟨next, present, second.id.trans first, ?_⟩
      rw [SignerAnswers, mintRequest_later second]
      exact answers
    · exact absurd signs (unsigned id signature)
  genuine := genuine
  apart first second id left right := by
    have before : ∀ thread, (later thread).token = some id →
        (works thread).token = some id := by
      intro thread token
      rcases busy thread with same | ⟨tokenless, -⟩
      · rw [← same]
        exact token
      · rw [tokenless] at token
        cases token
    exact issuing.apart first second id (before first left)
      (before second right)

section Steps

variable [DecidableEq ι] {app : App} {thread : ι}

theorem genuine_later {row next : Gen1Bud} (later : Gen1Later row next)
    {signature : Option String}
    (answers : SignerAnswers admitted row signature) :
    SignerAnswers admitted next signature := by
  rw [SignerAnswers, mintRequest_later later]
  exact answers

/-- Only the queries of a mint change what is issued and signed. -/
theorem advance_unissued {query : Query}
    (elsewhere : query.written ≠ some .gen1Bud)
    (unsigned : ∀ request, query ≠ .signMessage request) (work : Work)
    (answer : query.Answer) :
    work.advance query answer = work ∨
      (work.advance query answer).token = none ∧
        ∀ id signature, work.advance query answer ≠ .signed id signature := by
  cases query
  case gen1BudCreate data => exact absurd rfl elsewhere
  case gen1BudUpdateSignature id signature => exact absurd rfl elsewhere
  case gen1BudUpdateName id name => exact absurd rfl elsewhere
  case signMessage request => exact absurd rfl (unsigned request)
  case breedPairUpdate id data =>
    cases data <;> cases work <;> first
      | exact .inl rfl
      | exact .inr ⟨rfl, fun _ _ => Work.noConfusion⟩
  case breedLevelCreate data =>
    cases work <;> cases answer <;> first
      | exact .inl rfl
      | exact .inr ⟨rfl, fun _ _ => Work.noConfusion⟩
  all_goals cases work <;> first
    | exact .inl rfl
    | exact .inr ⟨rfl, fun _ _ => Work.noConfusion⟩

theorem of_update {work : Work}
    (moved : work = works thread ∨
      work.token = none ∧ ∀ id signature, work ≠ .signed id signature)
    (other : ι) :
    Function.update works thread work other = works other ∨
      (Function.update works thread work other).token = none ∧
        ∀ id signature,
          Function.update works thread work other ≠ .signed id signature := by
  by_cases here : other = thread
  · rw [here, Function.update_self]
    exact moved
  · rw [Function.update_of_ne here]
    exact .inl rfl

/-- A change of the columns that do not tell what was signed. -/
theorem updateGen1Bud (issuing : Issuing admitted works db) {id : Int}
    {data : Gen1BudUpdate} {work : Work}
    (moved : work = works thread ∨
      work.token = none ∧ ∀ id signature, work ≠ .signed id signature)
    (stored : ∀ row ∈ db.gen1Bud.rows, row.id = id →
      (data.apply row).signature = row.signature ∨
        SignerAnswers admitted row (some (data.apply row).signature)) :
    Issuing admitted (Function.update works thread work)
      (db.updateGen1Bud id data) := by
  have later : ∀ row : Gen1Bud, Gen1Later row (data.apply row) := by
    intro row
    cases data <;> rfl
  refine issuing.of_same
    (.modifySerial Gen1Later.refl fun row _ _ => later row) ?_ (of_update moved)
  intro row listed
  rcases Serial.of_mem_modify listed with
    ⟨old, present, chosen, rfl⟩ | ⟨present, -⟩
  · rcases stored old present (of_decide_eq_true chosen) with same | answers
    · rw [same]
      refine (issuing.genuine old present).imp_right fun answers => ?_
      exact genuine_later (later old) answers
    · exact .inr (genuine_later (later old) answers)
  · exact issuing.genuine row present

theorem createGen1Bud (issuing : Issuing admitted works db)
    {data : Gen1BudCreate} {now : Time} (unsigned : data.signature = "") :
    Issuing admitted
      (Function.update works thread
        (.issuing (data.row now db.gen1Bud.nextId)))
      (db.createGen1Bud data now) := by
  have fresh : ∀ other, (works other).token ≠ some db.gen1Bud.nextId :=
    fun other token => lt_irrefl _ (issuing.below_next token)
  constructor
  · intro other bud issues
    by_cases here : other = thread
    · rw [here, Function.update_self] at issues
      cases issues
      exact ⟨_, List.mem_append_right _ List.mem_cons_self, rfl⟩
    · rw [Function.update_of_ne here] at issues
      obtain ⟨row, listed, later⟩ := issuing.issued other bud issues
      exact ⟨row, List.mem_append_left _ listed, later⟩
  · intro other id signature signs
    by_cases here : other = thread
    · rw [here, Function.update_self] at signs
      cases signs
    · rw [Function.update_of_ne here] at signs
      obtain ⟨row, listed, given⟩ := issuing.signed other id signature signs
      exact ⟨row, List.mem_append_left _ listed, given⟩
  · intro row listed
    rcases List.mem_append.mp listed with old | new
    · exact issuing.genuine row old
    · rw [List.mem_singleton.mp new]
      exact .inl unsigned
  · intro first second id left right
    by_cases one : first = thread
    · by_cases two : second = thread
      · rw [one, two]
      · rw [one, Function.update_self] at left
        cases left
        rw [Function.update_of_ne two] at right
        exact absurd right (fresh second)
    · rw [Function.update_of_ne one] at left
      by_cases two : second = thread
      · rw [two, Function.update_self] at right
        cases right
        exact absurd left (fresh first)
      · rw [Function.update_of_ne two] at right
        exact issuing.apart first second id left right

theorem sign (issuing : Issuing admitted works db) {bud : Gen1Bud}
    {oracle : Oracle} (allowed : admitted oracle)
    (busy : works thread = .issuing bud) :
    Issuing admitted
      (Function.update works thread
        (.signed bud.id (oracle.signature (mintRequest bud)))) db := by
  constructor
  · intro other row issues
    by_cases here : other = thread
    · rw [here, Function.update_self] at issues
      cases issues
    · rw [Function.update_of_ne here] at issues
      exact issuing.issued other row issues
  · intro other id signature signs
    by_cases here : other = thread
    · rw [here, Function.update_self] at signs
      cases signs
      obtain ⟨row, listed, later⟩ := issuing.issued thread bud busy
      exact ⟨row, listed, later.id, oracle, allowed,
        by rw [mintRequest_later later]⟩
    · rw [Function.update_of_ne here] at signs
      exact issuing.signed other id signature signs
  · exact issuing.genuine
  · intro first second id left right
    have before : ∀ other, (Function.update works thread
        (.signed bud.id (oracle.signature (mintRequest bud))) other).token =
          some id → (works other).token = some id := by
      intro other token
      by_cases here : other = thread
      · rw [here, Function.update_self] at token
        cases token
      · rwa [Function.update_of_ne here] at token
    exact issuing.apart first second id (before first left)
      (before second right)

theorem of_elsewhere (issuing : Issuing admitted works db) (oracle : Oracle)
    {query : Query} (elsewhere : query.written ≠ some .gen1Bud)
    (unsigned : ∀ request, query ≠ .signMessage request) :
    Issuing admitted
      (Function.update works thread
        ((works thread).advance query (exec oracle query db).1))
      (exec oracle query db).2 := by
  have same := (exec_sameBut oracle query db).gen1Bud elsewhere
  refine issuing.of_same ?_ ?_
    (of_update (advance_unissued elsewhere unsigned _ _))
  · rw [same]
    exact .refl Gen1Later.refl _
  · rw [same]
    exact issuing.genuine

theorem step (issuing : Issuing admitted works db) {holder : Option Address}
    {query : Query} (permitted : permits app ⟨holder, works thread⟩ query db)
    {oracle : Oracle} (allowed : admitted oracle) :
    Issuing admitted
      (Function.update works thread
        ((works thread).advance query (exec oracle query db).1))
      (exec oracle query db).2 := by
  cases query
  case gen1BudCreate data =>
    obtain ⟨idle, -, unsigned⟩ := permitted
    have idle : works thread = .idle := idle
    have advanced : (works thread).advance (.gen1BudCreate data)
        (data.row oracle.now db.gen1Bud.nextId) =
          .issuing (data.row oracle.now db.gen1Bud.nextId) := by
      rw [idle]
      rfl
    simp only [exec, advanced]
    exact issuing.createGen1Bud unsigned
  case gen1BudUpdateSignature id signature =>
    have busy : works thread = .signed id signature := permitted.1
    have advanced : ∀ answer, (works thread).advance
        (.gen1BudUpdateSignature id signature) answer = .idle := by
      intro answer
      rw [busy]
      rfl
    have quiet : Work.idle = works thread ∨ Work.idle.token = none ∧
        ∀ id signature, Work.idle ≠ .signed id signature :=
      .inr ⟨rfl, fun _ _ => Work.noConfusion⟩
    rw [advanced]
    cases signature with
    | none =>
        exact issuing.of_same (.refl Gen1Later.refl _) issuing.genuine
          (of_update quiet)
    | some value =>
        refine issuing.updateGen1Bud quiet fun row listed same => ?_
        obtain ⟨signed, present, named, answers⟩ :=
          issuing.signed thread id (some value) busy
        obtain rfl := db.gen1Bud.eq_of_key_eq listed present
          (same.trans named.symm)
        exact .inr answers
  case gen1BudUpdateName id name =>
    have unmoved : ∀ answer, (works thread).advance
        (.gen1BudUpdateName id name) answer = works thread := by
      intro answer
      cases works thread <;> rfl
    rw [unmoved]
    exact issuing.updateGen1Bud (.inl rfl) fun _ _ _ => .inl rfl
  case signMessage request =>
    rcases permitted with ⟨bud, busy, rfl⟩ | ⟨idle, -⟩
    · have busy : works thread = .issuing bud := busy
      have advanced : (works thread).advance (.signMessage (mintRequest bud))
          (oracle.signature (mintRequest bud)) =
            .signed bud.id (oracle.signature (mintRequest bud)) := by
        rw [busy]
        rfl
      simp only [exec, advanced]
      exact issuing.sign allowed busy
    · have idle : works thread = .idle := idle
      have unmoved : ∀ answer, (works thread).advance (.signMessage request)
          answer = works thread := by
        intro answer
        rw [idle]
        rfl
      rw [unmoved, Function.update_eq_self]
      exact issuing
  all_goals
    apply issuing.of_elsewhere
    all_goals simp [Query.written]

end Steps

end Issuing

end BudBreeding.Concurrency
