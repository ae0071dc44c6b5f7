import BudBreeding.Access.Gate
import BudBreeding.Concurrency.Confinement
import BudBreeding.Concurrency.Serial
import BudBreeding.Mediation.Audit

namespace BudBreeding.Mediation

open Data Program Backend Concurrency Access

/-! Who answers for a change: a login that was signed, a token that such a login
returned, or the key of the admins. -/

section Grounded

variable {app : App} {request : Request} {past : Past} {query : Query}

/-- The request had grounds for everything it has asked. -/
def Conducted (app : App) (request : Request) (past : Past) : Prop :=
  ∀ known ∈ past, ∃ before, before <+: past ∧
    Grounded app request before known.query

/-- What the requests that are nobody's own have seen before they change anything. -/
def Entitled : Request → Past → Prop
  | .login body, past => SignedIn past body
  | .invalidatePair req body, past =>
      OwnsBuds past req.user body.maleBudId body.femaleBudId
  | _, _ => True

theorem Entitled.kept {later : Past} (entitled : Entitled request past)
    (onward : past <+: later) : Entitled request later := by
  cases request
  case login body => exact SignedIn.kept onward entitled
  case invalidatePair req body => exact OwnsBuds.kept onward entitled
  all_goals trivial

theorem entitled_of_level {pairId number : Int}
    (grounds : LevelGrounds app request past pairId number) :
    Entitled request past := by
  rcases grounds with ⟨_, _, _, _, rfl, -⟩ | ⟨_, _, _, rfl, -⟩
  · trivial
  · trivial

theorem entitled_of_prize {data : Gen1BudCreate}
    (grounds : PrizeGrounds app request past data) : Entitled request past := by
  rcases grounds with ⟨_, _, _, _, _, rfl, -⟩ | ⟨_, rfl, -⟩
  · trivial
  · trivial

theorem entitled_of_seizure (grounds : SeizureGrounds request past) :
    Entitled request past := by
  rcases grounds with ⟨_, _, rfl, owns⟩ | ⟨_, _, rfl, -⟩ | ⟨_, rfl, -⟩
  · exact owns
  · trivial
  · trivial

theorem entitled_of_write (conducted : Conducted app request past)
    (grounds : Grounded app request past query)
    (writes : query.written ≠ none) : Entitled request past := by
  cases query <;> try exact absurd rfl writes
  case userUpdate address value =>
    obtain ⟨_, -, ⟨_, _, -⟩ | ⟨_, rfl, -⟩ | ⟨_, rfl, -⟩⟩ := grounds
    · cases request <;> trivial
    · trivial
    · trivial
  case userUpsert address signature gameKeyId =>
    obtain ⟨body, rfl, signedIn, -⟩ := grounds
    exact signedIn
  case breedPairCreate data =>
    obtain ⟨_, _, _, rfl, -⟩ := grounds
    trivial
  case breedPairUpdate id data =>
    cases data with
    | status status =>
        rcases grounds with ⟨_, _, _, rfl, -⟩ | ⟨_, _, _, _, rfl, -⟩
        · trivial
        · trivial
    | currentLevel value => exact entitled_of_level grounds
  case breedPairUpdateMany filter data => exact entitled_of_seizure grounds.2
  case breedLevelCreate data => exact entitled_of_level grounds
  case breedLevelUpdate id data =>
    obtain ⟨_, _, -, ⟨_, _, rfl, -⟩ | ⟨_, _, rfl, -⟩⟩ := grounds
    · trivial
    · trivial
  case breedBudCreateMany levelId buds =>
    obtain ⟨-, data, level, created, -⟩ := grounds
    obtain ⟨before, earlier, grounds⟩ := conducted _ created
    exact (entitled_of_level grounds).kept earlier
  case breedSlotCreateMany data =>
    rcases grounds with ⟨body, rfl, signedIn, -⟩ | ⟨_, _, rfl, -⟩
    · exact signedIn
    · trivial
  case breedSlotUpdate id data =>
    cases data with
    | isOpen isOpen =>
        rcases grounds with ⟨_, _, rfl, -⟩ | ⟨_, _, _, _, rfl, -⟩
        · trivial
        · trivial
    | type type =>
        rcases grounds with ⟨_, _, rfl, -⟩ | ⟨_, _, _, rfl, -⟩
        · trivial
        · trivial
    | isUsed isUsed =>
        rcases grounds with ⟨_, _, _, _, rfl, -⟩ | ⟨_, _, _, _, rfl, -⟩ |
          ⟨_, _, _, rfl, -⟩
        · trivial
        · trivial
        · trivial
    | deletedAt deletedAt => cases grounds
  case breedSlotUpdateMany filter data => exact entitled_of_seizure grounds
  case eventServiceLogCreate data =>
    rcases grounds with ⟨_, _, _, ⟨rfl, -⟩ | ⟨rfl, -⟩, -⟩ | ⟨_, _, rfl, -⟩
    · trivial
    · trivial
    · trivial
  case gen1BudCreate data => exact entitled_of_prize grounds
  case gen1BudUpdateSignature id signature =>
    obtain ⟨data, bud, created, -⟩ := grounds
    obtain ⟨before, earlier, grounds⟩ := conducted _ created
    exact (entitled_of_prize grounds).kept earlier
  case gen1BudUpdateName id name =>
    obtain ⟨_, _, _, _, rfl, -⟩ := grounds
    trivial

end Grounded

section Tokens

variable {app : App} {admitted : Oracle → Prop} {request : Request} {past : Past}

/-- A token is returned for the row of the user that the login has stored. -/
def Tokened (memory : Memory Request Query.Answer)
    (result : Except Failure Response) : Prop :=
  ∀ token, result = .ok (.token token) → ∃ address signature gameKeyId user,
    Knows memory.past (.userUpsert address signature gameKeyId) (.ok user) ∧
      token = ⟨user.address, gameKeyId⟩

/-- From what it knows on, the program only ends as `finish` says. -/
abbrev Ends (admitted : Oracle → Prop)
    (finish : Memory Request Query.Answer → Except Failure Response → Prop)
    (request : Request) (past : Past) (program : Handler Response) : Prop :=
  (recollect fun _ _ _ => True).Follows (surroundings admitted) finish
    ⟨request, past⟩ program

theorem tokened_of_error {memory : Memory Request Query.Answer}
    {error : Failure} : Tokened memory (.error error) := by
  intro token same
  cases same

theorem ends_map {α : Type} {program : Handler α} {make : α → Response}
    (other : ∀ value token, make value ≠ .token token) :
    Ends admitted Tokened request past (make <$> program) := by
  rw [Ends, Protocol.follows_map]
  refine follows_of_free (fun _ _ _ _ => trivial) program.uses_all ?_
  intro extra _ result token same
  cases result with
  | ok value => exact absurd (Except.ok.inj same) (other value token)
  | error error => cases same

theorem ends_login (app : App) (body : LoginDto) :
    Ends admitted Tokened request past
      (.token <$> UserController.login app body) := by
  have skip : ∀ {α : Type} {known : Past} {program : Handler α}
      {rest : α → Handler AccessToken},
      (∀ value later, (recollect fun _ _ _ => True).Follows
        (surroundings admitted)
        (fun memory result => Tokened memory (result.map .token))
        ⟨request, later⟩ (rest value)) →
      (recollect fun _ _ _ => True).Follows (surroundings admitted)
        (fun memory result => Tokened memory (result.map .token))
        ⟨request, known⟩ (program >>= rest) := by
    intro α known program rest continued
    exact follows_free (fun _ _ _ _ => trivial) program.uses_all
      (fun _ _ _ => tokened_of_error) fun value _ _ => continued value _
  rw [Ends, Protocol.follows_map, UserController.login]
  refine skip fun isValid first => ?_
  refine skip fun _ second => ?_
  refine skip fun _ third => ?_
  refine skip fun derivedAddress fourth => ?_
  split
  · refine skip fun _ fifth => ?_
    rw [Prisma.userUpsert, Prog.bind_assoc]
    refine follows_asked trivial fun stored => ?_
    cases stored with
    | error error => exact tokened_of_error
    | ok user =>
        intro token same
        refine ⟨_, _, _, user, List.mem_append_right _ List.mem_cons_self, ?_⟩
        exact (Response.token.inj (Except.ok.inj same)).symm
  · exact tokened_of_error

theorem ends_handle (app : App) (request : Request) :
    Ends admitted Tokened request [] (handle app request) := by
  have checked : ∀ {valid : Bool} {handler : Handler Response},
      Ends admitted Tokened request [] handler →
      Ends admitted Tokened request [] (validated valid handler) :=
    fun ends => follows_validated tokened_of_error fun _ => ends
  cases request with
  | login body => exact checked (ends_login app body)
  | convertBp2High req body => exact checked (ends_map (by simp))
  | openSlot req body => exact ends_map (by simp)
  | convertIndoor req body => exact ends_map (by simp)
  | purchaseLand req => exact ends_map (by simp)
  | invalidatePair req body => exact ends_map (by simp)
  | createPair req body => exact checked (ends_map (by simp))
  | levelBreedingUp req body => exact ends_map (by simp)
  | cancelBreeding req body => exact ends_map (by simp)
  | finalizeBreeding req body => exact ends_map (by simp)
  | renameGen1Buds req body => exact checked (ends_map (by simp))
  | invalidateBreedingPairByBudId body => exact checked (ends_map (by simp))
  | invalidSlotsForGameKey body => exact checked (ends_map (by simp))
  | addBreedingPoint body => exact checked (ends_map (by simp))
  | withdrawBreedingPoint body => exact checked (ends_map (by simp))
  | burnGen0Buds body => exact checked (ends_map (by simp))

end Tokens

section Interleavings

variable {ι : Type} [DecidableEq ι] {app : App} {admitted : Oracle → Prop}
  {requests : ι → Request} {db : Db} {steps : List (ServerStep ι)}
  {final : Server ι}

theorem conducted_of_interleaving
    (interleaving : Interleaving app admitted requests db steps final)
    (thread : ι) : Conducted app (requests thread) (asked thread steps) := by
  intro known member
  obtain ⟨step, listed, label⟩ := mem_asked.mp member
  obtain ⟨earlier, later, rfl⟩ := List.append_of_mem listed
  have grounds := (audited_of_interleaving interleaving earlier step later
    rfl).grounds
  rw [label] at grounds
  exact ⟨_, asked_mono thread earlier (step :: later), grounds⟩

omit [DecidableEq ι] in
theorem address_of_upserted {address : Address} {signature : String}
    {gameKeyId : Int} {user : User} {after : Db} (oracle : Oracle)
    (stored : exec oracle (.userUpsert address signature gameKeyId) db =
      (.ok user, after)) : user.address = address := by
  simp only [exec] at stored
  split at stored
  · obtain ⟨rfl, -⟩ : _ = user ∧ _ := by simpa using stored
    cases found : db.user.find address with
    | none => rfl
    | some row => exact (Table.find_eq_some.mp found).2
  · cases stored

/-- Whoever holds a token has signed in for it. -/
theorem signedIn_of_token
    (interleaving : Interleaving app admitted requests db steps final)
    {login : ι} {token : AccessToken}
    (ended : final.threads login = .pure (.token token)) :
    ∃ body, requests login = .login body ∧
      SignedIn (asked login steps) body ∧
      token = ⟨body.address, body.gameKeyId⟩ := by
  have ends := Protocol.follows_of_history interleaving
    (fun thread => ends_handle app (requests thread)) login
  rw [ended, stages_recollect] at ends
  obtain ⟨address, signature, gameKeyId, user, knows, rfl⟩ := ends token rfl
  obtain ⟨before, earlier, body, asks, signedIn, rfl, -, rfl⟩ :=
    conducted_of_interleaving interleaving login _ knows
  obtain ⟨step, -, -, oracle, stored⟩ := answered_of_history interleaving knows
  refine ⟨body, asks, signedIn.kept earlier, ?_⟩
  rw [address_of_upserted oracle stored]

/-- The tokens that verify are those that ended logins have returned. -/
def Unforged (gatekeeper : Gatekeeper) (calls : ι → Call)
    (steps : List (ServerStep ι)) : Prop :=
  ∀ step ∈ steps, ∀ authorization deed,
    calls step.label.thread = .action authorization deed →
    ∀ token, gatekeeper.jwtDecodeUser
        (AuthMiddleware.tokenOf authorization) = some token →
      ∃ login, step.source.threads login = .pure (.token token)

/-- The account has signed a fresh message, and the server has verified it. -/
def Session (calls : ι → Call) (earlier : List (ServerStep ι)) (login : ι)
    (body : LoginDto) : Prop :=
  calls login = .login body ∧ SignedIn (asked login earlier) body

/-- Who may change what the owner holds: the owner's login, a call with a token of
the owner, an admin, and whoever owns the buds of a pair, who may fail it. -/
inductive Answerable (gatekeeper : Gatekeeper) (calls : ι → Call)
    (earlier : List (ServerStep ι)) (step : ServerStep ι) (owner : Address) : Prop
  | login {body : LoginDto}
      (session : Session calls earlier step.label.thread body)
      (own : body.address = owner)
  | token {authorization : Option String} {deed : Action} {login : ι}
      {body : LoginDto}
      (call : calls step.label.thread = .action authorization deed)
      (session : Session calls earlier login body)
      (own : gatekeeper.checksumAddress body.address = owner)
  | admin {deed : AdminAction}
      (call : calls step.label.thread = .admin (some gatekeeper.adminKey) deed)
  | buds {authorization : Option String} {pair : InvalidBreedPairDto} {login : ι}
      {body : LoginDto}
      (call : calls step.label.thread =
        .action authorization (.invalidatePair pair))
      (session : Session calls earlier login body)
      (owns : OwnsBuds (asked step.label.thread earlier)
        (gatekeeper.checksumAddress body.address) pair.maleBudId
        pair.femaleBudId)
      (besides : (holdings step.target.store owner).besides =
        (holdings step.source.store owner).besides)

/-- However the calls are interleaved, what a user holds is changed by those only
who can answer for it. -/
theorem changes_answered {gatekeeper : Gatekeeper} {calls : ι → Call}
    (rested : Rested app admitted db)
    (passes : ∀ thread, (calls thread).pass gatekeeper = .ok (requests thread))
    (unforged : Unforged gatekeeper calls steps)
    (interleaving : Interleaving app admitted requests db steps final) :
    Everywhere (fun earlier step => ∀ owner,
      holdings step.target.store owner ≠ holdings step.source.store owner →
      Answerable gatekeeper calls earlier step owner) steps := by
  intro earlier step later split owner changed
  have member : step ∈ steps := split ▸ List.mem_append_right _ List.mem_cons_self
  obtain ⟨reached, -, -, grounds⟩ :=
    audited_of_interleaving interleaving earlier step later split
  obtain ⟨works, oracle, climbing, permitted, made⟩ :=
    permitted_of_interleaving rested interleaving step member
  have writes : step.label.query.written ≠ none := by
    intro silent
    have same := exec_sameBut oracle step.label.query step.source.store
    rw [silent] at same
    rw [made, same.eq] at changed
    exact changed rfl
  have entitled := entitled_of_write
    (conducted_of_interleaving reached step.label.thread) grounds writes
  have holder := holder_of_changed climbing permitted oracle (made ▸ changed)
  rw [← made] at holder
  have passed := passes step.label.thread
  cases call : calls step.label.thread with
  | login body =>
      rw [call] at passed
      rw [← Except.ok.inj passed] at holder entitled
      rcases holder with own | ⟨nobody, -⟩
      · exact .login ⟨call, entitled⟩ (Option.some.inj own)
      · cases nobody
  | action authorization deed =>
      rw [call] at passed
      obtain ⟨req, used, same⟩ := use_of_pass passed
      obtain ⟨token, valid, user⟩ := decoded_of_use used
      obtain ⟨login, ended⟩ := unforged step member authorization deed call token
        valid
      obtain ⟨body, asks, signedIn, rfl⟩ := signedIn_of_token reached ended
      have session : Session calls earlier login body :=
        ⟨login_of_pass (asks ▸ passes login), signedIn⟩
      rw [same] at holder entitled
      rcases holder with own | ⟨nobody, besides⟩
      · refine .token call session (user.symm.trans ?_)
        cases deed <;> first
          | exact Option.some.inj own
          | cases own
      · cases deed <;> try cases nobody
        exact .buds call session (user ▸ entitled) besides
  | admin adminKey deed =>
      rw [call] at passed
      obtain ⟨rfl, -⟩ := key_of_pass passed
      exact .admin call

end Interleavings

section SignedIn

/-- The token of `alice` is the only one that verifies; `getAddress` throws. -/
def aliceGatekeeper : Gatekeeper where
  jwtDecodeUser token := if token = "token" then some ⟨"alice", 7⟩ else none
  getAddress _ := none
  adminKey := "admin"

/-- `alice` logs in and creates a pair with the token. -/
def pairingCalls (thread : Bool) : Call :=
  if thread then .login (loginFrom "alice")
  else .action (some "Bearer token") (.createPair ⟨1, 2, 1, none, none⟩)

def pairingRequests (thread : Bool) : Request :=
  if thread then .login (loginFrom "alice")
  else .createPair alice ⟨1, 2, 1, none, none⟩

def pairedUp : Except Failure Response × Db :=
  (surroundings fun _ => True).run (fun _ => .agreeable "alice" (period 0))
    (handle (liveApp .goerli) (pairingRequests false)) signedUp

/-- The server when `alice` has her token. -/
def pairingServer : Backend.Server Bool where
  store := signedUp
  threads := Function.update
    (serving (liveApp .goerli) pairingRequests .empty).threads true
    (.ofExcept (.ok (.token ⟨"alice", 7⟩)))

/-- A login to its end, then the request that has its token. -/
theorem pairing_calls :
    ∃ steps final, Interleaving (liveApp .goerli) (fun _ => True)
        pairingRequests .empty steps final ∧ final.store = pairedUp.2 ∧
      Unforged aliceGatekeeper pairingCalls steps := by
  have admitted : (fun _ : Oracle => True) (.agreeable "alice" (period 0)) :=
    trivial
  have login : Handles (liveApp .goerli) (fun _ => True) .empty
      ⟨.login (loginFrom "alice"), .ok (.token ⟨"alice", 7⟩)⟩ signedUp :=
    handles_login admitted (by decide +kernel) (genuine_loginFrom rfl) rfl .empty
  have pairing : Handles (liveApp .goerli) (fun _ => True) signedUp
      ⟨pairingRequests false, pairedUp.1⟩ pairedUp.2 :=
    handles_run (liveApp .goerli) admitted (pairingRequests false) signedUp
  have signing : ∃ steps, (∀ step ∈ steps, step.label.thread = true) ∧
      Interleaving (liveApp .goerli) (fun _ => True) pairingRequests .empty steps
        pairingServer := history_of_runs login rfl
  have acting : ∃ steps, (∀ step ∈ steps, step.label.thread = false) ∧
      History (Pool.Next (surroundings fun _ => True)) pairingServer steps
        ⟨pairedUp.2, _⟩ := history_of_runs pairing rfl
  obtain ⟨first, signs, before⟩ := signing
  obtain ⟨second, acts, after⟩ := acting
  refine ⟨first ++ second, _, before.append after, rfl, ?_⟩
  intro step member authorization deed call token valid
  rcases List.mem_append.mp member with old | new
  · rw [signs step old] at call
    cases call
  · obtain ⟨earlier, later, split⟩ := List.append_of_mem new
    obtain ⟨waited, -⟩ := after.everywhere_reached earlier step later split
    have kept : step.source.threads true = pairingServer.threads true := by
      refine untouched waited fun other among => ?_
      rw [acts other (split ▸ List.mem_append_left _ among)]
      decide
    rw [acts step new] at call
    obtain ⟨rfl, -⟩ := Call.action.inj call
    have same : some ⟨"alice", 7⟩ = some token := valid
    obtain rfl := Option.some.inj same
    exact ⟨true, kept⟩

/-- `alice` has her pair, and every change on the way there is answered for. -/
theorem changes_answered_pairing :
    ∃ steps final, Interleaving (liveApp .goerli) (fun _ => True)
        pairingRequests .empty steps final ∧
      (holdings final.store "alice").breedPairs.length = 1 ∧
      Everywhere (fun earlier step => ∀ owner,
        holdings step.target.store owner ≠ holdings step.source.store owner →
        Answerable aliceGatekeeper pairingCalls earlier step owner) steps := by
  obtain ⟨steps, final, interleaving, reached, unforged⟩ := pairing_calls
  refine ⟨steps, final, interleaving, ?_, ?_⟩
  · rw [reached]
    decide +kernel
  · refine changes_answered .empty ?_ unforged interleaving
    intro thread
    cases thread <;> rfl

end SignedIn

end BudBreeding.Mediation
