import BudBreeding.Access.Login
import BudBreeding.Access.Middleware
import BudBreeding.Points.Book

namespace BudBreeding.Access

open Data Program Backend

/-! Which user row a login acts on, and which one its token leads to. -/

/-- The live free slots of a user row for a game key. -/
def freeSlots (db : Db) (address : Address) (gameKeyId : Int) : Nat :=
  db.breedSlot.rows.countP (LandService.freeLandSlot address gameKeyId)

/-- The live free slots of an account for a game key, in any spelling of its
address. -/
def accountSlots (db : Db) (account : Address) (gameKeyId : Int) : Nat :=
  db.breedSlot.rows.countP fun slot =>
    slot.userAddress.toLower = account.toLower &&
      LandService.freeLandSlot slot.userAddress gameKeyId slot

/-- The middleware leaves the address as it is. -/
def Server.Canonical (server : Server) (address : Address) : Prop :=
  server.checksumAddress address = address

def LoggedIn (step : Transition Db Exchange) (body : LoginDto)
    (token : AccessToken) : Prop :=
  step.label = ⟨.login body, .ok (.token token)⟩

structure OneIdentity (server : Server) (start : Db)
    (steps : List (Transition Db Exchange)) : Prop where
  row : ∀ step ∈ steps, ∀ body token, LoggedIn step body token →
    ∃ user, step.target.user.find body.address = some user ∧
      user.signature = body.signature ∧ user.gameKeyId = some body.gameKeyId
  sameRow : ∀ first ∈ steps, ∀ second ∈ steps, ∀ body other token newer,
    LoggedIn first body token → LoggedIn second other newer →
    body.address.toLower = other.address.toLower → body.address = other.address
  oneRow : ∀ db ∈ states start steps, ∀ user ∈ db.user.rows,
    ∀ other ∈ db.user.rows,
    user.address.toLower = other.address.toLower → user = other
  oneBatch : ∀ db ∈ states start steps, ∀ account gameKeyId,
    accountSlots db account gameKeyId ≤ 5
  derived : ∀ step ∈ steps, ∀ body token, LoggedIn step body token →
    server.checksumAddress token.address = body.address
  found : Everywhere
    (fun earlier step => ∀ login ∈ earlier, ∀ body token,
      LoggedIn login body token →
      ∃ user, step.source.user.find (server.checksumAddress token.address) =
        some user) steps
  housed : ∀ step ∈ steps, ∀ body token, LoggedIn step body token →
    0 < freeSlots step.target (server.checksumAddress token.address)
      token.gameKeyId

/-- What a request other than a login does to the users and to the free slots. -/
structure Kept (before after : Db) : Prop where
  users : after.user.rows.map User.address = before.user.rows.map User.address
  slots : ∀ address gameKeyId,
    freeSlots after address gameKeyId ≤ freeSlots before address gameKeyId

namespace Kept

theorem refl (db : Db) : Kept db db :=
  ⟨rfl, fun _ _ => Nat.le_refl _⟩

theorem trans {first second third : Db} (left : Kept first second)
    (right : Kept second third) : Kept first third where
  users := right.users.trans left.users
  slots address gameKeyId :=
    Nat.le_trans (right.slots address gameKeyId) (left.slots address gameKeyId)

theorem of_same {before after : Db} (users : after.user = before.user)
    (slots : after.breedSlot = before.breedSlot) : Kept before after := by
  constructor
  · rw [users]
  · intro address gameKeyId
    unfold freeSlots
    rw [slots]

theorem setBreedingPoint {start db : Db} {address : Address} {column : Int}
    (kept : Kept start db) : Kept start (db.setBreedingPoint address column) := by
  apply kept.trans
  constructor
  · change (db.user.rows.map _).map User.address = _
    rw [List.map_map]
    apply List.map_congr_left
    intro user _
    rw [Function.comp_apply]
    split
    · rfl
    · rfl
  · exact fun _ _ => Nat.le_refl _

theorem paid {db after : Db} {address : Address} {amount : Int}
    (charged : db.Paid address amount after) : Kept db after := by
  obtain ⟨user, -, -, rfl⟩ := charged
  exact (refl db).setBreedingPoint

/-- Updates of slots neither free them for nor move them to another user. -/
theorem of_update {before after : Db} {filter : BreedSlot → Bool}
    {data : BreedSlotUpdate} (users : after.user = before.user)
    (slots : after.breedSlot = (before.updateBreedSlot filter data).breedSlot) :
    Kept before after := by
  constructor
  · rw [users]
  · intro address gameKeyId
    unfold freeSlots
    rw [slots]
    apply Serial.countP_modify_le
    intro slot selected
    obtain ⟨key, owner, free, live⟩ := of_decide_eq_true selected
    apply decide_eq_true
    cases data with
    | deletedAt time => exact absurd live (Option.some_ne_none time)
    | type value => exact ⟨key, owner, free, live⟩
    | isUsed value => exact ⟨key, owner, free, live⟩
    | isOpen value => exact ⟨key, owner, free, live⟩

theorem addLandSlots (db : Db) (existing : BreedSlot → Bool) (user : Address)
    (landTokenId : Int) :
    Kept db (db.addSlots existing
      (LandService.newSlots user none (some landTokenId))) := by
  unfold Db.addSlots
  split
  · exact refl db
  · constructor
    · rfl
    · intro address gameKeyId
      rw [freeSlots, Db.rows_createBreedSlots, List.countP_append]
      apply Nat.le_of_eq
      apply Nat.add_eq_left.mpr
      exact List.countP_eq_zero.mpr (by simp [LandService.newSlots,
        Serial.numbered, BreedSlotCreate.row, LandService.freeLandSlot])

theorem levelStarted {app : App} {db after : Db} {pair : BreedPair}
    (started : LevelStarted app db pair after) : Kept db after :=
  .of_same started.user started.breedSlot

theorem upgradeSlot (db : Db) (body : CreateBreedPairDto) (slot : BreedSlot) :
    Kept db (db.upgradeSlot body slot) := by
  unfold Db.upgradeSlot
  split
  · exact .of_update rfl rfl
  · exact refl db

theorem insertPair (db : Db) (data : BreedPairCreate) (now : Time) :
    Kept db (db.insertPair data now) :=
  .of_update rfl rfl

theorem evaluateLevel (db : Db) (app : App) (level : BreedLevel)
    (buds : List BreedBud) (maleBudId femaleBudId : Int) :
    Kept db (db.evaluateLevel app level buds maleBudId femaleBudId) :=
  .of_same rfl rfl

theorem closePair {start db : Db} {pair : BreedPair} {status : BreedPairStatus}
    (kept : Kept start db) : Kept start (db.closePair pair status) :=
  kept.trans (.of_update rfl rfl)

theorem nextSlotOpened {start db after : Db} {user : Address}
    (kept : Kept start db) (next : db.NextSlotOpened user after) :
    Kept start after := by
  rcases next with ⟨-, rfl⟩ | ⟨slot, -, -, rfl⟩
  · exact kept
  · exact kept.trans (.of_update rfl rfl)

end Kept

section Steps

variable {app : App} {admitted : Oracle → Prop} {db after : Db}

theorem kept_of_outcome {request : Request} {response : Except Failure Response}
    (outcome : Outcome app admitted db request response after) :
    Kept db after ∨ ∃ body, request = .login body ∧
      response = .ok (.token ⟨body.address, body.gameKeyId⟩) ∧
      after = signedIn db body := by
  cases outcome with
  | @loggedIn body => exact .inr ⟨body, rfl, rfl, rfl⟩
  | slotOpened listed own closed charged =>
      exact .inl ((Kept.paid charged).trans (.of_update rfl rfl))
  | slotConverted listed own outdoor charged =>
      exact .inl ((Kept.paid charged).trans (.of_update rfl rfl))
  | landPurchased charged =>
      exact .inl ((Kept.paid charged).trans (.addLandSlots _ _ _ _))
  | othersPairsFailed selected => exact .inl (.of_update rfl rfl)
  | pairRejected granted => exact .inl (.upgradeSlot _ _ _)
  | levelClashed granted taken samePair sameLevel =>
      exact .inl ((Kept.upgradeSlot _ _ _).trans (.insertPair _ _ _))
  | pairCreated granted started =>
      exact .inl (((Kept.upgradeSlot _ _ _).trans (.insertPair _ _ _)).trans
        (.levelStarted started))
  | levelCharged granted charged => exact .inl (.paid charged)
  | levelEvaluated granted charged evaluable taken samePair sameLevel =>
      exact .inl ((Kept.paid charged).trans (.of_same rfl rfl))
  | leveledUp granted charged evaluable started =>
      exact .inl (((Kept.paid charged).trans (.evaluateLevel _ _ _ _ _ _)).trans
        (.levelStarted started))
  | pairCanceled listed own answered => exact .inl (.of_update rfl rfl)
  | finalizeLost granted => exact .inl (.closePair (.evaluateLevel _ _ _ _ _ _))
  | finalizeUnsigned granted next =>
      have opened := Kept.nextSlotOpened (.closePair (.evaluateLevel _ _ _ _ _ _)) next
      exact .inl (opened.trans (.of_same rfl rfl))
  | finalizeWon granted next =>
      have opened := Kept.nextSlotOpened (.closePair (.evaluateLevel _ _ _ _ _ _)) next
      exact .inl (opened.trans (.of_same rfl rfl))
  | ownersPairsFailed selected => exact .inl (.of_update rfl rfl)
  | keySlotsDeleted deletable selected => exact .inl (.of_update rfl rfl)
  | deposited accepted unhandled found logged credited =>
      exact .inl (.setBreedingPoint (.of_same rfl rfl))
  | withdrawalUnlogged accepted unhandled found debited unlogged =>
      exact .inl (.setBreedingPoint (.refl db))
  | withdrawn accepted unhandled found debited logged =>
      exact .inl ((Kept.setBreedingPoint (.refl db)).trans (.of_same rfl rfl))
  | _ => exact .inl (.of_same rfl rfl)

theorem Kept.find_iff (kept : Kept db after) {address : Address} :
    (∃ user, after.user.find address = some user) ↔
      ∃ user, db.user.find address = some user := by
  rw [← Table.mem_keys_iff, ← Table.mem_keys_iff, kept.users]

theorem find_signedIn (body : LoginDto) :
    ∃ user, (signedIn db body).user.find body.address = some user ∧
      user.signature = body.signature ∧ user.gameKeyId = some body.gameKeyId := by
  unfold signedIn
  rw [Points.find_upsertUser, if_pos rfl]
  exact ⟨_, rfl, rfl, rfl⟩

theorem find_signedIn_iff {body : LoginDto} {address : Address} :
    (∃ user, (signedIn db body).user.find address = some user) ↔
      address = body.address ∨ ∃ user, db.user.find address = some user := by
  unfold signedIn
  rw [Points.find_upsertUser, (Db.sameBut_addSlots _ _ _).user (by decide)]
  split
  · next same => exact ⟨fun _ => .inl same, fun _ => ⟨_, rfl⟩⟩
  · next other => simp [other]

theorem countP_newSlots (user address : Address) (key gameKeyId id : Int) :
    (Serial.numbered BreedSlotCreate.row id
        (LandService.newSlots user (some key) none)).countP
          (LandService.freeLandSlot address gameKeyId) =
      if address = user ∧ gameKeyId = key then 5 else 0 := by
  by_cases own : address = user ∧ gameKeyId = key
  · obtain ⟨rfl, rfl⟩ := own
    simp [LandService.newSlots, Serial.numbered, BreedSlotCreate.row,
      LandService.freeLandSlot]
  · have others : key = gameKeyId → ¬ user = address :=
      fun sameKey sameUser => own ⟨sameUser.symm, sameKey.symm⟩
    rw [if_neg own, List.countP_eq_zero]
    simpa [LandService.newSlots, Serial.numbered, BreedSlotCreate.row,
      LandService.freeLandSlot] using others

theorem freeSlots_signedIn (body : LoginDto) (address : Address)
    (gameKeyId : Int) :
    freeSlots (signedIn db body) address gameKeyId =
      if (address = body.address ∧ gameKeyId = body.gameKeyId) ∧
        freeSlots db address gameKeyId = 0 then 5
      else freeSlots db address gameKeyId := by
  unfold signedIn freeSlots
  rw [(Db.sameBut_upsertUser _ _ _ _).breedSlot (by decide)]
  unfold Db.addSlots
  split
  · next present =>
      rw [if_neg]
      intro own
      obtain ⟨⟨rfl, rfl⟩, none⟩ := own
      omega
  · next absent =>
      rw [Db.rows_createBreedSlots, List.countP_append, countP_newSlots]
      by_cases own : address = body.address ∧ gameKeyId = body.gameKeyId
      · obtain ⟨rfl, rfl⟩ := own
        have none : db.breedSlot.rows.countP (LandService.freeLandSlot
            body.address body.gameKeyId) = 0 := by omega
        rw [if_pos ⟨rfl, rfl⟩, none, if_pos ⟨⟨rfl, rfl⟩, rfl⟩]
      · rw [if_neg own, if_neg fun added => own added.1, Nat.add_zero]

/-- A login with a token was signed by the account of its address. -/
theorem signed_of_login {body : LoginDto} {response : Response}
    (handles : Handles app admitted db ⟨.login body, .ok response⟩ after) :
    ∃ oracle signer, admitted oracle ∧
      oracle.signer body.message body.signature = some signer ∧
      signer.toLower = body.address.toLower := by
  suffices every : (surroundings admitted).Ensures (handle app (.login body))
      (fun result _ => ∀ response, result = .ok response →
        ∃ oracle signer, admitted oracle ∧
          oracle.signer body.message body.signature = some signer ∧
          signer.toLower = body.address.toLower) db from
    every _ _ handles response rfl
  have refused : ∀ error : Failure, ∀ response : Response,
      Except.error error = .ok response → ∃ oracle signer, admitted oracle ∧
        oracle.signer body.message body.signature = some signer ∧
        signer.toLower = body.address.toLower := by
    intro error response same
    cases same
  refine World.reads_throwIf.ensures_bind refused fun _ _ => ?_
  rw [login_eq]
  refine (reads_isValidMessage _ _).ensures_bind refused fun isValid _ => ?_
  split
  · exact World.ensures_throw.mpr (refused _)
  · refine (reads_verifyMessage _ _).ensures_bind refused ?_
    intro signer recovered
    obtain ⟨oracle, allowed, answered⟩ := recovered
    split
    · next same =>
        exact fun _ _ _ _ _ => ⟨oracle, signer, allowed, answered, same⟩
    · exact World.ensures_throw.mpr (refused _)

end Steps

/-- `verifyMessage` recovers addresses that `getAddress` accepts. -/
def Recovers (admitted : Oracle → Prop) (server : Server) : Prop :=
  ∀ oracle, admitted oracle → ∀ message signature signer,
    oracle.signer message signature = some signer →
    ∃ address, server.getAddress signer.toLower = some address

/-- `getAddress` turns any spelling of the address into this one. -/
def Server.Resolves (server : Server) (address : Address) : Prop :=
  server.getAddress address.toLower = some address

theorem Server.Resolves.unique {server : Server} {first second : Address}
    (left : server.Resolves first) (right : server.Resolves second)
    (same : first.toLower = second.toLower) : first = second := by
  unfold Server.Resolves at left
  rw [same] at left
  exact Option.some.inj (left.symm.trans right)

/-- Every address in the tables is spelled the way the middleware spells it. -/
structure Identified (server : Server) (db : Db) : Prop where
  users : ∀ address, (∃ user, db.user.find address = some user) →
    server.Resolves address
  slots : ∀ address gameKeyId, 0 < freeSlots db address gameKeyId →
    server.Resolves address
  batch : ∀ address gameKeyId, freeSlots db address gameKeyId ≤ 5

namespace Identified

variable {server : Server} {app : App} {admitted : Oracle → Prop} {db after : Db}

theorem empty (server : Server) : Identified server .empty := by
  constructor
  · intro address known
    obtain ⟨user, found⟩ := known
    exact absurd (Table.find_eq_some.mp found).1 List.not_mem_nil
  · intro address gameKeyId present
    exact absurd present (Nat.lt_irrefl 0)
  · exact fun _ _ => Nat.zero_le 5

theorem kept (identified : Identified server db) (kept : Kept db after) :
    Identified server after := by
  constructor
  · intro address known
    exact identified.users address (kept.find_iff.mp known)
  · intro address gameKeyId present
    exact identified.slots address gameKeyId
      (Nat.lt_of_lt_of_le present (kept.slots address gameKeyId))
  · intro address gameKeyId
    exact Nat.le_trans (kept.slots address gameKeyId)
      (identified.batch address gameKeyId)

theorem signedIn (identified : Identified server db) {body : LoginDto}
    (resolved : server.Resolves body.address) :
    Identified server (signedIn db body) := by
  constructor
  · intro address known
    rcases find_signedIn_iff.mp known with rfl | earlier
    · exact resolved
    · exact identified.users address earlier
  · intro address gameKeyId present
    rw [freeSlots_signedIn] at present
    split at present
    · next added =>
        rw [added.1.1]
        exact resolved
    · exact identified.slots address gameKeyId present
  · intro address gameKeyId
    rw [freeSlots_signedIn]
    split
    · exact Nat.le_refl 5
    · exact identified.batch address gameKeyId

theorem oneRow (identified : Identified server db) {user other : User}
    (left : user ∈ db.user.rows) (right : other ∈ db.user.rows)
    (same : user.address.toLower = other.address.toLower) : user = other := by
  have resolved : ∀ row ∈ db.user.rows, server.Resolves row.address :=
    fun row member => identified.users _
      ⟨row, Table.find_eq_some.mpr ⟨member, rfl⟩⟩
  exact db.user.eq_of_key_eq left right
    ((resolved user left).unique (resolved other right) same)

theorem oneBatch (identified : Identified server db) (account : Address)
    (gameKeyId : Int) : accountSlots db account gameKeyId ≤ 5 := by
  have resolved : ∀ slot ∈ db.breedSlot.rows,
      LandService.freeLandSlot slot.userAddress gameKeyId slot = true →
        server.Resolves slot.userAddress := by
    intro slot member free
    exact identified.slots _ gameKeyId (List.countP_pos_iff.mpr
      ⟨slot, member, free⟩)
  by_cases present : 0 < accountSlots db account gameKeyId
  · obtain ⟨slot, member, selected⟩ := List.countP_pos_iff.mp present
    rw [Bool.and_eq_true, decide_eq_true_iff] at selected
    apply Nat.le_trans _ (identified.batch slot.userAddress gameKeyId)
    apply List.countP_mono_left
    intro other listed owned
    rw [Bool.and_eq_true, decide_eq_true_iff] at owned
    have same := (resolved other listed owned.2).unique
      (resolved slot member selected.2) (owned.1.trans selected.1.symm)
    rw [← same]
    exact owned.2
  · omega

end Identified

section Runs

variable {server : Server} {app : App} {admitted : Oracle → Prop} {db after : Db}
  {start final : Db} {steps : List (Transition Db Exchange)}

theorem resolves_of_login (recovers : Recovers admitted server) {body : LoginDto}
    {response : Response}
    (handles : Handles app admitted db ⟨.login body, .ok response⟩ after)
    (canonical : server.Canonical body.address) :
    server.Resolves body.address := by
  obtain ⟨oracle, signer, allowed, answered, same⟩ := signed_of_login handles
  obtain ⟨address, accepted⟩ := recovers oracle allowed _ _ signer answered
  rw [same] at accepted
  unfold Server.Canonical Server.checksumAddress at canonical
  rw [accepted, Option.getD_some] at canonical
  unfold Server.Resolves
  rw [accepted, canonical]

theorem identified_of_run (recovers : Recovers admitted server)
    (run : Run app admitted .empty steps final)
    (canonical : ∀ step ∈ steps, ∀ body token, LoggedIn step body token →
      server.Canonical body.address) :
    ∀ db ∈ states .empty steps, Identified server db := by
  apply run.forall_states (Identified.empty server)
  intro step member identified handles
  obtain ⟨source, label, target⟩ := step
  obtain ⟨request, response⟩ := label
  rcases kept_of_outcome (outcome_of_handles handles) with kept | login
  · exact identified.kept kept
  · obtain ⟨body, rfl, rfl, reached⟩ := login
    rw [reached]
    exact identified.signedIn (resolves_of_login recovers handles
      (canonical _ member body _ rfl))

theorem found_of_run (run : Run app admitted start steps final) :
    Everywhere
      (fun earlier step => ∀ login ∈ earlier, ∀ body token,
        LoggedIn login body token →
        ∃ user, step.source.user.find body.address = some user) steps := by
  suffices both : (∀ login ∈ steps, ∀ body token, LoggedIn login body token →
      ∃ user, final.user.find body.address = some user) ∧
      Everywhere
        (fun earlier step => ∀ login ∈ earlier, ∀ body token,
          LoggedIn login body token →
          ∃ user, step.source.user.find body.address = some user) steps from
    both.2
  induction run with
  | nil => exact ⟨fun _ member => absurd member List.not_mem_nil, everywhere_nil⟩
  | @snoc steps current target label earlier handles induction =>
      obtain ⟨known, before⟩ := induction
      constructor
      · intro login member body token granted
        rcases List.mem_append.mp member with old | new
        · have found := known login old body token granted
          rcases kept_of_outcome (outcome_of_handles handles) with kept | signed
          · exact kept.find_iff.mpr found
          · obtain ⟨other, -, -, rfl⟩ := signed
            exact find_signedIn_iff.mpr (.inr found)
        · rw [List.mem_singleton.mp new] at granted
          obtain rfl : label = ⟨.login body, .ok (.token token)⟩ := granted
          rw [(signedIn_of_login handles).2]
          exact find_signedIn_iff.mpr (.inl rfl)
      · exact everywhere_snoc.mpr ⟨before, known⟩

theorem handles_of_loggedIn (run : Run app admitted start steps final)
    {step : Transition Db Exchange} (member : step ∈ steps) {body : LoginDto}
    {token : AccessToken} (login : LoggedIn step body token) :
    Handles app admitted step.source ⟨.login body, .ok (.token token)⟩
      step.target := by
  have handles := (run.source_mem_states member).2.2
  rw [login] at handles
  exact handles

theorem canonical_of_oneIdentity (run : Run app admitted start steps final)
    (identity : OneIdentity server start steps) {step : Transition Db Exchange}
    (member : step ∈ steps) {body : LoginDto} {token : AccessToken}
    (login : LoggedIn step body token) : server.Canonical body.address := by
  have derived := identity.derived step member body token login
  rw [(signedIn_of_login (handles_of_loggedIn run member login)).1] at derived
  exact derived

/-- Accounts keep one identity exactly as long as every address that logs in is
spelled the way the middleware spells it. -/
theorem one_identity_iff (recovers : Recovers admitted server)
    (run : Run app admitted .empty steps final) :
    OneIdentity server .empty steps ↔
      ∀ step ∈ steps, ∀ body token, LoggedIn step body token →
        server.Canonical body.address := by
  constructor
  · intro identity step member body token login
    exact canonical_of_oneIdentity run identity member login
  · intro canonical
    have granted : ∀ step ∈ steps, ∀ body token, LoggedIn step body token →
        Handles app admitted step.source ⟨.login body, .ok (.token token)⟩
          step.target :=
      fun step member body token => handles_of_loggedIn run member
    have identified := identified_of_run recovers run canonical
    have derived : ∀ step ∈ steps, ∀ body token, LoggedIn step body token →
        server.checksumAddress token.address = body.address := by
      intro step member body token login
      rw [(signedIn_of_login (granted step member body token login)).1]
      exact canonical step member body token login
    constructor
    · intro step member body token login
      rw [(signedIn_of_login (granted step member body token login)).2]
      exact find_signedIn body
    · intro first firstMember second secondMember body other token newer login
        later same
      exact (resolves_of_login recovers
          (granted first firstMember body token login)
          (canonical first firstMember body token login)).unique
        (resolves_of_login recovers
          (granted second secondMember other newer later)
          (canonical second secondMember other newer later)) same
    · intro db reached user left other right same
      exact (identified db reached).oneRow left right same
    · intro db reached account gameKeyId
      exact (identified db reached).oneBatch account gameKeyId
    · exact derived
    · intro earlier step later split login member body token signed
      have listed : login ∈ steps := by
        rw [split]
        exact List.mem_append_left _ member
      rw [derived login listed body token signed]
      exact found_of_run run earlier step later split login member body token
        signed
    · intro step member body token login
      have handles := granted step member body token login
      rw [derived step member body token login, (signedIn_of_login handles).1,
        (signedIn_of_login handles).2, freeSlots_signedIn]
      split
      · omega
      · next present =>
          by_contra absent
          exact present ⟨⟨rfl, rfl⟩, by omega⟩

end Runs

section Spellings

/-- The checksummed spelling of an address, and its spelling in lower case. -/
def checksummed : Address := "0x5aAeb6053F3E94C9b9A09f33669435E7Ef1BeAed"

def lowered : Address := "0x5aaeb6053f3e94c9b9a09f33669435e7ef1beaed"

def checksumServer : Server where
  jwtDecodeUser := fun _ => none
  getAddress := fun text => if text = lowered then some checksummed else none

theorem toLower_of_toList {text lower : String}
    (same : text.toList.map Char.toLower = lower.toList) : text.toLower = lower := by
  apply String.toList_inj.mp
  change (text.map Char.toLower).toList = _
  rw [String.toList_map, same]

theorem toLower_checksummed : checksummed.toLower = lowered := by
  apply toLower_of_toList
  decide +kernel

theorem toLower_lowered : lowered.toLower = lowered := by
  apply toLower_of_toList
  decide +kernel

theorem getAddress_lowered :
    checksumServer.getAddress lowered = some checksummed := by
  change (if lowered = lowered then some checksummed else none) = _
  exact if_pos rfl

theorem canonical_checksummed : checksumServer.Canonical checksummed := by
  unfold Server.Canonical Server.checksumAddress
  rw [toLower_checksummed, getAddress_lowered, Option.getD_some]

theorem not_canonical_lowered : ¬ checksumServer.Canonical lowered := by
  unfold Server.Canonical Server.checksumAddress
  rw [toLower_lowered, getAddress_lowered, Option.getD_some]
  decide +kernel

def spellingOracle : Oracle :=
  .agreeable checksummed (period 0)

theorem recovers_checksumServer : Recovers (Eq spellingOracle) checksumServer := by
  intro oracle allowed message signature signer answered
  subst allowed
  obtain rfl : checksummed = signer := Option.some.inj answered
  refine ⟨checksummed, ?_⟩
  rw [toLower_checksummed]
  exact getAddress_lowered

/-- Two logins of the account, with one request in between. -/
def checksummedScript : List (Request × Oracle) :=
  [(.login (loginFrom checksummed), spellingOracle),
    (.purchaseLand ⟨checksummed, 7⟩, spellingOracle),
    (.login (loginFrom checksummed), spellingOracle)]

theorem run_spellings (script : List (Request × Oracle))
    (answered : ∀ entry ∈ script, spellingOracle = entry.2) :
    Run (liveApp .goerli) (Eq spellingOracle) .empty
      (serve (liveApp .goerli) script .empty).1
      (serve (liveApp .goerli) script .empty).2 :=
  run_serve answered .nil

theorem one_identity_checksummed :
    OneIdentity checksumServer .empty
      (serve (liveApp .goerli) checksummedScript .empty).1 := by
  apply (one_identity_iff recovers_checksumServer
    (run_spellings checksummedScript (by simp [checksummedScript]))).mpr
  intro step member body token login
  obtain ⟨entry, listed, same⟩ := request_of_serve member
  rw [login] at same
  have spelled : body = loginFrom checksummed := by
    simp only [checksummedScript, List.mem_cons, List.not_mem_nil, or_false]
      at listed
    rcases listed with rfl | rfl | rfl
    · cases same
      rfl
    · cases same
    · cases same
      rfl
  rw [spelled]
  exact canonical_checksummed

def loginStep (address : Address) : Transition Db Exchange where
  source := .empty
  label := ⟨.login (loginFrom address), (loginWith (liveApp .goerli)
    (fun _ => spellingOracle) .empty (loginFrom address)).1⟩
  target := (loginWith (liveApp .goerli) (fun _ => spellingOracle) .empty
    (loginFrom address)).2

theorem run_loginStep (address : Address) :
    Run (liveApp .goerli) (Eq spellingOracle) .empty [loginStep address]
      (loginStep address).target :=
  .snoc .nil (handles_run (liveApp .goerli) rfl (.login (loginFrom address)) .empty)

theorem loggedIn_loginStep {address : Address}
    (valid : (loginFrom address).valid = true)
    (same : checksummed.toLower = address.toLower) :
    ∃ token, LoggedIn (loginStep address) (loginFrom address) token := by
  obtain ⟨token, granted⟩ := @login_granted (liveApp .goerli)
    (fun _ => spellingOracle) .empty (loginFrom address) valid
    (genuine_loginFrom same) rfl
  refine ⟨token, ?_⟩
  unfold LoggedIn loginStep
  rw [granted]

/-- The client sends the address of its wallet in lower case. -/
theorem lowered_login_splits :
    Run (liveApp .goerli) (Eq spellingOracle) .empty [loginStep lowered]
        (loginStep lowered).target ∧
      ¬ OneIdentity checksumServer .empty [loginStep lowered] := by
  have run := run_loginStep lowered
  refine ⟨run, fun identity => ?_⟩
  obtain ⟨token, login⟩ := loggedIn_loginStep (by decide +kernel)
    (toLower_checksummed.trans toLower_lowered.symm)
  exact not_canonical_lowered (canonical_of_oneIdentity run identity
    (List.mem_singleton_self _) login)

end Spellings

end BudBreeding.Access
