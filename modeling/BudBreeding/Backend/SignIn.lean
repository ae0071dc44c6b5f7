import BudBreeding.Backend.Outcomes

namespace BudBreeding.Backend

open Data Program

/-! What `login` checks before it returns a token. -/

/-- The last thirteen characters of a login message. -/
def timestampOf (message : String) : String :=
  String.ofList (message.toList.drop (message.toList.length - 13))

/-- What `isValidMessage` accepts when the clock shows `now`. -/
structure MessageAccepted (now : Time) (gameKeyId : Int) (message : String) :
    Prop where
  recent : ∃ value, UserService.bigNumberFrom (timestampOf message) = some value ∧
    now - UserService.timestampBuffer < value ∧
      value < now + UserService.timestampBuffer
  unmodified :
    UserService.getLoginMessage gameKeyId (timestampOf message) = message

/-- The message is accepted, and it was signed by the account that logs in.  The
oracles answer the queries of the request in their order. -/
structure Genuine (oracles : Nat → Oracle) (body : LoginDto) : Prop where
  accepted : MessageAccepted (oracles 0).now body.gameKeyId body.message
  signed : ∃ signer,
    (oracles 1).signer body.message body.signature = some signer ∧
      signer.toLower = body.address.toLower

def loginWith (app : App) (oracles : Nat → Oracle) (db : Db) (body : LoginDto) :
    Except Failure Response × Db :=
  (surroundings fun _ => True).run oracles (handle app (.login body)) db

section Evaluation

variable {app : App} {oracles : Nat → Oracle} {db : Db} {body : LoginDto}
  {σ : Type} {world : World Query.Answer Oracle σ} {state : σ}

theorem run_ask {β : Type} (query : Query) (rest : query.Answer → Handler β) :
    world.run oracles (ask query >>= rest) state =
      world.run (fun index => oracles (index + 1))
        (rest (world.exec (oracles 0) query state).1)
        (world.exec (oracles 0) query state).2 := rfl

/-- `isValidMessage` reads the clock once; what follows sees the later oracles. -/
theorem run_isValidMessage {β : Type} (gameKeyId : Int) (message : String)
    (rest : Bool → Handler β) :
    world.run oracles (UserService.isValidMessage gameKeyId message >>= rest)
        state =
      match UserService.bigNumberFrom (timestampOf message) with
      | none =>
          (.error .invalidArgument, (world.exec (oracles 0) .dateNow state).2)
      | some value =>
          world.run (fun index => oracles (index + 1))
            (rest (decide
              ((world.exec (oracles 0) .dateNow state).1 -
                  UserService.timestampBuffer < value ∧
                value < (world.exec (oracles 0) .dateNow state).1 +
                  UserService.timestampBuffer ∧
                UserService.getLoginMessage gameKeyId (timestampOf message) =
                  message)))
            (world.exec (oracles 0) .dateNow state).2 := by
  unfold UserService.isValidMessage timestampOf
  rw [Prog.bind_assoc, dateNow, run_ask]
  generalize (world.exec (oracles 0) .dateNow state).1 = now
  dsimp only
  cases UserService.bigNumberFrom (String.ofList
      (message.toList.drop (message.toList.length - 13))) with
  | none => rfl
  | some value =>
      simp only
      by_cases recent : now - UserService.timestampBuffer < value ∧
          value < now + UserService.timestampBuffer
      · rw [if_pos recent]
        simp only [recent, true_and]
        rfl
      · rw [if_neg recent, decide_eq_false]
        · rfl
        · exact fun accepted => recent ⟨accepted.1, accepted.2.1⟩

theorem run_verifyMessage {β : Type} (message signature : String)
    (rest : Address → Handler β) :
    world.run oracles (verifyMessage message signature >>= rest) state =
      match (world.exec (oracles 0) (.verifyMessage message signature) state).1 with
      | none => (.error .invalidArgument,
          (world.exec (oracles 0) (.verifyMessage message signature) state).2)
      | some signer =>
          world.run (fun index => oracles (index + 1)) (rest signer)
            (world.exec (oracles 0) (.verifyMessage message signature) state).2 := by
  unfold verifyMessage
  rw [Prog.bind_assoc, run_ask]
  cases (world.exec (oracles 0) (.verifyMessage message signature) state).1 with
  | none => rfl
  | some signer => rfl

/-- `login` from the creation of the free slots on. -/
def signIn (body : LoginDto) : Handler Response := do
  (LandService.createFreeLandSlots body.address body.gameKeyId).tryCatch
    fun _ => .throw (BreedingError "Error during open up free slots")
  let user ← Prisma.userUpsert body.address body.signature body.gameKeyId
  return .token ⟨user.address, body.gameKeyId⟩

/-- Signing in fails, and changes nothing, just when the game key is out of the range
of its column. -/
theorem ensures_signIn {admitted : Oracle → Prop} :
    (surroundings admitted).Ensures (signIn body)
      (fun result after =>
        fitsIntColumn body.gameKeyId = true ∧
            (∃ token, result = .ok (.token token)) ∨
          fitsIntColumn body.gameKeyId = false ∧ (∃ error, result = .error error) ∧
            after = db) db := by
  unfold signIn
  rw [World.ensures_bind, World.ensures_tryCatch]
  refine ensures_createFreeLandSlots ?_ fun fits => ensures_userUpsert ?_ ?_
  · intro outside
    exact World.ensures_throw.mpr (.inr ⟨outside, ⟨_, rfl⟩, rfl⟩)
  · intro outside
    exact absurd (outside.symm.trans fits) Bool.false_ne_true
  · intro user _
    exact World.ensures_pure.mpr (.inl ⟨fits, _, rfl⟩)

theorem signIn_cases :
    fitsIntColumn body.gameKeyId = true ∧
        (∃ token, ((surroundings fun _ => True).run oracles (signIn body) db).1 =
          .ok (.token token)) ∨
      fitsIntColumn body.gameKeyId = false ∧
        (∃ error, ((surroundings fun _ => True).run oracles (signIn body) db).1 =
          .error error) ∧
        ((surroundings fun _ => True).run oracles (signIn body) db).2 = db :=
  ensures_signIn _ _ (World.runs_run (fun _ _ => trivial) (signIn body) db)

theorem run_signIn (fits : fitsIntColumn body.gameKeyId = true) :
    ∃ token, ((surroundings fun _ => True).run oracles (signIn body) db).1 =
      .ok (.token token) := by
  rcases signIn_cases with granted | refused
  · exact granted.2
  · exact absurd (refused.1.symm.trans fits) Bool.false_ne_true

theorem run_signIn_outside (outside : fitsIntColumn body.gameKeyId = false) :
    ∃ error, (surroundings fun _ => True).run oracles (signIn body) db =
      (.error error, db) := by
  rcases signIn_cases with granted | refused
  · exact absurd (outside.symm.trans granted.1) Bool.false_ne_true
  · obtain ⟨-, ⟨error, failed⟩, same⟩ := refused
    exact ⟨error, Prod.ext failed same⟩

theorem login_eq :
    (Response.token <$> UserController.login app body : Handler Response) =
      UserService.isValidMessage body.gameKeyId body.message >>= fun isValid =>
        if isValid = false then
          .throw (BadRequestError "Invalid message and/or timestamp.")
        else
          verifyMessage body.message body.signature >>= fun derivedAddress =>
            if derivedAddress.toLower = body.address.toLower then
              signIn body
            else
              .throw (BadRequestError "Signature and Address do not match.") := by
  change UserController.login app body >>= (fun token => .pure (Response.token token)) = _
  rw [UserController.login, Prog.bind_assoc]
  apply bind_congr
  intro isValid
  cases isValid with
  | false => rfl
  | true =>
      change (verifyMessage body.message body.signature >>= _) >>= _ = _
      rw [Prog.bind_assoc]
      apply bind_congr
      intro derivedAddress
      split
      · rw [Prog.bind_assoc]
        exact bind_congr fun _ => Prog.bind_assoc _ _ _
      · rfl

theorem handle_login (valid : body.valid = true) :
    handle app (.login body) = .token <$> UserController.login app body := by
  change validated body.valid _ = _
  rw [valid]
  rfl

/-- A genuine login comes down to signing in, whatever else the world keeps. -/
theorem run_login {now : Time} {signer : Address} (valid : body.valid = true)
    (accepted : MessageAccepted now body.gameKeyId body.message)
    (read : (world.exec (oracles 0) .dateNow state).1 = now)
    (recovered : (world.exec (oracles 1)
      (.verifyMessage body.message body.signature)
      (world.exec (oracles 0) .dateNow state).2).1 = some signer)
    (same : signer.toLower = body.address.toLower) :
    world.run oracles (handle app (.login body)) state =
      world.run (fun index => oracles (index + 1 + 1)) (signIn body)
        (world.exec (oracles 1) (.verifyMessage body.message body.signature)
          (world.exec (oracles 0) .dateNow state).2).2 := by
  obtain ⟨⟨value, parsed, after, before⟩, unmodified⟩ := accepted
  rw [handle_login valid, login_eq, run_isValidMessage, parsed]
  simp only
  rw [read, decide_eq_true ⟨after, before, unmodified⟩,
    if_neg Bool.false_ne_true.symm, run_verifyMessage, recovered]
  simp only
  rw [if_pos same]

theorem loginWith_eq :
    loginWith app oracles db body =
      if body.valid = false then (.error .validation, db)
      else (surroundings fun _ => True).run oracles
        (.token <$> UserController.login app body) db := by
  change World.run _ _ (validated body.valid _) _ = _
  unfold validated Prog.throwIf
  split <;> rfl

theorem login_granted (valid : body.valid = true) (genuine : Genuine oracles body)
    (fits : fitsIntColumn body.gameKeyId = true) :
    ∃ token, (loginWith app oracles db body).1 = .ok (.token token) := by
  obtain ⟨accepted, signer, recovered, same⟩ := genuine
  unfold loginWith
  rw [run_login valid accepted rfl recovered same]
  exact run_signIn fits

theorem login_outside (outside : fitsIntColumn body.gameKeyId = false)
    (valid : body.valid = true) (genuine : Genuine oracles body) :
    ∃ error, loginWith app oracles db body = (.error error, db) := by
  obtain ⟨accepted, signer, recovered, same⟩ := genuine
  unfold loginWith
  rw [run_login valid accepted rfl recovered same]
  exact run_signIn_outside outside

theorem login_refused (other : ¬ (body.valid = true ∧ Genuine oracles body)) :
    ∃ error, loginWith app oracles db body = (.error error, db) := by
  rw [loginWith_eq]
  split
  · exact ⟨_, rfl⟩
  next accepted =>
  rw [login_eq, run_isValidMessage]
  cases parsed : UserService.bigNumberFrom (timestampOf body.message) with
  | none => exact ⟨_, rfl⟩
  | some value =>
      simp only
      split
      · exact ⟨_, rfl⟩
      next checked =>
      rw [run_verifyMessage]
      simp only [surroundings_exec, exec]
      cases recovered : (oracles (0 + 1)).signer body.message body.signature with
      | none => exact ⟨_, rfl⟩
      | some signer =>
          simp only
          split
          · next same =>
              obtain ⟨after, before, unmodified⟩ :=
                of_decide_eq_true (Bool.eq_true_of_not_eq_false checked)
              exact absurd ⟨Bool.eq_true_of_not_eq_false accepted,
                ⟨⟨value, parsed, after, before⟩, unmodified⟩, signer, recovered,
                same⟩ other
          · exact ⟨_, rfl⟩

end Evaluation

section Messages

theorem timestampOf_getLoginMessage (gameKeyId : Int) {timestamp : String}
    (thirteen : timestamp.toList.length = 13) :
    timestampOf (UserService.getLoginMessage gameKeyId timestamp) = timestamp := by
  unfold timestampOf UserService.getLoginMessage
  rw [String.toList_append, List.length_append, thirteen, Nat.add_sub_cancel,
    List.drop_left, String.ofList_toList]

theorem messageAccepted_getLoginMessage (gameKeyId : Int) {timestamp : String}
    {value : Int} (thirteen : timestamp.toList.length = 13)
    (parsed : UserService.bigNumberFrom timestamp = some value) :
    MessageAccepted value gameKeyId
      (UserService.getLoginMessage gameKeyId timestamp) := by
  have suffix := timestampOf_getLoginMessage gameKeyId thirteen
  constructor
  · rw [suffix]
    refine ⟨value, parsed, ?_, ?_⟩
    · change value - 300000 < value
      omega
    · change value < value + 300000
      omega
  · rw [suffix]

end Messages

def signedIn (db : Db) (body : LoginDto) : Db :=
  (db.addSlots (LandService.freeLandSlot body.address body.gameKeyId)
    (LandService.newSlots body.address (some body.gameKeyId)
      none)).upsertUser body.address body.signature body.gameKeyId

theorem signedIn_of_login {app : App} {admitted : Oracle → Prop} {db after : Db}
    {body : LoginDto} {token : AccessToken}
    (handles : Handles app admitted db ⟨.login body, .ok (.token token)⟩ after) :
    token = ⟨body.address, body.gameKeyId⟩ ∧ after = signedIn db body := by
  cases outcome_of_handles handles with
  | loggedIn => exact ⟨rfl, rfl⟩

end BudBreeding.Backend
