import Mathlib.Data.List.Dedup
import BudBreeding.Backend.SignIn
import BudBreeding.Program.Possible

namespace BudBreeding.Backend

open Data Program

/-! Runs of the server that handles one request after the other. -/

abbrev Run (app : App) (admitted : Oracle → Prop) (start : Db)
    (steps : List (Transition Db Exchange)) (final : Db) : Prop :=
  History (Handles app admitted) start steps final

/-- Handling a list of requests, each with an oracle that answers all its
queries. -/
def serve (app : App) :
    List (Request × Oracle) → Db → List (Transition Db Exchange) × Db
  | [], db => ([], db)
  | (request, oracle) :: rest, db =>
      let handled := (surroundings fun _ => True).run (fun _ => oracle)
        (handle app request) db
      let served := serve app rest handled.2
      (⟨db, ⟨request, handled.1⟩, handled.2⟩ :: served.1, served.2)

/-- Which oracles are admitted does not matter for what one of them answers. -/
theorem run_surroundings {α : Type} (admitted among : Oracle → Prop)
    (oracles : Nat → Oracle) (program : Handler α) (db : Db) :
    (surroundings admitted).run oracles program db =
      (surroundings among).run oracles program db := by
  induction program generalizing oracles db with
  | pure value => rfl
  | throw error => rfl
  | ask query next induction => exact induction _ _ _

theorem handles_run (app : App) {admitted : Oracle → Prop} {oracle : Oracle}
    (allowed : admitted oracle) (request : Request) (db : Db) :
    Handles app admitted db
      ⟨request, ((surroundings fun _ => True).run (fun _ => oracle)
        (handle app request) db).1⟩
      ((surroundings fun _ => True).run (fun _ => oracle)
        (handle app request) db).2 := by
  rw [run_surroundings _ admitted]
  exact World.runs_run (fun _ _ => allowed) _ _

section Possible

variable {admitted : Oracle → Prop} {oracle : Oracle} {α β : Type}
  {program : Handler α} {rest : α → Handler β} {db : Db}

/-- What every run against one admitted oracle ensures may happen. -/
theorem may_of_ensures {post : Except Failure α → Db → Prop} (allowed : admitted oracle)
    (every : (surroundings (Eq oracle)).Ensures program post db) :
    (surroundings admitted).May program post db := by
  refine ⟨_, _, World.runs_run (fun _ _ => allowed) program db, ?_⟩
  rw [run_surroundings admitted (Eq oracle)]
  exact every _ _ (World.runs_run (fun _ _ => rfl) program db)

theorem may_bind_of_ensures {facts : α → Db → Prop}
    {post : Except Failure β → Db → Prop} (allowed : admitted oracle)
    (every : (surroundings (Eq oracle)).Ensures program
      (fun result after => ∃ value, result = .ok value ∧ facts value after) db)
    (continued : ∀ value after, facts value after →
      (surroundings admitted).May (rest value) post after) :
    (surroundings admitted).May (program >>= rest) post db := by
  apply World.May.bind
  apply may_of_ensures allowed
  refine every.mono ?_
  intro result after reached
  obtain ⟨value, rfl, holds⟩ := reached
  exact continued value after holds

theorem returns_may_bind {facts : α → Prop} {post : Except Failure β → Db → Prop}
    (allowed : admitted oracle)
    (returns : (surroundings (Eq oracle)).Returns program facts db)
    (continued : ∀ value, facts value →
      (surroundings admitted).May (rest value) post db) :
    (surroundings admitted).May (program >>= rest) post db := by
  have every : (surroundings (Eq oracle)).Ensures program
      (fun result after =>
        ∃ value, result = .ok value ∧ facts value ∧ after = db) db := by
    refine World.Ensures.mono returns ?_
    intro result after returned
    obtain ⟨rfl, value, answered, holds⟩ := returned
    exact ⟨value, answered, holds, rfl⟩
  refine may_bind_of_ensures allowed every ?_
  intro value after reached
  obtain ⟨holds, rfl⟩ := reached
  exact continued value holds

end Possible

theorem loginWith_granted {app : App} {oracle : Oracle} {db : Db}
    {body : LoginDto} (valid : body.valid = true)
    (genuine : Genuine (fun _ => oracle) body)
    (fits : fitsIntColumn body.gameKeyId = true) :
    loginWith app (fun _ => oracle) db body =
      (.ok (.token ⟨body.address, body.gameKeyId⟩), signedIn db body) := by
  obtain ⟨token, granted⟩ := @login_granted app (fun _ => oracle) db body valid
    genuine fits
  have handles : Handles app (fun _ => True) db
      ⟨.login body, (loginWith app (fun _ => oracle) db body).1⟩
      (loginWith app (fun _ => oracle) db body).2 :=
    handles_run app trivial (.login body) db
  rw [granted] at handles
  obtain ⟨same, reached⟩ := signedIn_of_login handles
  apply Prod.ext
  · rw [granted, same]
  · exact reached

theorem handles_login {app : App} {admitted : Oracle → Prop} {oracle : Oracle}
    {body : LoginDto} (allowed : admitted oracle) (valid : body.valid = true)
    (genuine : Genuine (fun _ => oracle) body)
    (fits : fitsIntColumn body.gameKeyId = true) (db : Db) :
    Handles app admitted db
      ⟨.login body, .ok (.token ⟨body.address, body.gameKeyId⟩)⟩ (signedIn db body) := by
  have handled := handles_run app allowed (.login body) db
  have granted : (surroundings fun _ => True).run (fun _ => oracle)
      (handle app (.login body)) db =
        (.ok (.token ⟨body.address, body.gameKeyId⟩), signedIn db body) :=
    loginWith_granted valid genuine fits
  rw [granted] at handled
  exact handled

theorem ensured_of_run {app : App} {oracle : Oracle} {request : Request}
    {db : Db} {post : Except Failure Response → Db → Prop}
    (every : (surroundings (Eq oracle)).Ensures (handle app request) post db) :
    post
      ((surroundings fun _ => True).run (fun _ => oracle)
        (handle app request) db).1
      ((surroundings fun _ => True).run (fun _ => oracle)
        (handle app request) db).2 :=
  every _ _ (handles_run app rfl request db)

def oddMale (id : Int) : BudGender :=
  if id % 2 = 1 then .M else .F

/-- An oracle in whose answers `account` owns everything, every signature
verifies, and the dice always shows the smallest number. -/
def Oracle.agreeable (account : Address) (now : Time) : Oracle where
  now := now
  random := ⟨0, le_refl 0, zero_lt_one⟩
  budOwner := fun _ => some account
  gameKeyOwner := fun _ => some account
  gameItemBalance := fun _ _ => some 1
  metadata := fun ids => some (ids.dedup.map fun id =>
    { name := "Bud", image := "", thc := 1, budSize := 1, gender := oddMale id,
      shine := .Yes, color := .Light, id := id, revealed := true })
  signature := fun request => some (toString request.timestamp)
  signer := fun _ _ => some account
  validBudName := fun _ => some true
  order := fun _ => Equiv.refl _

theorem run_serve {app : App} {admitted : Oracle → Prop}
    {script : List (Request × Oracle)}
    (allowed : ∀ entry ∈ script, admitted entry.2) {start db : Db}
    {steps : List (Transition Db Exchange)}
    (earlier : Run app admitted start steps db) :
    Run app admitted start (steps ++ (serve app script db).1)
      (serve app script db).2 := by
  induction script generalizing db steps with
  | nil => simpa [serve] using earlier
  | cons entry rest induction =>
      obtain ⟨request, oracle⟩ := entry
      have step := handles_run app
        (allowed (request, oracle) List.mem_cons_self) request db
      have extended := induction
        (fun entry member => allowed entry (List.mem_cons_of_mem _ member))
        (earlier.snoc step)
      simpa [serve] using extended

theorem run_of_serve (app : App) (script : List (Request × Oracle))
    (start : Db) :
    Run app (fun _ => True) start (serve app script start).1
      (serve app script start).2 :=
  run_serve (fun _ _ => trivial) .nil

theorem request_of_serve {app : App} {script : List (Request × Oracle)}
    {start : Db} {step : Transition Db Exchange}
    (member : step ∈ (serve app script start).1) :
    ∃ entry ∈ script, entry.1 = step.label.request := by
  induction script generalizing start with
  | nil => exact absurd member List.not_mem_nil
  | cons entry rest induction =>
      rcases List.mem_cons.mp member with rfl | later
      · exact ⟨entry, List.mem_cons_self, rfl⟩
      · obtain ⟨other, present, same⟩ := induction later
        exact ⟨other, List.mem_cons_of_mem _ present, same⟩

def alice : Req := ⟨"alice", 7⟩

/-- The end of the `count`-th breeding period after the login of `alice`. -/
def period (count : Int) : Time :=
  1650000000000 + count * 10000

def loginFrom (address : Address) : LoginDto where
  message := UserService.getLoginMessage 7 "1650000000000"
  address := address
  gameKeyId := 7
  signature := "signed"

theorem genuine_loginFrom {address signer : Address}
    (same : signer.toLower = address.toLower) :
    Genuine (fun _ => .agreeable signer (period 0)) (loginFrom address) := by
  have parsed : UserService.bigNumberFrom "1650000000000" = some (period 0) := by
    decide +kernel
  constructor
  · exact messageAccepted_getLoginMessage 7 (by decide +kernel) parsed
  · exact ⟨signer, rfl, same⟩

theorem serve_login (app : App) {address signer : Address}
    (valid : (loginFrom address).valid = true)
    (same : signer.toLower = address.toLower)
    (rest : List (Request × Oracle)) (db : Db) :
    serve app ((.login (loginFrom address), .agreeable signer (period 0)) :: rest)
        db =
      (⟨db, ⟨.login (loginFrom address), .ok (.token ⟨address, 7⟩)⟩,
          signedIn db (loginFrom address)⟩ ::
        (serve app rest (signedIn db (loginFrom address))).1,
        (serve app rest (signedIn db (loginFrom address))).2) := by
  change (Transition.mk db ⟨.login (loginFrom address), (loginWith app
      (fun _ => .agreeable signer (period 0)) db (loginFrom address)).1⟩
      (loginWith app (fun _ => .agreeable signer (period 0)) db
        (loginFrom address)).2 ::
    (serve app rest (loginWith app (fun _ => .agreeable signer (period 0)) db
      (loginFrom address)).2).1,
    (serve app rest (loginWith app (fun _ => .agreeable signer (period 0)) db
      (loginFrom address)).2).2) = _
  rw [loginWith_granted valid (genuine_loginFrom same) rfl]
  rfl

/-- `alice` logs in, receives breeding points and breeds a pair up to the target
level of `appConfig .goerli`. -/
def breedingScript : List (Request × Oracle) :=
  [(.login ⟨UserService.getLoginMessage 7 "1650000000000", "alice", 7, "signed"⟩,
      .agreeable "alice" (period 0)),
    (.addBreedingPoint ⟨⟨"alice", "deposit", 1, "goerli"⟩, 100000⟩,
      .agreeable "alice" (period 0)),
    (.createPair alice ⟨1, 2, 1, none, none⟩, .agreeable "alice" (period 0)),
    (.levelBreedingUp alice ⟨1, 1, 2⟩, .agreeable "alice" (period 1)),
    (.levelBreedingUp alice ⟨1, 5, 6⟩, .agreeable "alice" (period 2)),
    (.levelBreedingUp alice ⟨1, 9, 10⟩, .agreeable "alice" (period 3)),
    (.levelBreedingUp alice ⟨1, 13, 14⟩, .agreeable "alice" (period 4))]

def breedingAfter (count : Nat) : Db :=
  (serve (liveApp .goerli) (breedingScript.take count) .empty).2

theorem agreeable_breedingScript :
    ∀ entry ∈ breedingScript, ∃ now, entry.2 = .agreeable "alice" now := by
  intro entry member
  simp only [breedingScript, List.mem_cons, List.not_mem_nil, or_false] at member
  rcases member with rfl | rfl | rfl | rfl | rfl | rfl | rfl
  all_goals exact ⟨_, rfl⟩

theorem run_breedingAfter {admitted : Oracle → Prop}
    (allowed : ∀ now, admitted (.agreeable "alice" now)) (count : Nat) :
    Run (liveApp .goerli) admitted .empty
      (serve (liveApp .goerli) (breedingScript.take count) .empty).1
      (breedingAfter count) := by
  unfold breedingAfter
  apply run_serve ?_ .nil
  intro entry member
  obtain ⟨now, same⟩ := agreeable_breedingScript entry (List.mem_of_mem_take member)
  rw [same]
  exact allowed now

def signedUp : Db :=
  signedIn .empty (loginFrom "alice")

def loginStep : Transition Db Exchange where
  source := .empty
  label := ⟨.login (loginFrom "alice"), .ok (.token ⟨"alice", 7⟩)⟩
  target := signedUp

theorem run_loginStep {admitted : Oracle → Prop}
    (allowed : admitted (.agreeable "alice" (period 0))) :
    Run (liveApp .goerli) admitted .empty [loginStep] signedUp := by
  exact History.nil.snoc (handles_login allowed (by decide +kernel)
    (genuine_loginFrom rfl) rfl .empty)

theorem serve_breedingScript (more : List (Request × Oracle)) :
    serve (liveApp .goerli) (breedingScript ++ more) .empty =
      (loginStep ::
        (serve (liveApp .goerli) (breedingScript.tail ++ more) signedUp).1,
        (serve (liveApp .goerli) (breedingScript.tail ++ more) signedUp).2) :=
  serve_login (liveApp .goerli) (by decide +kernel) rfl
    (breedingScript.tail ++ more) .empty

theorem breedingAfter_succ (count : Nat) :
    breedingAfter (count + 1) =
      (serve (liveApp .goerli) (breedingScript.tail.take count) signedUp).2 := by
  change (serve (liveApp .goerli) ((.login (loginFrom "alice"),
    .agreeable "alice" (period 0)) :: breedingScript.tail.take count) .empty).2 = _
  rw [serve_login (liveApp .goerli) (by decide +kernel) rfl]
  rfl

end BudBreeding.Backend
