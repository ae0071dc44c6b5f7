import Mathlib.Data.List.Induction
import BudBreeding.Backend.Interleavings
import BudBreeding.Points.Book

namespace BudBreeding.Points

open Data Program Backend

/-! Balance updates of requests that are handled at the same time. -/

/-- By how much a request changes the balance it updates, and the user row it
has read last. -/
structure BalanceStage where
  change : Rat
  read : Option User

namespace BalanceStage

def protocol : Protocol Query.Answer BalanceStage where
  advance
    | stage, .userFindUnique _, some user => { stage with read := some user }
    | stage, _, _ => stage
  legal
    | stage, .userUpdate address value, _ =>
        ∃ user, stage.read = some user ∧ user.address = address ∧
          value = user.breedingPoint + stage.change
    | _, _, _ => True

end BalanceStage

open BalanceStage

/-- What the update step of a request is meant to add to the balance. -/
def changeOf (app : App) : Request → Rat
  | .addBreedingPoint body => body.amount / 100
  | .withdrawBreedingPoint body => -(body.amount / 100)
  | .levelBreedingUp _ _ => -app.config.breedingPointPerLevel
  | .openSlot _ _ => -app.config.breedingPointToOpenSlot
  | .convertIndoor _ _ => -app.config.breedingPointToCovertIndoor
  | .purchaseLand _ => -app.config.landPrice
  | _ => 0

def updatesBalance : Request → Bool
  | .addBreedingPoint _ => true
  | .withdrawBreedingPoint _ => true
  | .levelBreedingUp _ _ => true
  | .openSlot _ _ => true
  | .convertIndoor _ _ => true
  | .purchaseLand _ => true
  | _ => false

section Handlers

variable {admitted : Oracle → Prop} {stage : BalanceStage} {β : Type}
  {finish : BalanceStage → Except Failure β → Prop}

theorem ignores_elsewhere {query : Query}
    (elsewhere : query.resource ≠ .table .user) : protocol.Ignores query := by
  intro stage answer
  cases query with
  | userFindUnique address => exact absurd rfl elsewhere
  | userUpdate address value => exact absurd rfl elsewhere
  | userUpsert address signature gameKeyId => exact absurd rfl elsewhere
  | _ => exact ⟨trivial, rfl⟩

theorem ignores_within {resources : List Resource}
    (apart : .table .user ∉ resources) {query : Query}
    (within : query.Within resources) : protocol.Ignores query :=
  ignores_elsewhere fun same => apart (same ▸ within)

theorem follows_userFindUnique {address : Address}
    {rest : Option User → Handler β}
    (missing : protocol.Follows (surroundings admitted) finish stage (rest none))
    (found : ∀ user : User, user.address = address →
      protocol.Follows (surroundings admitted) finish
        { stage with read := some user } (rest (some user))) :
    protocol.Follows (surroundings admitted) finish stage
      (Prisma.userFindUnique address >>= rest) := by
  rw [Prisma.userFindUnique, Protocol.follows_call_bind]
  intro answer given
  obtain ⟨db, oracle, -, rfl⟩ := given
  refine ⟨trivial, ?_⟩
  simp only [surroundings_exec, exec]
  cases present : db.user.find address with
  | none => exact missing
  | some user => exact found user (Table.find_eq_some.mp present).2

theorem follows_userUpdate {user : User} {value : Rat}
    {rest : User → Handler β} (read : stage.read = some user)
    (computed : value = user.breedingPoint + stage.change)
    (refused : ∀ error, finish stage (.error error))
    (continued : ∀ row,
      protocol.Follows (surroundings admitted) finish stage (rest row)) :
    protocol.Follows (surroundings admitted) finish stage
      (Prisma.userUpdate user.address value >>= rest) := by
  rw [Protocol.follows_bind, Prisma.userUpdate, Protocol.follows_call_bind]
  intro answer _
  refine ⟨⟨user, read, rfl, computed⟩, ?_⟩
  cases answer with
  | ok row => exact continued row
  | error error => exact refused _

theorem follows_consumeBreedingPoint {address : Address} {amount : Int}
    {rest : User → Handler β} (charged : stage.change = -amount)
    (refused : ∀ stage error, finish stage (.error error))
    (continued : ∀ stage row,
      protocol.Follows (surroundings admitted) finish stage (rest row)) :
    protocol.Follows (surroundings admitted) finish stage
      (UserService.consumeBreedingPoint address amount >>= rest) := by
  rw [Protocol.follows_bind]
  apply follows_userFindUnique
  · exact refused _ _
  · rintro user rfl
    apply Protocol.follows_throwIf_bind
    · exact fun _ => refused _ _
    · intro _
      rw [← Protocol.follows_bind]
      apply follows_userUpdate rfl _ (refused _) (continued _)
      rw [charged]
      exact sub_eq_add_neg _ _

private theorem uses_elsewhere {α : Type} {program : Handler α}
    {resources : List Resource} (uses : program.Uses (Query.Within resources))
    (apart : .table .user ∉ resources) : program.Uses protocol.Ignores :=
  uses.mono fun _ => ignores_within apart

private theorem uses_ask_elsewhere {query : Query}
    (elsewhere : query.resource ≠ .table .user) :
    (ask query).Uses protocol.Ignores :=
  (Prog.uses_call _).mpr (ignores_elsewhere elsewhere)

private theorem uses_settled_elsewhere {α : Type}
    {program : Handler (Except PrismaError α)}
    (uses : program.Uses protocol.Ignores) :
    (program >>= settle).Uses protocol.Ignores :=
  Prog.uses_bind uses uses_settle

/-- `openSlot` and `convertIndoor` charge the user before they change a slot. -/
private theorem follows_charged_slot {change : Rat} {amount slotId : Int}
    {user : Address} {filter : BreedSlot → Bool} {data : BreedSlotUpdate}
    {blocked : BreedSlot → Prop} [DecidablePred blocked]
    {missing refused : Failure} (charged : change = -amount) :
    protocol.Follows (surroundings admitted) (fun _ _ => True) ⟨change, none⟩
      (do
        let slot ← Prisma.breedSlotFindFirst filter
        match slot with
        | none => .throw missing
        | some slot => do
            Prog.throwIf (blocked slot) refused
            let _ ← UserService.consumeBreedingPoint user amount
            Prisma.breedSlotUpdate slotId data) := by
  apply Protocol.follows_skip (uses_ask_elsewhere (by simp [Query.resource]))
    fun _ => trivial
  intro slot
  cases slot with
  | none => exact trivial
  | some slot =>
      apply Protocol.follows_throwIf_bind (fun _ => trivial)
      intro _
      apply follows_consumeBreedingPoint charged fun _ _ => trivial
      intro stage row
      apply Protocol.follows_of_ignored _ fun _ => trivial
      exact uses_settled_elsewhere
        (uses_ask_elsewhere (by simp [Query.resource]))

theorem follows_openSlot (app : App) (req : Req) (body : OpenSlotDto) :
    protocol.Follows (surroundings admitted) (fun _ _ => True)
      ⟨changeOf app (.openSlot req body), none⟩
      (LandController.openSlot app req body) :=
  follows_charged_slot rfl

theorem follows_convertIndoor (app : App) (req : Req) (body : OpenSlotDto) :
    protocol.Follows (surroundings admitted) (fun _ _ => True)
      ⟨changeOf app (.convertIndoor req body), none⟩
      (LandController.convertIndoor app req body) :=
  follows_charged_slot rfl

theorem follows_purchaseLand (app : App) (req : Req) :
    protocol.Follows (surroundings admitted) (fun _ _ => True)
      ⟨changeOf app (.purchaseLand req), none⟩
      (LandController.purchaseLand app req) := by
  apply Protocol.follows_skip (uses_ask_elsewhere (by simp [Query.resource]))
    fun _ => trivial
  intro now
  apply follows_consumeBreedingPoint rfl fun _ _ => trivial
  intro stage row
  apply Protocol.follows_skip
    (uses_elsewhere (uses_createNewLandSlots _ _) (by simp)) fun _ => trivial
  intro _
  apply Protocol.follows_skip (uses_ask_elsewhere (by simp [Query.resource]))
    fun _ => trivial
  intro lands
  apply follows_userFindUnique
  · exact trivial
  · exact fun _ _ => trivial

theorem follows_levelBreedingUp (app : App) (req : Req) (body : BreedUpDto) :
    protocol.Follows (surroundings admitted) (fun _ _ => True)
      ⟨changeOf app (.levelBreedingUp req body), none⟩
      (BreedController.levelBreedingUp app req body) := by
  apply Protocol.follows_skip (uses_ask_elsewhere (by simp [Query.resource]))
    fun _ => trivial
  intro pair
  cases pair with
  | none => exact trivial
  | some pair =>
      apply Protocol.follows_throwIf_bind (fun _ => trivial)
      intro _
      apply Protocol.follows_skip
        (uses_elsewhere (uses_verifyGameItemPossession _) (by simp))
        fun _ => trivial
      intro _
      apply Protocol.follows_skip
        (uses_elsewhere (uses_verifyBudPairs _ _ _ _) (by simp))
        fun _ => trivial
      intro _
      apply follows_consumeBreedingPoint rfl fun _ _ => trivial
      intro stage row
      apply Protocol.follows_skip
        (uses_elsewhere (uses_evaluateBreedLevel _ _ _ _) (by simp))
        fun _ => trivial
      intro evaluation
      apply Protocol.follows_skip _ fun _ => trivial
      · exact fun _ => trivial
      · apply uses_startBreedLevel
        · exact fun query within => ignores_within (by simp) within
        · exact fun id value => ignores_elsewhere (by simp [Query.resource])

theorem follows_addBreedingPoint (app : App) (body : BreedingPointDto) :
    protocol.Follows (surroundings admitted) (fun _ _ => True)
      ⟨changeOf app (.addBreedingPoint body), none⟩
      (AdminController.addBreedingPoint app body) := by
  apply Protocol.follows_skip (uses_validateTransaction
    (fun _ => ignores_elsewhere (by simp [Query.resource])) _ _ _ _)
    fun _ => trivial
  intro _
  apply follows_userFindUnique
  · exact trivial
  · intro user same
    rw [Protocol.follows_tryCatch, ← same]
    apply Protocol.follows_skip (uses_settled_elsewhere
      (uses_ask_elsewhere (by simp [Query.resource]))) fun _ => trivial
    intro _
    apply follows_userUpdate rfl rfl (fun _ => trivial)
    exact fun _ => trivial

theorem follows_withdrawBreedingPoint (app : App) (body : BreedingPointDto) :
    protocol.Follows (surroundings admitted) (fun _ _ => True)
      ⟨changeOf app (.withdrawBreedingPoint body), none⟩
      (AdminController.withdrawBreedingPoint app body) := by
  apply Protocol.follows_skip (uses_validateTransaction
    (fun _ => ignores_elsewhere (by simp [Query.resource])) _ _ _ _)
    fun _ => trivial
  intro _
  apply follows_userFindUnique
  · exact trivial
  · intro user same
    rw [Protocol.follows_tryCatch, ← same]
    apply follows_userUpdate rfl (sub_eq_add_neg _ _) (fun _ => trivial)
    intro row
    apply Protocol.follows_skip (uses_settled_elsewhere
      (uses_ask_elsewhere (by simp [Query.resource]))) fun _ => trivial
    exact fun _ => trivial

/-- Every request that updates a balance adds its change to what it has read. -/
theorem follows_handle (app : App) {request : Request}
    (updates : updatesBalance request = true) :
    protocol.Follows (surroundings admitted) (fun _ _ => True)
      ⟨changeOf app request, none⟩ (handle app request) := by
  cases request with
  | addBreedingPoint body =>
      exact follows_validated trivial fun _ => Protocol.follows_map.mpr
        (follows_addBreedingPoint app body)
  | withdrawBreedingPoint body =>
      exact follows_validated trivial fun _ => Protocol.follows_map.mpr
        (follows_withdrawBreedingPoint app body)
  | levelBreedingUp req body =>
      exact Protocol.follows_map.mpr (follows_levelBreedingUp app req body)
  | openSlot req body =>
      exact Protocol.follows_map.mpr (follows_openSlot app req body)
  | convertIndoor req body =>
      exact Protocol.follows_map.mpr (follows_convertIndoor app req body)
  | purchaseLand req =>
      exact Protocol.follows_map.mpr (follows_purchaseLand app req)
  | _ => cases updates

end Handlers

def updatedBy : (query : Query) → query.Answer → Option Address
  | .userUpdate address _, .ok _ => some address
  | _, _ => none

theorem balance_exec (oracle : Oracle) (query : Query) {db : Db}
    {address : Address} {balance : Int} (held : book db address = some balance) :
    (∃ value column, query = .userUpdate address value ∧
      toIntColumn value = some column ∧
      updatedBy query (exec oracle query db).1 = some address ∧
      book (exec oracle query db).2 address = some column) ∨
    updatedBy query (exec oracle query db).1 ≠ some address ∧
      book (exec oracle query db).2 address = some balance := by
  cases query with
  | userUpdate other value =>
      simp only [exec]
      cases accepted : toIntColumn value with
      | none => exact .inr ⟨(Option.some_ne_none address).symm, held⟩
      | some column =>
          cases found : db.user.find other with
          | none =>
              refine .inr ⟨(Option.some_ne_none address).symm, ?_⟩
              simp only [Db.setBreedingPoint_of_missing found]
              exact held
          | some user =>
              simp only [book_setBreedingPoint found, Book.post]
              by_cases same : address = other
              · subst same
                obtain ⟨row, present, equal⟩ := book_eq_some.mp held
                obtain rfl := Option.some.inj (found.symm.trans present)
                refine .inl ⟨value, column, rfl, accepted, rfl, ?_⟩
                rw [Function.update_self, held, Option.map_some, ← equal]
                congr 1
                omega
              · refine .inr ⟨?_, ?_⟩
                · exact fun written => same (Option.some.inj written).symm
                · rw [Function.update_of_ne same]
                  exact held
  | userUpsert other signature gameKeyId =>
      refine .inr ⟨(Option.some_ne_none address).symm, ?_⟩
      simp only [exec]
      split
      · rw [book_find_upsertUser]
        split
        · next same => rw [← same, held]; rfl
        · exact held
      · exact held
  | _ =>
      refine .inr ⟨(Option.some_ne_none address).symm, ?_⟩
      rw [book_congr ((exec_sameBut oracle _ db).user (by simp [Query.written]))]
      exact held

section Interleavings

variable {ι : Type}

def updated (step : ServerStep ι) : Option Address :=
  updatedBy step.label.query step.label.answer

/-- The sum of the changes whose update steps were executed on `address`. -/
def movement (app : App) (requests : ι → Request) (address : Address)
    (steps : List (ServerStep ι)) : Rat :=
  (steps.map fun step =>
    if updated step = some address then changeOf app (requests step.label.thread)
    else 0).sum

/-- The balance of `address` is what it was, plus every change executed on it. -/
def Accounted (app : App) (requests : ι → Request) (address : Address)
    (initial : Int) (steps : List (ServerStep ι)) (server : Server ι) : Prop :=
  (book server.store address).map (fun balance : Int => (balance : Rat)) =
    some (initial + movement app requests address steps)

instance (app : App) (requests : ι → Request) (address : Address)
    (initial : Int) (steps : List (ServerStep ι)) (server : Server ι) :
    Decidable (Accounted app requests address initial steps server) :=
  inferInstanceAs (Decidable (_ = _))

variable {app : App} {requests : ι → Request} {address : Address}
  {initial : Int} {steps : List (ServerStep ι)} {server : Server ι}

theorem accounted_iff {balance : Int}
    (held : book server.store address = some balance) :
    Accounted app requests address initial steps server ↔
      (balance : Rat) = initial + movement app requests address steps := by
  rw [Accounted, held, Option.map_some, Option.some.injEq]

theorem movement_snoc (step : ServerStep ι) :
    movement app requests address (steps ++ [step]) =
      movement app requests address steps +
        if updated step = some address then
          changeOf app (requests step.label.thread)
        else 0 := by
  simp [movement]

variable [DecidableEq ι]

def progress (app : App) (requests : ι → Request)
    (steps : List (ServerStep ι)) : ι → BalanceStage :=
  protocol.stages (fun thread => ⟨changeOf app (requests thread), none⟩) steps

/-- A step that updates the balance of `address` finds the balance that its
request has read. -/
def Fresh (app : App) (requests : ι → Request) (address : Address)
    (steps : List (ServerStep ι)) (step : ServerStep ι) : Prop :=
  updated step = some address →
    (progress app requests steps step.label.thread).read.map
      User.breedingPoint = book step.source.store address

theorem change_progress (steps : List (ServerStep ι)) (thread : ι) :
    (progress app requests steps thread).change =
      changeOf app (requests thread) := by
  have kept (stage : BalanceStage) (query : Query) (answer : query.Answer) :
      (protocol.advance stage query answer).change = stage.change := by
    cases query with
    | userFindUnique address => cases answer <;> rfl
    | _ => rfl
  unfold progress
  induction steps using List.reverseRecOn with
  | nil => rfl
  | append_singleton steps step induction =>
      rw [Protocol.stages_snoc]
      by_cases same : thread = step.label.thread
      · subst same
        rw [Function.update_self, kept, induction]
      · rw [Function.update_of_ne same, induction]

/-- The account stays right exactly when the update writes onto the balance its
request has read. -/
theorem accounted_snoc {admitted : Oracle → Prop} {thread : ι} {query : Query}
    {next : query.Answer → Handler Response} {oracle : Oracle}
    (before : Accounted app requests address initial steps server)
    (legal : protocol.legal (progress app requests steps thread) query
      (exec oracle query server.store).1) :
    Accounted app requests address initial
        (steps ++ [server.transition (surroundings admitted) oracle thread query
          next])
        (server.transition (surroundings admitted) oracle thread query
          next).target ↔
      Fresh app requests address steps
        (server.transition (surroundings admitted) oracle thread query
          next) := by
  generalize made : server.transition (surroundings admitted) oracle thread
    query next = step
  have byThread : step.label.thread = thread := by rw [← made]; rfl
  have from_server : step.source = server := by rw [← made]; rfl
  have stored : step.target.store = (exec oracle query server.store).2 := by
    rw [← made]
    rfl
  have written : updated step = updatedBy query (exec oracle query server.store).1 := by
    rw [← made]
    rfl
  obtain ⟨balance, held, value⟩ := Option.map_eq_some_iff.mp before
  rcases balance_exec oracle query held with
    ⟨computed, column, asked, accepted, wrote, after⟩ | ⟨elsewhere, after⟩
  · subst asked
    obtain ⟨user, read, -, sum⟩ := legal
    rw [change_progress] at sum
    have total := toIntColumn_eq_some accepted
    rw [accounted_iff (stored ▸ after), movement_snoc, written, if_pos wrote,
      byThread, Fresh, byThread, read, from_server, held]
    constructor
    · intro law _
      have same : (user.breedingPoint : Rat) = balance := by linarith
      exact congrArg some (Int.cast_injective same)
    · intro fresh
      have same : user.breedingPoint = balance :=
        Option.some.inj (fresh (written.trans wrote))
      have cast : (user.breedingPoint : Rat) = balance := by rw [same]
      linarith
  · rw [accounted_iff (stored ▸ after), movement_snoc, written,
      if_neg elsewhere, add_zero, Fresh, written]
    exact ⟨fun _ wrote => absurd wrote elsewhere, fun _ => value⟩

/-- Along an interleaving no balance update is lost if and only if every update
writes onto the balance its request has read. -/
theorem accounted_iff_fresh {admitted : Oracle → Prop} {db : Db}
    {final : Server ι}
    (updates : ∀ thread, updatesBalance (requests thread) = true)
    (held : book db address = some initial)
    (history : Interleaving app admitted requests db steps final) :
    Everywhere (fun earlier step => Accounted app requests address initial
        (earlier ++ [step]) step.target) steps ↔
      Everywhere (Fresh app requests address) steps := by
  have start : Accounted app requests address initial []
      (serving app requests db) := by
    rw [accounted_iff held]
    exact (add_zero _).symm
  suffices both : (Everywhere (fun earlier step => Accounted app requests
        address initial (earlier ++ [step]) step.target) steps ↔
          Everywhere (Fresh app requests address) steps) ∧
      (Everywhere (fun earlier step => Accounted app requests address initial
        (earlier ++ [step]) step.target) steps →
          Accounted app requests address initial steps final) from both.1
  apply Protocol.induct history
    (fun thread => follows_handle app (updates thread)) (everywhere_true steps)
  · exact ⟨by simp, fun _ => start⟩
  · intro steps current thread query next oracle _ before _ legal _
    obtain ⟨same, law⟩ := before
    rw [everywhere_snoc, everywhere_snoc, ← same]
    refine ⟨?_, And.right⟩
    apply and_congr_right
    intro earlier
    exact accounted_snoc (law earlier) legal

end Interleavings

/-- A deposit of one point while a slot is opened for 42. -/
def rivalUpdates : Bool → Request
  | true => .openSlot alice ⟨2⟩
  | false => .addBreedingPoint ⟨⟨"alice", "second", 1, "goerli"⟩, 100⟩

/-- Both balances are read before either is written. -/
def lostSchedule : List (Bool × Oracle) :=
  [true, true, false, false, true, true, false, false].map
    fun thread => (thread, .agreeable "alice" (period 0))

theorem deposit_overwrites_charge :
    Interleaving (liveApp .goerli) (fun _ => True) rivalUpdates
        (breedingAfter 2)
        (interleave (liveApp .goerli) rivalUpdates lostSchedule
          (breedingAfter 2)).1
        (interleave (liveApp .goerli) rivalUpdates lostSchedule
          (breedingAfter 2)).2 ∧
      book (breedingAfter 2) "alice" = some 1000 ∧
      ¬ Accounted (liveApp .goerli) rivalUpdates "alice" 1000
        (interleave (liveApp .goerli) rivalUpdates lostSchedule
          (breedingAfter 2)).1
        (interleave (liveApp .goerli) rivalUpdates lostSchedule
          (breedingAfter 2)).2 := by
  refine ⟨interleaving_of_schedule _ _ _ _, ?_, ?_⟩
  · rw [breedingAfter_succ 1]
    decide +kernel
  · rw [breedingAfter_succ 1]
    decide +kernel

theorem accounted_iff_fresh_rivals :
    Everywhere (fun earlier step => Accounted (liveApp .goerli) rivalUpdates
        "alice" 1000 (earlier ++ [step]) step.target)
        (interleave (liveApp .goerli) rivalUpdates lostSchedule
          (breedingAfter 2)).1 ↔
      Everywhere (Fresh (liveApp .goerli) rivalUpdates "alice")
        (interleave (liveApp .goerli) rivalUpdates lostSchedule
          (breedingAfter 2)).1 := by
  apply accounted_iff_fresh (by decide) _ (interleaving_of_schedule _ _ _ _)
  rw [breedingAfter_succ 1]
  decide +kernel

end BudBreeding.Points
