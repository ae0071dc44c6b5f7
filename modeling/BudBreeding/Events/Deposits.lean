import Mathlib.Data.Set.Subsingleton
import BudBreeding.Backend.Interleavings
import BudBreeding.Events.Journal

namespace BudBreeding.Events

open Data Program Backend

/-! Deposits handled concurrently: the unique log row is inserted before the
balance is updated. -/

inductive DepositStage where
  | other
  | waiting (txHash : String)
  | logged (txHash : String)

namespace DepositStage

def start : Request → DepositStage
  | .addBreedingPoint body => .waiting body.txHash
  | _ => .other

def protocol : Protocol Query.Answer DepositStage where
  advance
    | .waiting txHash, .eventServiceLogCreate _, .ok _ => .logged txHash
    | stage, _, _ => stage
  legal
    | .waiting _, .userUpdate _ _, _ => False
    | .waiting txHash, .eventServiceLogCreate data, _ => data.txHash = txHash
    | _, _, _ => True

def finish : DepositStage → Except Failure Response → Prop
  | .waiting _, .ok (.success true) => False
  | _, _ => True

end DepositStage

open DepositStage

theorem ignores_log_count (filter : EventServiceLog → Bool) :
    protocol.Ignores (.eventServiceLogCount filter) := by
  intro stage answer
  cases stage <;> exact ⟨trivial, rfl⟩

theorem ignores_userFindUnique (address : Address) :
    protocol.Ignores (.userFindUnique address) := by
  intro stage answer
  cases stage <;> exact ⟨trivial, rfl⟩

variable {admitted : Oracle → Prop}

theorem follows_unless_waiting {α : Type} {stage : DepositStage}
    (free : ∀ txHash, stage ≠ .waiting txHash)
    {ends : DepositStage → Except Failure α → Prop}
    (ended : ∀ result, ends stage result) (program : Handler α) :
    protocol.Follows (surroundings admitted) ends stage program := by
  induction program with
  | pure value => exact ended _
  | throw error => exact ended _
  | ask query next induction =>
      intro answer _
      cases stage with
      | waiting txHash => exact absurd rfl (free txHash)
      | other => exact ⟨trivial, induction answer⟩
      | logged txHash => exact ⟨trivial, induction answer⟩

theorem follows_addBreedingPoint (app : App) (body : BreedingPointDto) :
    protocol.Follows (surroundings admitted) finish (.waiting body.txHash)
      (.success <$> AdminController.addBreedingPoint app body) := by
  rw [Protocol.follows_map]
  apply Protocol.follows_skip
    (uses_validateTransaction ignores_log_count _ _ _ _) (fun _ => trivial)
  intro _
  apply Protocol.follows_skip
    ((Prog.uses_call _).mpr (ignores_userFindUnique _)) (fun _ => trivial)
  intro user
  cases user with
  | none => exact trivial
  | some user =>
      rw [Protocol.follows_tryCatch, Protocol.follows_bind,
        Prisma.eventServiceLogCreate, Protocol.follows_call_bind]
      intro answer _
      refine ⟨rfl, ?_⟩
      cases answer with
      | error error => exact trivial
      | ok created =>
          apply follows_unless_waiting (by simp [protocol])
          intro result
          cases result with
          | error error => exact trivial
          | ok value =>
              apply follows_unless_waiting (by simp [protocol])
              intro result
              cases result <;> exact trivial

theorem follows_handle (app : App) (request : Request) :
    protocol.Follows (surroundings admitted) finish (start request)
      (handle app request) := by
  cases request with
  | addBreedingPoint body =>
      exact follows_validated trivial fun _ => follows_addBreedingPoint app body
  | _ => exact follows_unless_waiting (by simp [start]) (fun _ => trivial) _

/-- A stage is only logged by inserting the first log row of its hash. -/
theorem logged_of_advance {oracle : Oracle} {query : Query} {db : Db}
    {stage : DepositStage} {txHash : String}
    (legal : protocol.legal stage query (exec oracle query db).1)
    (advanced : protocol.advance stage query (exec oracle query db).1 =
      .logged txHash) :
    stage = .logged txHash ∨
      stage = .waiting txHash ∧ (∀ type, ¬ Logged (txHash, type) db) ∧
        ∃ type, Logged (txHash, type) (exec oracle query db).2 := by
  cases stage with
  | other => cases advanced
  | logged other => exact .inl advanced
  | waiting other =>
      cases query with
      | eventServiceLogCreate data =>
          obtain rfl : data.txHash = other := legal
          simp only [exec] at advanced ⊢
          split at advanced
          · cases advanced
          · split at advanced
            · cases advanced
            · next block _ free =>
                cases advanced
                rw [if_neg free]
                refine .inr ⟨rfl, ?_, data.type, logged_create.mpr (.inr rfl)⟩
                intro type given
                obtain ⟨log, member, same⟩ := given
                exact free ⟨log, member, (Prod.mk.inj same).1⟩
      | _ => cases advanced

theorem advance_waiting {query : Query} {answer : query.Answer}
    {txHash : String} :
    protocol.advance (.waiting txHash) query answer = .waiting txHash ∨
      protocol.advance (.waiting txHash) query answer = .logged txHash := by
  cases query with
  | eventServiceLogCreate data =>
      cases answer with
      | error error => exact .inl rfl
      | ok created => exact .inr rfl
  | _ => exact .inl rfl

section Interleavings

variable {ι : Type} [DecidableEq ι]

def Deposits (request : Request) (txHash : String) : Prop :=
  ∃ body, request = .addBreedingPoint body ∧ body.txHash = txHash

/-- The request of the thread executed its balance update. -/
def Credited (steps : List (ServerStep ι)) (thread : ι) : Prop :=
  ∃ step ∈ steps, step.label.thread = thread ∧
    ∃ address value, step.label.query = .userUpdate address value

def reached (requests : ι → Request) (steps : List (ServerStep ι)) :
    ι → DepositStage :=
  protocol.stages (fun thread => start (requests thread)) steps

structure DepositsLogged (requests : ι → Request)
    (steps : List (ServerStep ι)) (server : Server ι) : Prop where
  staged : ∀ thread txHash, Deposits (requests thread) txHash →
    reached requests steps thread = .waiting txHash ∨
      reached requests steps thread = .logged txHash
  credited : ∀ thread txHash, Deposits (requests thread) txHash →
    Credited steps thread → reached requests steps thread = .logged txHash
  recorded : ∀ thread txHash, reached requests steps thread = .logged txHash →
    ∃ type, Logged (txHash, type) server.store
  unique : ∀ first second txHash,
    reached requests steps first = .logged txHash →
    reached requests steps second = .logged txHash → first = second

variable {app : App} {requests : ι → Request} {db : Db} {final : Server ι}
  {steps : List (ServerStep ι)}

theorem depositsLogged_start :
    DepositsLogged requests [] (serving app requests db) := by
  have unlogged : ∀ thread txHash,
      reached requests [] thread ≠ .logged txHash := by
    intro thread txHash
    simp only [reached, Protocol.stages_nil]
    cases requests thread <;> simp [start]
  constructor
  · intro thread txHash given
    obtain ⟨body, same, rfl⟩ := given
    simp [reached, same, start]
  · intro thread txHash _ given
    obtain ⟨step, member, _⟩ := given
    exact absurd member List.not_mem_nil
  · intro thread txHash logged
    exact absurd logged (unlogged thread txHash)
  · intro first second txHash logged
    exact absurd logged (unlogged first txHash)

theorem reached_snoc (step : ServerStep ι) :
    reached requests (steps ++ [step]) =
      Function.update (reached requests steps) step.label.thread
        (protocol.advance (reached requests steps step.label.thread)
          step.label.query step.label.answer) :=
  Protocol.stages_snoc step

theorem reached_other {step : ServerStep ι} {thread : ι}
    (other : thread ≠ step.label.thread) :
    reached requests (steps ++ [step]) thread = reached requests steps thread := by
  rw [reached_snoc, Function.update_of_ne other]

theorem reached_logged {step : ServerStep ι} {thread : ι} {txHash : String}
    (logged : reached requests steps thread = .logged txHash) :
    reached requests (steps ++ [step]) thread = .logged txHash := by
  by_cases same : thread = step.label.thread
  · subst same
    rw [reached_snoc, Function.update_self, logged]
    rfl
  · rw [reached_other same, logged]

/-- One call of one request keeps the invariant. -/
theorem DepositsLogged.snoc {current : Server ι} {thread : ι} {query : Query}
    {next : query.Answer → Handler Response} {oracle : Oracle}
    (before : DepositsLogged requests steps current)
    (legal : protocol.legal (reached requests steps thread) query
      (exec oracle query current.store).1) :
    DepositsLogged requests
      (steps ++ [current.transition (surroundings admitted) oracle thread query
        next])
      (current.transition (surroundings admitted) oracle thread query
        next).target := by
  generalize made : current.transition (surroundings admitted) oracle thread
    query next = step
  have byThread : step.label.thread = thread := by rw [← made]; rfl
  have stored : step.target.store = (exec oracle query current.store).2 := by
    rw [← made]
    rfl
  have moved : reached requests (steps ++ [step]) thread =
      protocol.advance (reached requests steps thread) query
        (exec oracle query current.store).1 := by
    rw [reached_snoc, ← made]
    exact Function.update_self _ _ _
  have fresh : ∀ txHash,
      reached requests (steps ++ [step]) thread = .logged txHash →
      reached requests steps thread = .logged txHash ∨
        (∀ type, ¬ Logged (txHash, type) current.store) ∧
          ∃ type, Logged (txHash, type) step.target.store := by
    intro txHash logged
    rw [moved] at logged
    rw [stored]
    exact (logged_of_advance legal logged).imp_right And.right
  have elsewhere : ∀ other, other ≠ thread →
      reached requests (steps ++ [step]) other = reached requests steps other :=
    fun other different => reached_other (byThread ▸ different)
  constructor
  · intro other txHash deposits
    rcases before.staged other txHash deposits with waiting | logged
    · by_cases same : other = thread
      · subst same
        rw [moved, waiting]
        exact advance_waiting
      · rw [elsewhere other same]
        exact .inl waiting
    · exact .inr (reached_logged logged)
  · intro other txHash deposits given
    obtain ⟨credit, member, rfl, address, value, updates⟩ := given
    apply reached_logged
    rcases List.mem_append.mp member with old | new
    · exact before.credited _ txHash deposits
        ⟨credit, old, rfl, address, value, updates⟩
    · obtain rfl := List.mem_singleton.mp new
      rw [byThread] at deposits ⊢
      rcases before.staged thread txHash deposits with waiting | logged
      · rw [← made] at updates
        obtain rfl : query = .userUpdate address value := updates
        rw [waiting] at legal
        exact legal.elim
      · exact logged
  · intro other txHash logged
    have kept (was : reached requests steps other = .logged txHash) :
        ∃ type, Logged (txHash, type) step.target.store := by
      obtain ⟨type, present⟩ := before.recorded other txHash was
      rw [stored]
      exact ⟨type, logged_exec oracle query present⟩
    by_cases same : other = thread
    · subst same
      rcases fresh txHash logged with was | ⟨-, recorded⟩
      · exact kept was
      · exact recorded
    · rw [elsewhere other same] at logged
      exact kept logged
  · -- A second request cannot insert the hash of a log row that is there.
    have beside : ∀ other txHash, other ≠ thread →
        reached requests (steps ++ [step]) thread = .logged txHash →
        reached requests steps other = .logged txHash → other = thread := by
      intro other txHash different logged was
      rcases fresh txHash logged with already | ⟨absent, -⟩
      · exact before.unique other thread txHash was already
      · obtain ⟨type, present⟩ := before.recorded other txHash was
        exact absurd present (absent type)
    intro first second txHash logged loggedToo
    by_cases atFirst : first = thread
    · by_cases atSecond : second = thread
      · rw [atFirst, atSecond]
      · rw [elsewhere second atSecond] at loggedToo
        rw [atFirst] at logged ⊢
        exact (beside second txHash atSecond logged loggedToo).symm
    · rw [elsewhere first atFirst] at logged
      by_cases atSecond : second = thread
      · rw [atSecond] at loggedToo ⊢
        exact beside first txHash atFirst loggedToo logged
      · rw [elsewhere second atSecond] at loggedToo
        exact before.unique first second txHash logged loggedToo

theorem depositsLogged_of_interleaving
    (history : Interleaving app admitted requests db steps final) :
    DepositsLogged requests steps final := by
  apply Protocol.induct history
    (fun thread => follows_handle app (requests thread))
    (everywhere_true steps) depositsLogged_start
  intro steps current thread query next oracle _ before _ legal _
  exact before.snoc legal

/-- Every deposit is credited by at most one request, and at most one request
answers that it was. -/
theorem deposits_credited_once
    (history : Interleaving app admitted requests db steps final)
    (txHash : String) :
    {thread | Deposits (requests thread) txHash ∧
        Credited steps thread}.Subsingleton ∧
      {thread | Deposits (requests thread) txHash ∧
        final.threads thread = .pure (.success true)}.Subsingleton := by
  have invariant := depositsLogged_of_interleaving history
  constructor
  · rintro first ⟨deposits, credited⟩ second ⟨depositsToo, creditedToo⟩
    exact invariant.unique first second txHash
      (invariant.credited first txHash deposits credited)
      (invariant.credited second txHash depositsToo creditedToo)
  · have logged : ∀ thread, Deposits (requests thread) txHash →
        final.threads thread = .pure (.success true) →
        reached requests steps thread = .logged txHash := by
      intro thread deposits succeeded
      have follows := Protocol.follows_of_history history
        (fun thread => follows_handle app (requests thread)) thread
      rw [succeeded] at follows
      rcases invariant.staged thread txHash deposits with waiting | logged
      · unfold reached at waiting
        rw [waiting] at follows
        exact follows.elim
      · exact logged
    rintro first ⟨deposits, succeeded⟩ second ⟨depositsToo, succeededToo⟩
    exact invariant.unique first second txHash
      (logged first deposits succeeded) (logged second depositsToo succeededToo)

end Interleavings

/-- Two deposits of one transaction that both pass the duplicate check. -/
def rivalDeposits : Bool → Request :=
  fun _ => .addBreedingPoint ⟨⟨"alice", "deposit", 1, "goerli"⟩, 100⟩

def rivalSchedule : List (Bool × Oracle) :=
  [true, false, true, false, true, false, true, false].map
    fun thread => (thread, .agreeable "alice" (period 0))

theorem deposits_credited_once_rivals :
    {thread | Deposits (rivalDeposits thread) "deposit" ∧
        Credited (interleave (liveApp .goerli) rivalDeposits rivalSchedule
          (breedingAfter 1)).1 thread}.Subsingleton ∧
      {thread | Deposits (rivalDeposits thread) "deposit" ∧
        (interleave (liveApp .goerli) rivalDeposits rivalSchedule
          (breedingAfter 1)).2.threads thread =
            .pure (.success true)}.Subsingleton :=
  deposits_credited_once (interleaving_of_schedule _ _ _ _) "deposit"

end BudBreeding.Events
