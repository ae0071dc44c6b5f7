import BudBreeding.Backend.Runs
import BudBreeding.Possession.Commitments

namespace BudBreeding.Possession

open Data Program Backend

/-! The contracts of the buds and the game items, which the application asks but
does not control. -/

structure Chain where
  budOwner : Int → Address
  gameItemBalance : Address → Int → Nat

/-- Both buds of the pair belong to its user. -/
def Chain.Owns (chain : Chain) (pair : BreedPair) : Prop :=
  chain.budOwner pair.maleBudId = pair.userAddress ∧
    chain.budOwner pair.femaleBudId = pair.userAddress

def itemCount (db : Db) (user : Address) (gameItemId : Int) : Nat :=
  db.breedPair.rows.countP (BreedService.pairsUsingItem user gameItemId)

def Chain.Backs (chain : Chain) (db : Db) (pair : BreedPair) : Prop :=
  ∀ gameItemId, pair.gameItemId = some gameItemId → gameItemId ≠ 0 →
    itemCount db pair.userAddress gameItemId ≤
      chain.gameItemBalance pair.userAddress gameItemId

/-- The user of the pair has what the pair is bred from. -/
structure Chain.Possesses (chain : Chain) (db : Db) (pair : BreedPair) : Prop where
  owns : chain.Owns pair
  backs : chain.Backs db pair

/-- A call of the contract returns what is on chain, unless it fails. -/
def OwnersReported (budOwner : Int → Address) (oracle : Oracle) : Prop :=
  ∀ budId address, oracle.budOwner budId = some address →
    budOwner budId = address

structure Chain.Reported (chain : Chain) (oracle : Oracle) : Prop where
  owners : OwnersReported chain.budOwner oracle
  balance : ∀ user gameItemId amount,
    oracle.gameItemBalance user gameItemId = some amount →
      chain.gameItemBalance user gameItemId = amount

theorem owner_of_ownsBuds {admitted : Oracle → Prop} {budOwner : Int → Address}
    {address : Address} {maleBudId femaleBudId : Int}
    (reported : ∀ oracle, admitted oracle → OwnersReported budOwner oracle)
    (owns : OwnsBuds admitted address maleBudId femaleBudId) :
    budOwner maleBudId = address ∧ budOwner femaleBudId = address := by
  obtain ⟨oracle, allowed, male, female⟩ := owns
  have asked := reported oracle allowed
  exact ⟨asked _ _ male, asked _ _ female⟩

theorem Chain.backs_of_holdsItem {chain : Chain} {db : Db} {pair : BreedPair}
    (holds : HoldsItem chain.Reported db pair) : chain.Backs db pair := by
  intro gameItemId used nonzero
  obtain ⟨oracle, balance, reported, answered, -, enough⟩ :=
    holds gameItemId used nonzero
  rw [reported.balance _ _ _ answered]
  exact enough

/-- A request, and the chain while it is handled. -/
structure Visit where
  chain : Chain
  exchange : Exchange

/-- A run in which the chain changes at will between the requests. -/
abbrev ChainRun (app : App) (start : Db) (steps : List (Transition Db Visit))
    (final : Db) : Prop :=
  History (fun db visit after =>
    Handles app visit.chain.Reported db visit.exchange after) start steps final

theorem ChainRun.visit {app : App} {chain : Chain} {start db after : Db}
    {steps : List (Transition Db Visit)} {exchange : Exchange}
    (earlier : ChainRun app start steps db)
    (handled : Handles app chain.Reported db exchange after) :
    ChainRun app start (steps ++ [⟨db, ⟨chain, exchange⟩, after⟩]) after :=
  History.snoc earlier handled

def Chain.visited (chain : Chain) (step : Transition Db Exchange) :
    Transition Db Visit where
  source := step.source
  label := ⟨chain, step.label⟩
  target := step.target

theorem chainRun_of_run {app : App} {chain : Chain} {start final : Db}
    {steps : List (Transition Db Exchange)}
    (run : Run app chain.Reported start steps final) :
    ChainRun app start (steps.map chain.visited) final := by
  induction run with
  | nil => exact .nil
  | @snoc steps current target exchange earlier handled induction =>
      rw [List.map_append]
      exact ChainRun.visit induction handled

/-- The given oracle, except that no call of a contract fails. -/
def Chain.oracle (chain : Chain) (oracle : Oracle) : Oracle where
  now := oracle.now
  random := oracle.random
  budOwner := fun budId => some (chain.budOwner budId)
  gameKeyOwner := oracle.gameKeyOwner
  gameItemBalance := fun user gameItemId =>
    some (chain.gameItemBalance user gameItemId)
  metadata := oracle.metadata
  signature := oracle.signature
  signer := oracle.signer
  validBudName := oracle.validBudName
  order := oracle.order

theorem Chain.reported_oracle (chain : Chain) (oracle : Oracle) :
    chain.Reported (chain.oracle oracle) := by
  constructor
  · intro budId address answered
    exact Option.some.inj answered
  · intro user gameItemId amount answered
    exact Option.some.inj answered

def Chain.heldBy (account : Address) : Chain where
  budOwner := fun _ => account
  gameItemBalance := fun _ _ => 1

theorem Chain.reported_heldBy (account : Address) (now : Time) :
    (Chain.heldBy account).Reported (.agreeable account now) := by
  constructor
  · intro budId address answered
    exact Option.some.inj answered
  · intro user gameItemId amount answered
    exact Option.some.inj answered

def allAlices : Chain :=
  .heldBy "alice"

/-- After her login `alice` sends the requests of a script. -/
theorem chainRun_served {script : List (Request × Oracle)}
    (agreeable : ∀ entry ∈ script, ∃ now, entry.2 = .agreeable "alice" now) :
    ChainRun (liveApp .goerli) .empty
      (([loginStep] ++ (serve (liveApp .goerli) script signedUp).1).map
        allAlices.visited)
      (serve (liveApp .goerli) script signedUp).2 := by
  apply chainRun_of_run
  have reported : ∀ now, allAlices.Reported (.agreeable "alice" now) :=
    Chain.reported_heldBy "alice"
  apply run_serve ?_ (run_loginStep (reported (period 0)))
  intro entry member
  obtain ⟨now, same⟩ := agreeable entry member
  rw [same]
  exact reported now

end BudBreeding.Possession
