import Mathlib.Logic.Function.Basic
import BudBreeding.Program.Sequential
import BudBreeding.Program.History

namespace BudBreeding.Program

/-! Programs run concurrently: a pool of programs over one shared state, where
each step executes one query of one program. -/

structure Pool {Q : Type} (ι : Type) (R : Q → Type) (ε α σ : Type) where
  store : σ
  threads : ι → Prog R ε α

structure Event {Q : Type} (ι : Type) (R : Q → Type) where
  thread : ι
  query : Q
  answer : R query

namespace Pool

variable {Q ι O σ ε α : Type} {R : Q → Type} [DecidableEq ι]

def transition (pool : Pool ι R ε α σ) (world : World R O σ) (oracle : O)
    (thread : ι) (query : Q) (next : R query → Prog R ε α) :
    Transition (Pool ι R ε α σ) (Event ι R) where
  source := pool
  label := ⟨thread, query, (world.exec oracle query pool.store).1⟩
  target :=
    ⟨(world.exec oracle query pool.store).2,
      Function.update pool.threads thread
        (next (world.exec oracle query pool.store).1)⟩

inductive Next (world : World R O σ) :
    Pool ι R ε α σ → Event ι R → Pool ι R ε α σ → Prop
  | ask {pool : Pool ι R ε α σ} {thread : ι} {query : Q}
      {next : R query → Prog R ε α} (oracle : O)
      (waiting : pool.threads thread = .ask query next)
      (allowed : world.allows pool.store oracle) :
      Next world pool (pool.transition world oracle thread query next).label
        (pool.transition world oracle thread query next).target

end Pool

namespace World

variable {Q O σ : Type} {R : Q → Type}

/-- An answer the surroundings can give in some state. -/
def Answers (world : World R O σ) (query : Q) (answer : R query) : Prop :=
  ∃ state oracle, world.allows state oracle ∧
    (world.exec oracle query state).1 = answer

end World

/-- What a program may do at each stage of its work: which queries are legal,
given their answers, and which stage they lead to. -/
structure Protocol {Q : Type} (R : Q → Type) (μ : Type) where
  advance : μ → (query : Q) → R query → μ
  legal : μ → (query : Q) → R query → Prop

namespace Protocol

variable {Q ι O σ ε α β μ : Type} {R : Q → Type} {world : World R O σ}
  {protocol : Protocol R μ} {stage : μ}

/-- From `stage` on a program only asks legal queries, whatever the answers, and
it only ends as `finish` says. -/
def Follows (protocol : Protocol R μ) (world : World R O σ)
    (finish : μ → Except ε α → Prop) : μ → Prog R ε α → Prop
  | stage, .pure value => finish stage (.ok value)
  | stage, .throw error => finish stage (.error error)
  | stage, .ask query next =>
      ∀ answer, world.Answers query answer →
        protocol.legal stage query answer ∧
          Follows protocol world finish (protocol.advance stage query answer)
            (next answer)

/-- A query that is legal at every stage and leads to no other one. -/
def Ignores (protocol : Protocol R μ) (query : Q) : Prop :=
  ∀ stage answer, protocol.legal stage query answer ∧
    protocol.advance stage query answer = stage

section Rules

variable {finish : μ → Except ε β → Prop}

@[simp] theorem follows_prog_pure {value : β} :
    protocol.Follows world finish stage (Prog.pure value : Prog R ε β) ↔
      finish stage (.ok value) := Iff.rfl

theorem follows_call_bind {query : Q} {rest : R query → Prog R ε β} :
    protocol.Follows world finish stage (Prog.call query >>= rest) ↔
      ∀ answer, world.Answers query answer →
        protocol.legal stage query answer ∧
          protocol.Follows world finish (protocol.advance stage query answer)
            (rest answer) := Iff.rfl

theorem follows_bind {program : Prog R ε α} {rest : α → Prog R ε β} :
    protocol.Follows world finish stage (program >>= rest) ↔
      protocol.Follows world
        (fun stage result =>
          match result with
          | .ok value => protocol.Follows world finish stage (rest value)
          | .error error => finish stage (.error error)) stage program := by
  induction program generalizing stage with
  | pure value => exact Iff.rfl
  | throw error => exact Iff.rfl
  | ask query next induction =>
      rw [Prog.ask_bind]
      simp only [Follows, induction]

theorem follows_tryCatch {program : Prog R ε β}
    {handler : ε → Prog R ε β} :
    protocol.Follows world finish stage (program.tryCatch handler) ↔
      protocol.Follows world
        (fun stage result =>
          match result with
          | .ok value => finish stage (.ok value)
          | .error error =>
              protocol.Follows world finish stage (handler error))
        stage program := by
  induction program generalizing stage with
  | pure value => exact Iff.rfl
  | throw error => exact Iff.rfl
  | ask query next induction =>
      simp only [Prog.tryCatch, Follows, induction]

theorem Follows.mono {weaker : μ → Except ε β → Prop} {program : Prog R ε β}
    (follows : protocol.Follows world finish stage program)
    (weaken : ∀ stage result, finish stage result → weaker stage result) :
    protocol.Follows world weaker stage program := by
  induction program generalizing stage with
  | pure value => exact weaken _ _ follows
  | throw error => exact weaken _ _ follows
  | ask query next induction =>
      intro answer possible
      obtain ⟨permitted, rest⟩ := follows answer possible
      exact ⟨permitted, induction answer rest⟩

theorem follows_map {program : Prog R ε α} {change : α → β} :
    protocol.Follows world finish stage (change <$> program) ↔
      protocol.Follows world
        (fun stage result => finish stage (result.map change)) stage
        program := by
  change protocol.Follows world finish stage
    (program >>= fun value => .pure (change value)) ↔ _
  rw [follows_bind]
  constructor
  all_goals
    intro follows
    apply follows.mono
    intro last result reached
    cases result <;> exact reached

theorem follows_of_ignored {program : Prog R ε β}
    (uses : program.Uses protocol.Ignores)
    (ends : ∀ result, finish stage result) :
    protocol.Follows world finish stage program := by
  induction program with
  | pure value => exact ends _
  | throw error => exact ends _
  | ask query next induction =>
      intro answer _
      obtain ⟨permitted, unmoved⟩ := uses.1 stage answer
      refine ⟨permitted, ?_⟩
      rw [unmoved]
      exact induction answer (uses.2 answer)

theorem follows_skip {program : Prog R ε α} {rest : α → Prog R ε β}
    (uses : program.Uses protocol.Ignores)
    (refused : ∀ error, finish stage (.error error))
    (continued : ∀ value,
      protocol.Follows world finish stage (rest value)) :
    protocol.Follows world finish stage (program >>= rest) := by
  rw [follows_bind]
  apply follows_of_ignored uses
  intro result
  cases result with
  | ok value => exact continued value
  | error error => exact refused error

theorem follows_throwIf_bind {condition : Prop} [Decidable condition]
    {error : ε} {rest : Unit → Prog R ε β}
    (refused : condition → finish stage (.error error))
    (continued : ¬ condition →
      protocol.Follows world finish stage (rest ())) :
    protocol.Follows world finish stage
      (Prog.throwIf condition error >>= rest) := by
  unfold Prog.throwIf
  split
  · next holds => exact refused holds
  · next fails => exact continued fails

end Rules

section Runs

variable [DecidableEq ι] {finish : μ → Except ε α → Prop} {initial : ι → μ}
  {pool final : Pool ι R ε α σ}
  {steps : List (Transition (Pool ι R ε α σ) (Event ι R))}

def stages (protocol : Protocol R μ) (initial : ι → μ)
    (steps : List (Transition (Pool ι R ε α σ) (Event ι R))) : ι → μ :=
  steps.foldl
    (fun reached step =>
      Function.update reached step.label.thread
        (protocol.advance (reached step.label.thread) step.label.query
          step.label.answer))
    initial

@[simp] theorem stages_nil :
    protocol.stages initial
      ([] : List (Transition (Pool ι R ε α σ) (Event ι R))) = initial := rfl

@[simp] theorem stages_snoc (step : Transition (Pool ι R ε α σ) (Event ι R)) :
    protocol.stages initial (steps ++ [step]) =
      Function.update (protocol.stages initial steps) step.label.thread
        (protocol.advance (protocol.stages initial steps step.label.thread)
          step.label.query step.label.answer) := by
  simp [stages]

theorem stages_transition_self (oracle : O) (thread : ι) (query : Q)
    (next : R query → Prog R ε α) :
    protocol.stages initial
        (steps ++ [pool.transition world oracle thread query next]) thread =
      protocol.advance (protocol.stages initial steps thread) query
        (world.exec oracle query pool.store).1 := by
  rw [stages_snoc]
  exact Function.update_self _ _ _

theorem stages_transition_other {oracle : O} {thread other : ι} {query : Q}
    {next : R query → Prog R ε α} (different : other ≠ thread) :
    protocol.stages initial
        (steps ++ [pool.transition world oracle thread query next]) other =
      protocol.stages initial steps other := by
  rw [stages_snoc]
  exact Function.update_of_ne different _ _

/-- Threads that start out following the protocol follow it at the stages they
have reached, however they are interleaved. -/
theorem follows_of_history
    (history : History (Pool.Next world) pool steps final)
    (abide : ∀ thread, protocol.Follows world finish (initial thread)
      (pool.threads thread)) :
    ∀ thread, protocol.Follows world finish
      (protocol.stages initial steps thread) (final.threads thread) := by
  induction history with
  | nil => exact abide
  | snoc earlier step induction =>
      cases step with
      | @ask thread query next oracle waiting allowed =>
          have follows := induction thread
          rw [waiting] at follows
          intro other
          simp only [stages_snoc, Pool.transition]
          by_cases same : other = thread
          · subst other
            simp only [Function.update_self]
            exact (follows _ ⟨_, oracle, allowed, rfl⟩).2
          · simp only [Function.update_of_ne same]
            exact induction other

/-- Induction over a concurrent run: every step asks a query of a waiting thread
that is legal at the stage this thread has reached. -/
theorem induct
    {keeps : List (Transition (Pool ι R ε α σ) (Event ι R)) →
      Pool ι R ε α σ → Prop}
    {good : List (Transition (Pool ι R ε α σ) (Event ι R)) →
      Transition (Pool ι R ε α σ) (Event ι R) → Prop}
    (history : History (Pool.Next world) pool steps final)
    (abide : ∀ thread, protocol.Follows world finish (initial thread)
      (pool.threads thread))
    (holds : Everywhere good steps) (base : keeps [] pool)
    (preserved : ∀ steps current thread query next oracle,
      History (Pool.Next world) pool steps current → keeps steps current →
      current.threads thread = .ask query next →
      protocol.legal (protocol.stages initial steps thread) query
        (world.exec oracle query current.store).1 →
      good steps (current.transition world oracle thread query next) →
      keeps (steps ++ [current.transition world oracle thread query next])
        (current.transition world oracle thread query next).target) :
    keeps steps final := by
  refine history.induct holds base ?_
  intro steps current label target earlier before step atStep
  cases step with
  | @ask thread query next oracle waiting allowed =>
      have follows := follows_of_history earlier abide thread
      rw [waiting] at follows
      have permitted := (follows _ ⟨_, oracle, allowed, rfl⟩).1
      exact preserved steps current thread query next oracle earlier before
        waiting permitted atStep

end Runs

end Protocol

namespace Pool

variable {Q ι O σ ε α : Type} {R : Q → Type} [DecidableEq ι]
  {world : World R O σ} {pool : Pool ι R ε α σ}
  {steps : List (Transition (Pool ι R ε α σ) (Event ι R))}

/-- Executing a schedule: at each entry the named thread asks its next query. -/
def play (world : World R O σ) :
    List (ι × O) → Pool ι R ε α σ →
      List (Transition (Pool ι R ε α σ) (Event ι R)) × Pool ι R ε α σ
  | [], pool => ([], pool)
  | (thread, oracle) :: rest, pool =>
      match pool.threads thread with
      | .ask query next =>
          let step := pool.transition world oracle thread query next
          let played := play world rest step.target
          (step :: played.1, played.2)
      | _ => play world rest pool

theorem history_play {start : Pool ι R ε α σ} {schedule : List (ι × O)}
    (allowed : ∀ entry ∈ schedule, ∀ state, world.allows state entry.2)
    (history : History (Next world) start steps pool) :
    History (Next world) start (steps ++ (play world schedule pool).1)
      (play world schedule pool).2 := by
  induction schedule generalizing steps pool with
  | nil => simpa [play] using history
  | cons entry rest induction =>
      obtain ⟨thread, oracle⟩ := entry
      have remaining : ∀ entry ∈ rest, ∀ state, world.allows state entry.2 :=
        fun entry member => allowed entry (List.mem_cons_of_mem _ member)
      cases waiting : pool.threads thread with
      | pure value => simpa [play, waiting] using induction remaining history
      | throw error => simpa [play, waiting] using induction remaining history
      | ask query next =>
          have step := history.snoc (.ask oracle waiting
            (allowed (thread, oracle) List.mem_cons_self pool.store))
          have extended := induction remaining step
          rw [List.append_assoc] at extended
          simp only [play, waiting]
          exact extended

end Pool

end BudBreeding.Program
