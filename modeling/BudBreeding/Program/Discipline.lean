import BudBreeding.Program.Pool

namespace BudBreeding.Program

/-! Rely and guarantee for programs run concurrently: what a thread has seen of
the store it may use later on, as far as the steps of the others keep it. -/

/-- The terms on which threads share a store: which queries a thread may ask at a
stage of its work, what it may assume about the store there, and how the store
evolves from any state to any later one. -/
structure Discipline {Q : Type} (R : Q → Type) (μ σ : Type) where
  advance : μ → (query : Q) → R query → μ
  assumes : μ → σ → Prop
  permits : μ → Q → σ → Prop
  evolves : σ → σ → Prop
  refl : ∀ state, evolves state state
  trans : ∀ {first second third}, evolves first second →
    evolves second third → evolves first third

namespace World

variable {Q O σ ε α : Type} {R : Q → Type}

/-- The answer to the query does not depend on the state, nor does it change. -/
def Oblivious (world : World R O σ) (query : Q) : Prop :=
  ∀ oracle state other, world.exec oracle query state =
    ((world.exec oracle query other).1, state)

/-- Which oracles may answer does not depend on the state. -/
def Indifferent (world : World R O σ) : Prop :=
  ∀ oracle state other, world.allows state oracle → world.allows other oracle

end World

namespace Discipline

variable {Q ι O σ ε α β μ : Type} {R : Q → Type}

/-- A thread at `stage` that has last seen the store `since`: whatever the others
do to the store in between, it asks permitted queries only, and it ends as
`finish` says. -/
def Guarded (discipline : Discipline R μ σ) (world : World R O σ)
    (finish : μ → σ → Except ε α → Prop) : μ → σ → Prog R ε α → Prop
  | stage, since, .pure value => finish stage since (.ok value)
  | stage, since, .throw error => finish stage since (.error error)
  | stage, since, .ask query next =>
      ∀ state, discipline.evolves since state →
        discipline.assumes stage state →
        discipline.permits stage query state ∧
          ∀ oracle, world.allows state oracle →
            discipline.evolves state (world.exec oracle query state).2 →
            Guarded discipline world finish
              (discipline.advance stage query
                (world.exec oracle query state).1)
              (world.exec oracle query state).2
              (next (world.exec oracle query state).1)

/-- A query that is permitted everywhere and leads to no other stage. -/
def Idle (discipline : Discipline R μ σ) (query : Q) : Prop :=
  ∀ stage, (∀ state, discipline.permits stage query state) ∧
    ∀ answer, discipline.advance stage query answer = stage

section Rules

variable {discipline : Discipline R μ σ} {world : World R O σ} {stage : μ}
  {since : σ} {finish : μ → σ → Except ε β → Prop}

theorem guarded_call_bind {query : Q} {rest : R query → Prog R ε β} :
    discipline.Guarded world finish stage since (Prog.call query >>= rest) ↔
      ∀ state, discipline.evolves since state →
        discipline.assumes stage state →
        discipline.permits stage query state ∧
          ∀ oracle, world.allows state oracle →
            discipline.evolves state (world.exec oracle query state).2 →
            discipline.Guarded world finish
              (discipline.advance stage query
                (world.exec oracle query state).1)
              (world.exec oracle query state).2
              (rest (world.exec oracle query state).1) := Iff.rfl

theorem guarded_bind {program : Prog R ε α} {rest : α → Prog R ε β} :
    discipline.Guarded world finish stage since (program >>= rest) ↔
      discipline.Guarded world
        (fun stage since result =>
          match result with
          | .ok value =>
              discipline.Guarded world finish stage since (rest value)
          | .error error => finish stage since (.error error))
        stage since program := by
  induction program generalizing stage since with
  | pure value => exact Iff.rfl
  | throw error => exact Iff.rfl
  | ask query next induction =>
      rw [Prog.ask_bind]
      simp only [Guarded, induction]

theorem guarded_tryCatch {program : Prog R ε β} {handler : ε → Prog R ε β} :
    discipline.Guarded world finish stage since (program.tryCatch handler) ↔
      discipline.Guarded world
        (fun stage since result =>
          match result with
          | .ok value => finish stage since (.ok value)
          | .error error =>
              discipline.Guarded world finish stage since (handler error))
        stage since program := by
  induction program generalizing stage since with
  | pure value => exact Iff.rfl
  | throw error => exact Iff.rfl
  | ask query next induction =>
      simp only [Prog.tryCatch, Guarded, induction]

theorem Guarded.mono {weaker : μ → σ → Except ε β → Prop}
    {program : Prog R ε β}
    (guarded : discipline.Guarded world finish stage since program)
    (weaken : ∀ stage since result, finish stage since result →
      weaker stage since result) :
    discipline.Guarded world weaker stage since program := by
  induction program generalizing stage since with
  | pure value => exact weaken _ _ _ guarded
  | throw error => exact weaken _ _ _ guarded
  | ask query next induction =>
      intro state later assumed
      obtain ⟨permitted, rest⟩ := guarded state later assumed
      exact ⟨permitted, fun oracle allowed evolved =>
        induction _ (rest oracle allowed evolved)⟩

theorem guarded_map {program : Prog R ε α} {change : α → β} :
    discipline.Guarded world finish stage since (change <$> program) ↔
      discipline.Guarded world
        (fun stage since result => finish stage since (result.map change))
        stage since program := by
  change discipline.Guarded world finish stage since
    (program >>= fun value => .pure (change value)) ↔ _
  rw [guarded_bind]
  constructor
  all_goals
    intro guarded
    apply guarded.mono
    intro last seen result reached
    cases result <;> exact reached

theorem guarded_throwIf_bind {condition : Prop} [Decidable condition]
    {error : ε} {rest : Unit → Prog R ε β}
    (refused : condition → finish stage since (.error error))
    (continued : ¬ condition →
      discipline.Guarded world finish stage since (rest ())) :
    discipline.Guarded world finish stage since
      (Prog.throwIf condition error >>= rest) := by
  unfold Prog.throwIf
  split
  · next holds => exact refused holds
  · next fails => exact continued fails

/-- A read: the rest goes on from the state it was answered in. -/
theorem guarded_read {query : Q} {rest : R query → Prog R ε β}
    (idle : discipline.Idle query)
    (silent : ∀ oracle state, (world.exec oracle query state).2 = state)
    (continued : ∀ state, discipline.evolves since state →
      discipline.assumes stage state → ∀ oracle, world.allows state oracle →
      discipline.Guarded world finish stage state
        (rest (world.exec oracle query state).1)) :
    discipline.Guarded world finish stage since (Prog.call query >>= rest) := by
  rw [guarded_call_bind]
  intro state later assumed
  refine ⟨(idle stage).1 state, ?_⟩
  intro oracle allowed _
  rw [(idle stage).2, silent oracle state]
  exact continued state later assumed oracle allowed

/-- Reads of which nothing but the end matters. -/
theorem guarded_of_idle {program : Prog R ε β}
    (uses : program.Uses fun query => discipline.Idle query ∧
      ∀ oracle state, (world.exec oracle query state).2 = state)
    (ends : ∀ state, discipline.evolves since state →
      ∀ result, finish stage state result) :
    discipline.Guarded world finish stage since program := by
  induction program generalizing since with
  | pure value => exact ends since (discipline.refl since) _
  | throw error => exact ends since (discipline.refl since) _
  | ask query next induction =>
      obtain ⟨⟨idle, silent⟩, rest⟩ := uses
      refine guarded_read idle silent fun state later _ oracle _ => ?_
      exact induction _ (rest _) fun last latest =>
        ends last (discipline.trans later latest)

theorem guarded_skip {program : Prog R ε α} {rest : α → Prog R ε β}
    (uses : program.Uses fun query => discipline.Idle query ∧
      ∀ oracle state, (world.exec oracle query state).2 = state)
    (refused : ∀ state error, finish stage state (.error error))
    (continued : ∀ value state, discipline.evolves since state →
      discipline.Guarded world finish stage state (rest value)) :
    discipline.Guarded world finish stage since (program >>= rest) := by
  rw [guarded_bind]
  apply guarded_of_idle uses
  intro state later result
  cases result with
  | ok value => exact continued value state later
  | error error => exact refused state error

/-- What a program ensures that never looks at the store, it ensures among other
threads too. -/
theorem guarded_of_ensures {program : Prog R ε β} {other : σ}
    {facts : Except ε β → Prop} (indifferent : world.Indifferent)
    (uses : program.Uses fun query =>
      discipline.Idle query ∧ world.Oblivious query)
    (ensures : world.Ensures program (fun result _ => facts result) other)
    (ends : ∀ state, discipline.evolves since state →
      ∀ result, facts result → finish stage state result) :
    discipline.Guarded world finish stage since program := by
  induction program generalizing since with
  | pure value =>
      exact ends since (discipline.refl since) _
        (World.ensures_prog_pure.mp ensures)
  | throw error =>
      exact ends since (discipline.refl since) _
        (World.ensures_throw.mp ensures)
  | ask query next induction =>
      obtain ⟨⟨idle, oblivious⟩, rest⟩ := uses
      refine guarded_read idle
        (fun oracle state => by rw [oblivious oracle state state]) ?_
      intro state later _ oracle allowed
      have same : (world.exec oracle query state).1 =
          (world.exec oracle query other).1 := by
        rw [oblivious oracle state other]
      have unmoved : (world.exec oracle query other).2 = other := by
        rw [oblivious oracle other other]
      have after := World.ensures_ask.mp ensures oracle
        (indifferent oracle state other allowed)
      rw [unmoved] at after
      rw [same]
      exact induction _ (rest _) after fun last latest =>
        ends last (discipline.trans later latest)

end Rules

/-- An invariant of the stages and the store that bears out what the threads
assume, and under which permitted queries let the store evolve. -/
structure Upholds [DecidableEq ι] (discipline : Discipline R μ σ)
    (world : World R O σ) (keeps : (ι → μ) → σ → Prop) : Prop where
  assumed : ∀ {stages state}, keeps stages state →
    ∀ thread, discipline.assumes (stages thread) state
  step : ∀ {stages state query oracle} thread, keeps stages state →
    discipline.permits (stages thread) query state →
    world.allows state oracle →
    keeps
        (Function.update stages thread
          (discipline.advance (stages thread) query
            (world.exec oracle query state).1))
        (world.exec oracle query state).2 ∧
      discipline.evolves state (world.exec oracle query state).2

section Runs

variable [DecidableEq ι] {discipline : Discipline R μ σ} {world : World R O σ}
  {finish : μ → σ → Except ε α → Prop} {keeps : (ι → μ) → σ → Prop}
  {initial : ι → μ} {pool final : Pool ι R ε α σ}
  {steps : List (Transition (Pool ι R ε α σ) (Event ι R))}

/-- The stages are those of a protocol for which every query is legal. -/
def protocol (discipline : Discipline R μ σ) : Protocol R μ where
  advance := discipline.advance
  legal := fun _ _ _ => True

/-- The threads go on as guarded programs from what each has last seen. -/
def Underway (discipline : Discipline R μ σ) (world : World R O σ)
    (finish : μ → σ → Except ε α → Prop) (stages : ι → μ)
    (pool : Pool ι R ε α σ) : Prop :=
  ∀ thread, ∃ since, discipline.evolves since pool.store ∧
    discipline.Guarded world finish (stages thread) since
      (pool.threads thread)

theorem Underway.permits {stages : ι → μ} {thread : ι} {query : Q}
    {next : R query → Prog R ε α} {oracle : O}
    (underway : discipline.Underway world finish stages pool)
    (upholds : discipline.Upholds world keeps)
    (holds : keeps stages pool.store)
    (waiting : pool.threads thread = .ask query next)
    (allowed : world.allows pool.store oracle) :
    discipline.permits (stages thread) query pool.store ∧
      (discipline.evolves pool.store (world.exec oracle query pool.store).2 →
        discipline.Guarded world finish
          (discipline.advance (stages thread) query
            (world.exec oracle query pool.store).1)
          (world.exec oracle query pool.store).2
          (next (world.exec oracle query pool.store).1)) := by
  obtain ⟨since, later, guarded⟩ := underway thread
  rw [waiting] at guarded
  obtain ⟨permitted, rest⟩ :=
    guarded pool.store later (upholds.assumed holds thread)
  exact ⟨permitted, rest oracle allowed⟩

/-- Guarded threads keep the invariant however they are interleaved. -/
theorem kept_of_history (history : History (Pool.Next world) pool steps final)
    (upholds : discipline.Upholds world keeps)
    (abide : ∀ thread, discipline.Guarded world finish (initial thread)
      pool.store (pool.threads thread))
    (base : keeps initial pool.store) :
    keeps (discipline.protocol.stages initial steps) final.store ∧
      discipline.Underway world finish
        (discipline.protocol.stages initial steps) final := by
  induction history with
  | nil =>
      exact ⟨base, fun thread => ⟨pool.store, discipline.refl _, abide thread⟩⟩
  | @snoc steps current target label earlier step induction =>
      obtain ⟨holds, underway⟩ := induction
      cases step with
      | @ask thread query next oracle waiting allowed =>
          obtain ⟨permitted, rest⟩ :=
            underway.permits upholds holds waiting allowed
          obtain ⟨kept, evolved⟩ := upholds.step thread holds permitted allowed
          rw [Protocol.stages_snoc]
          refine ⟨kept, ?_⟩
          intro other
          simp only [Pool.transition]
          by_cases same : other = thread
          · subst same
            simp only [Function.update_self]
            exact ⟨_, discipline.refl _, rest evolved⟩
          · simp only [Function.update_of_ne same]
            obtain ⟨since, later, guarded⟩ := underway other
            exact ⟨since, discipline.trans later evolved, guarded⟩

/-- Induction over a concurrent run of guarded threads: every step asks a
permitted query while the invariant holds. -/
theorem induct
    (also : List (Transition (Pool ι R ε α σ) (Event ι R)) →
      Pool ι R ε α σ → Prop)
    (history : History (Pool.Next world) pool steps final)
    (upholds : discipline.Upholds world keeps)
    (abide : ∀ thread, discipline.Guarded world finish (initial thread)
      pool.store (pool.threads thread))
    (start : keeps initial pool.store) (base : also [] pool)
    (preserved : ∀ steps current thread query next oracle,
      keeps (discipline.protocol.stages initial steps) current.store →
      also steps current →
      discipline.permits (discipline.protocol.stages initial steps thread)
        query current.store →
      world.allows current.store oracle →
      also (steps ++ [current.transition world oracle thread query next])
        (current.transition world oracle thread query next).target) :
    also steps final := by
  refine history.induct (everywhere_true steps) base ?_
  intro steps current label target earlier before step _
  obtain ⟨holds, underway⟩ := kept_of_history earlier upholds abide start
  cases step with
  | @ask thread query next oracle waiting allowed =>
      obtain ⟨permitted, -⟩ := underway.permits upholds holds waiting allowed
      exact preserved steps current thread query next oracle holds before
        permitted allowed

/-- Between any two moments of a run the store has evolved. -/
theorem evolves_of_history
    (history : History (Pool.Next world) pool steps final)
    (upholds : discipline.Upholds world keeps)
    (abide : ∀ thread, discipline.Guarded world finish (initial thread)
      pool.store (pool.threads thread))
    (start : keeps initial pool.store) :
    (states pool steps).Pairwise fun earlier later =>
      discipline.evolves earlier.store later.store := by
  refine history.pairwise_states (fun _ => discipline.refl _)
    (fun _ _ _ => discipline.trans) ?_
  refine induct
    (fun steps _ => ∀ step ∈ steps,
      discipline.evolves step.source.store step.target.store)
    history upholds abide start ?_ ?_
  · exact fun step member => absurd member List.not_mem_nil
  · intro steps current thread query next oracle holds before permitted
      allowed step member
    rcases List.mem_append.mp member with old | new
    · exact before step old
    · rw [List.mem_singleton.mp new]
      exact (upholds.step thread holds permitted allowed).2

/-- The store has evolved since every earlier moment of a run. -/
theorem evolved_of_history
    (history : History (Pool.Next world) pool steps final)
    (upholds : discipline.Upholds world keeps)
    (abide : ∀ thread, discipline.Guarded world finish (initial thread)
      pool.store (pool.threads thread))
    (start : keeps initial pool.store) :
    ∀ earlier ∈ states pool steps,
      discipline.evolves earlier.store final.store := by
  refine induct (fun steps current => ∀ earlier ∈ states pool steps,
      discipline.evolves earlier.store current.store)
    history upholds abide start ?_ ?_
  · intro earlier member
    rw [List.mem_singleton.mp member]
    exact discipline.refl _
  · intro steps current thread query next oracle holds before permitted
      allowed earlier member
    rw [states_snoc] at member
    rcases List.mem_append.mp member with old | new
    · exact discipline.trans (before earlier old)
        (upholds.step thread holds permitted allowed).2
    · rw [List.mem_singleton.mp new]
      exact discipline.refl _

/-- A guarded program that runs alone keeps the invariant, too. -/
theorem Guarded.kept_of_runs {keeps : (Unit → μ) → σ → Prop} {stage : μ}
    {since state last : σ} {program : Prog R ε α} {result : Except ε α}
    (guarded : discipline.Guarded world finish stage since program)
    (later : discipline.evolves since state)
    (upholds : discipline.Upholds world keeps)
    (base : keeps (fun _ => stage) state)
    (runs : world.Runs program state result last) :
    ∃ reached, keeps (fun _ => reached) last ∧
      ∃ seen, discipline.evolves seen last ∧ finish reached seen result := by
  induction runs generalizing stage since with
  | pure => exact ⟨stage, base, since, later, guarded⟩
  | throw => exact ⟨stage, base, since, later, guarded⟩
  | @ask query next state _ _ oracle allowed _ induction =>
      obtain ⟨permitted, rest⟩ := guarded state later (upholds.assumed base ())
      obtain ⟨kept, evolved⟩ :=
        upholds.step () base permitted allowed
      refine induction (rest oracle allowed evolved) (discipline.refl _) ?_
      rw [Function.update_eq_const_of_subsingleton] at kept
      exact kept

end Runs

end Discipline

end BudBreeding.Program
