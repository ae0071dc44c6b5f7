import BudBreeding.Program.Syntax

namespace BudBreeding.Program

/-! Programs run alone: every query is executed at once on the current state. -/

/-- Surroundings that answer queries.  An oracle stands for everything that is
not decided by the state; `allows` says which oracles may answer in a state. -/
structure World {Q : Type} (R : Q → Type) (O σ : Type) where
  exec : O → (query : Q) → σ → R query × σ
  allows : σ → O → Prop

namespace World

variable {Q : Type} {R : Q → Type} {O σ ε α β : Type}

inductive Runs (world : World R O σ) :
    Prog R ε α → σ → Except ε α → σ → Prop
  | pure {value : α} {state : σ} :
      Runs world (.pure value) state (.ok value) state
  | throw {error : ε} {state : σ} :
      Runs world (.throw error) state (.error error) state
  | ask {query : Q} {next : R query → Prog R ε α} {state final : σ}
      {result : Except ε α} (oracle : O)
      (allowed : world.allows state oracle)
      (rest : Runs world (next (world.exec oracle query state).1)
        (world.exec oracle query state).2 result final) :
      Runs world (.ask query next) state result final

/-- Every run of the program from `state` ends in an outcome satisfying `post`. -/
def Ensures (world : World R O σ) (program : Prog R ε α)
    (post : Except ε α → σ → Prop) (state : σ) : Prop :=
  ∀ result final, world.Runs program state result final → post result final

variable {world : World R O σ} {state : σ}

@[simp] theorem ensures_pure {value : α} {post : Except ε α → σ → Prop} :
    world.Ensures (Pure.pure value) post state ↔ post (.ok value) state := by
  constructor
  · intro ensures
    exact ensures _ _ .pure
  · intro holds result final runs
    cases runs
    exact holds

@[simp] theorem ensures_prog_pure {value : α} {post : Except ε α → σ → Prop} :
    world.Ensures (.pure value) post state ↔ post (.ok value) state :=
  ensures_pure

@[simp] theorem ensures_throw {error : ε} {post : Except ε α → σ → Prop} :
    world.Ensures (.throw error) post state ↔ post (.error error) state := by
  constructor
  · intro ensures
    exact ensures _ _ .throw
  · intro holds result final runs
    cases runs
    exact holds

theorem ensures_ask {query : Q} {next : R query → Prog R ε α}
    {post : Except ε α → σ → Prop} :
    world.Ensures (.ask query next) post state ↔
      ∀ oracle, world.allows state oracle →
        world.Ensures (next (world.exec oracle query state).1) post
          (world.exec oracle query state).2 := by
  constructor
  · intro ensures oracle allowed result final runs
    exact ensures result final (.ask oracle allowed runs)
  · intro each result final runs
    cases runs with
    | ask oracle allowed rest => exact each oracle allowed result final rest

@[simp] theorem ensures_call {query : Q}
    {post : Except ε (R query) → σ → Prop} :
    world.Ensures (Prog.call query) post state ↔
      ∀ oracle, world.allows state oracle →
        post (.ok (world.exec oracle query state).1)
          (world.exec oracle query state).2 := by
  simp only [Prog.call, ensures_ask, ensures_prog_pure]

theorem ensures_bind {program : Prog R ε α} {rest : α → Prog R ε β}
    {post : Except ε β → σ → Prop} :
    world.Ensures (program >>= rest) post state ↔
      world.Ensures program
        (fun result middle =>
          match result with
          | .ok value => world.Ensures (rest value) post middle
          | .error error => post (.error error) middle) state := by
  induction program generalizing state with
  | pure value =>
      rw [ensures_prog_pure]
      rfl
  | throw error =>
      rw [Prog.throw_bind]
      simp only [ensures_throw]
  | ask query next induction =>
      rw [Prog.ask_bind]
      simp only [ensures_ask, induction]

@[simp] theorem ensures_call_bind {query : Q} {rest : R query → Prog R ε β}
    {post : Except ε β → σ → Prop} :
    world.Ensures (Prog.call query >>= rest) post state ↔
      ∀ oracle, world.allows state oracle →
        world.Ensures (rest (world.exec oracle query state).1) post
          (world.exec oracle query state).2 :=
  ensures_ask

theorem ensures_tail {program : Prog R ε α} {post : Except ε α → σ → Prop} :
    world.Ensures (program >>= Pure.pure) post state ↔
      world.Ensures program post state := by
  rw [ensures_bind]
  constructor
  all_goals
    intro ensures result final runs
    have reached := ensures result final runs
    cases result with
    | ok value => simpa using reached
    | error error => exact reached

theorem ensures_map {program : Prog R ε α} {change : α → β}
    {post : Except ε β → σ → Prop} :
    world.Ensures (change <$> program) post state ↔
      world.Ensures program (fun result => post (result.map change)) state := by
  change world.Ensures (program >>= fun value => .pure (change value)) _ _ ↔ _
  rw [ensures_bind]
  constructor
  all_goals
    intro ensures result final runs
    have reached := ensures result final runs
    cases result with
    | ok value => simpa [Except.map] using reached
    | error error => exact reached

theorem Ensures.map {program : Prog R ε α} {keeps : σ → Prop}
    (ensures : world.Ensures program (fun _ final => keeps final) state)
    (change : α → β) :
    world.Ensures (change <$> program) (fun _ final => keeps final) state :=
  ensures_map.mpr ensures

theorem ensures_tryCatch {program : Prog R ε α} {handler : ε → Prog R ε α}
    {post : Except ε α → σ → Prop} :
    world.Ensures (program.tryCatch handler) post state ↔
      world.Ensures program
        (fun result middle =>
          match result with
          | .ok value => post (.ok value) middle
          | .error error => world.Ensures (handler error) post middle)
        state := by
  induction program generalizing state with
  | pure value => simp only [Prog.tryCatch, ensures_prog_pure]
  | throw error => simp only [Prog.tryCatch, ensures_throw]
  | ask query next induction =>
      simp only [Prog.tryCatch, ensures_ask, induction]

@[simp] theorem ensures_throwIf {condition : Prop} [Decidable condition]
    {error : ε} {post : Except ε Unit → σ → Prop} :
    world.Ensures (Prog.throwIf condition error) post state ↔
      (condition → post (.error error) state) ∧
        (¬ condition → post (.ok ()) state) := by
  unfold Prog.throwIf
  split
  · next holds => simp [holds]
  · next fails => simp [fails]

theorem Ensures.mono {program : Prog R ε α}
    {first second : Except ε α → σ → Prop}
    (ensures : world.Ensures program first state)
    (weaken : ∀ result final, first result final → second result final) :
    world.Ensures program second state :=
  fun result final runs => weaken result final (ensures result final runs)

/-- The program leaves the state alone, and what it returns satisfies `facts`. -/
def Reads (world : World R O σ) (program : Prog R ε α) (facts : α → Prop)
    (state : σ) : Prop :=
  world.Ensures program
    (fun result final =>
      final = state ∧ ∀ value, result = .ok value → facts value) state

theorem Reads.ensures_bind {program : Prog R ε α} {rest : α → Prog R ε β}
    {facts : α → Prop} {post : Except ε β → σ → Prop}
    (reads : world.Reads program facts state)
    (refused : ∀ error, post (.error error) state)
    (continued : ∀ value, facts value → world.Ensures (rest value) post state) :
    world.Ensures (program >>= rest) post state := by
  rw [World.ensures_bind]
  refine Ensures.mono reads ?_
  intro result final given
  obtain ⟨rfl, satisfied⟩ := given
  cases result with
  | ok value => exact continued value (satisfied value rfl)
  | error error => exact refused error

theorem Reads.bind {program : Prog R ε α} {rest : α → Prog R ε β}
    {facts : α → Prop} {conclusion : β → Prop}
    (reads : world.Reads program facts state)
    (continued : ∀ value, facts value →
      world.Reads (rest value) conclusion state) :
    world.Reads (program >>= rest) conclusion state := by
  refine reads.ensures_bind ?_ continued
  intro error
  exact ⟨rfl, fun _ impossible => nomatch impossible⟩

theorem reads_pure {value : α} {facts : α → Prop} (holds : facts value) :
    world.Reads (.pure value : Prog R ε α) facts state := by
  refine ensures_prog_pure.mpr ⟨rfl, ?_⟩
  rintro other same
  cases same
  exact holds

theorem reads_throw {error : ε} {facts : α → Prop} :
    world.Reads (.throw error : Prog R ε α) facts state :=
  ensures_throw.mpr ⟨rfl, fun _ impossible => nomatch impossible⟩

theorem reads_throwIf {condition : Prop} [Decidable condition] {error : ε} :
    world.Reads (Prog.throwIf condition error : Prog R ε Unit)
      (fun _ => ¬ condition) state := by
  refine ensures_throwIf.mpr ⟨fun _ => ?_, fun fails => ?_⟩
  · exact ⟨rfl, fun _ impossible => nomatch impossible⟩
  · exact ⟨rfl, fun _ _ => fails⟩

theorem Reads.mono {program : Prog R ε α} {facts weaker : α → Prop}
    (reads : world.Reads program facts state)
    (weaken : ∀ value, facts value → weaker value) :
    world.Reads program weaker state :=
  Ensures.mono reads fun _ _ satisfied =>
    ⟨satisfied.1, fun value same => weaken value (satisfied.2 value same)⟩

/-- The program leaves the state alone, never throws, and returns a value
satisfying `facts`. -/
def Returns (world : World R O σ) (program : Prog R ε α) (facts : α → Prop)
    (state : σ) : Prop :=
  world.Ensures program
    (fun result final =>
      final = state ∧ ∃ value, result = .ok value ∧ facts value) state

theorem Returns.ensures_bind {program : Prog R ε α} {rest : α → Prog R ε β}
    {facts : α → Prop} {post : Except ε β → σ → Prop}
    (returns : world.Returns program facts state)
    (continued : ∀ value, facts value → world.Ensures (rest value) post state) :
    world.Ensures (program >>= rest) post state := by
  rw [World.ensures_bind]
  refine Ensures.mono returns ?_
  intro result final given
  obtain ⟨rfl, value, rfl, holds⟩ := given
  exact continued value holds

theorem returns_pure {value : α} {facts : α → Prop} (holds : facts value) :
    world.Returns (.pure value : Prog R ε α) facts state :=
  ensures_prog_pure.mpr ⟨rfl, value, rfl, holds⟩

theorem returns_throwIf {condition : Prop} [Decidable condition] {error : ε}
    (fails : ¬ condition) :
    world.Returns (Prog.throwIf condition error : Prog R ε Unit)
      (fun _ => True) state := by
  refine ensures_throwIf.mpr ⟨fun holds => absurd holds fails, fun _ => ?_⟩
  exact ⟨rfl, (), rfl, trivial⟩

theorem Returns.mono {program : Prog R ε α} {facts weaker : α → Prop}
    (returns : world.Returns program facts state)
    (weaken : ∀ value, facts value → weaker value) :
    world.Returns program weaker state := by
  refine Ensures.mono returns ?_
  intro result final given
  obtain ⟨same, value, returned, holds⟩ := given
  exact ⟨same, value, returned, weaken value holds⟩

theorem Returns.reads {program : Prog R ε α} {facts : α → Prop}
    (returns : world.Returns program facts state) :
    world.Reads program facts state := by
  refine Ensures.mono returns ?_
  intro result final given
  obtain ⟨same, value, rfl, holds⟩ := given
  refine ⟨same, ?_⟩
  rintro other returned
  cases returned
  exact holds

/-- What every permitted query preserves, a program using only permitted
queries preserves. -/
theorem ensures_of_uses {permitted : Q → Prop} {keeps : σ → Prop}
    (preserved : ∀ query, permitted query → ∀ state oracle,
      world.allows state oracle → keeps state →
        keeps (world.exec oracle query state).2)
    {program : Prog R ε α} (uses : program.Uses permitted)
    (start : keeps state) :
    world.Ensures program (fun _ final => keeps final) state := by
  induction program generalizing state with
  | pure value => exact ensures_prog_pure.mpr start
  | throw error => exact ensures_throw.mpr start
  | ask query next induction =>
      rw [ensures_ask]
      intro oracle allowed
      exact induction _ (uses.2 _)
        (preserved query uses.1 state oracle allowed start)

/-- The program can be executed from `state` until `later` is left of it. -/
inductive Reaches (world : World R O σ) :
    Prog R ε α → σ → Prog R ε α → σ → Prop
  | here {program : Prog R ε α} {state : σ} :
      Reaches world program state program state
  | ask {query : Q} {next : R query → Prog R ε α} {later : Prog R ε α}
      {state final : σ} (oracle : O) (allowed : world.allows state oracle)
      (rest : Reaches world (next (world.exec oracle query state).1)
        (world.exec oracle query state).2 later final) :
      Reaches world (.ask query next) state later final

/-- A run that returns a value reaches what the program does with it. -/
theorem Runs.reaches {program : Prog R ε α} {rest : α → Prog R ε β} {value : α}
    {middle : σ} (runs : world.Runs program state (.ok value) middle) :
    world.Reaches (program >>= rest) state (rest value) middle := by
  generalize answered : (Except.ok value : Except ε α) = result at runs
  induction runs with
  | pure =>
      cases answered
      exact .here
  | throw => cases answered
  | ask oracle allowed later induction =>
      exact .ask oracle allowed (induction answered)

/-- A run of two programs in a row fails in the first one, or goes through it. -/
theorem Runs.of_bind {program : Prog R ε α} {rest : α → Prog R ε β}
    {result : Except ε β} {final : σ}
    (runs : world.Runs (program >>= rest) state result final) :
    (∃ error, result = .error error ∧
      world.Runs program state (.error error) final) ∨
    ∃ value middle, world.Runs program state (.ok value) middle ∧
      world.Runs (rest value) middle result final := by
  induction program generalizing state with
  | pure value => exact .inr ⟨value, state, .pure, runs⟩
  | throw error =>
      cases runs
      exact .inl ⟨error, rfl, .throw⟩
  | ask query next induction =>
      cases runs with
      | ask oracle allowed later =>
          rcases induction _ later with ⟨error, same, failed⟩ |
            ⟨value, middle, first, second⟩
          · exact .inl ⟨error, same, .ask oracle allowed failed⟩
          · exact .inr ⟨value, middle, .ask oracle allowed first, second⟩

/-- Running a program against a stream of oracles. -/
def run (world : World R O σ) : (Nat → O) → Prog R ε α → σ → Except ε α × σ
  | _, .pure value, state => (.ok value, state)
  | _, .throw error, state => (.error error, state)
  | oracles, .ask query next, state =>
      world.run (fun index => oracles (index + 1))
        (next (world.exec (oracles 0) query state).1)
        (world.exec (oracles 0) query state).2

theorem runs_run {oracles : Nat → O}
    (allowed : ∀ index state, world.allows state (oracles index))
    (program : Prog R ε α) (state : σ) :
    world.Runs program state (world.run oracles program state).1
      (world.run oracles program state).2 := by
  induction program generalizing oracles state with
  | pure value => exact .pure
  | throw error => exact .throw
  | ask query next induction =>
      exact .ask (oracles 0) (allowed 0 state)
        (induction _ (fun index => allowed (index + 1)) _)

end World

end BudBreeding.Program
