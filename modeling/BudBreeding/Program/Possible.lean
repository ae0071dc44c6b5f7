import BudBreeding.Program.Sequential

namespace BudBreeding.Program.World

/-! What a program can do: runs that exist, next to those that are ruled out. -/

variable {Q : Type} {R : Q → Type} {O σ ε α β : Type}

/-- Some run of the program from `state` ends in an outcome satisfying `post`. -/
def May (world : World R O σ) (program : Prog R ε α)
    (post : Except ε α → σ → Prop) (state : σ) : Prop :=
  ∃ result final, world.Runs program state result final ∧ post result final

variable {world : World R O σ} {state : σ}

theorem May.bind {program : Prog R ε α} {rest : α → Prog R ε β}
    {post : Except ε β → σ → Prop}
    (may : world.May program (fun result middle =>
      match result with
      | .ok value => world.May (rest value) post middle
      | .error error => post (.error error) middle) state) :
    world.May (program >>= rest) post state := by
  obtain ⟨result, middle, runs, holds⟩ := may
  induction runs with
  | pure => exact holds
  | throw => exact ⟨_, _, .throw, holds⟩
  | ask oracle allowed later induction =>
      obtain ⟨answer, final, runs, reached⟩ := induction holds
      exact ⟨answer, final, .ask oracle allowed runs, reached⟩

theorem May.map {program : Prog R ε α} {change : α → β}
    {post : Except ε β → σ → Prop}
    (may : world.May program (fun result => post (result.map change)) state) :
    world.May (change <$> program) post state := by
  change world.May (program >>= fun value => .pure (change value)) post state
  apply May.bind
  obtain ⟨result, middle, runs, holds⟩ := may
  refine ⟨result, middle, runs, ?_⟩
  cases result with
  | ok value => exact ⟨_, _, .pure, holds⟩
  | error error => exact holds

end BudBreeding.Program.World
