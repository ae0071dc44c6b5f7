import BudBreeding.Program.Sequential

namespace BudBreeding.Program

/-! Runs that put every call of a program on record. -/

/-- A query and the oracle that answered it. -/
structure Call (Q O : Type) where
  query : Q
  oracle : O

def Answered {Q O : Type} (calls : List (Call Q O)) (oracle : O) : Prop :=
  ∃ call ∈ calls, call.oracle = oracle

namespace World

variable {Q : Type} {R : Q → Type} {O σ ε α : Type}

/-- The same surroundings, in which only some of the oracles answer. -/
def restrict (world : World R O σ) (among : O → Prop) : World R O σ where
  exec := world.exec
  allows := fun state oracle => world.allows state oracle ∧ among oracle

/-- The same surroundings, which write down every call. -/
def recorded (world : World R O σ) : World R O (σ × List (Call Q O)) where
  exec := fun oracle query state =>
    ((world.exec oracle query state.1).1,
      (world.exec oracle query state.1).2, state.2 ++ [⟨query, oracle⟩])
  allows := fun state oracle => world.allows state.1 oracle

variable {world : World R O σ} {program : Prog R ε α} {result : Except ε α}

theorem Runs.widen {fewer more : O → Prop} {start final : σ}
    (runs : (world.restrict fewer).Runs program start result final)
    (included : ∀ oracle, fewer oracle → more oracle) :
    (world.restrict more).Runs program start result final := by
  induction runs with
  | pure => exact .pure
  | throw => exact .throw
  | ask oracle allowed rest induction =>
      exact .ask oracle ⟨allowed.1, included oracle allowed.2⟩ induction

theorem Runs.unrestricted {among : O → Prop} {start final : σ}
    (runs : (world.restrict among).Runs program start result final) :
    world.Runs program start result final := by
  induction runs with
  | pure => exact .pure
  | throw => exact .throw
  | ask oracle allowed rest induction => exact .ask oracle allowed.1 induction

theorem Runs.exists_calls {start final : σ × List (Call Q O)}
    (runs : world.recorded.Runs program start result final) :
    ∃ calls, final.2 = start.2 ++ calls ∧
      (world.restrict (Answered calls)).Runs program start.1 result final.1 := by
  induction runs with
  | pure => exact ⟨[], (List.append_nil _).symm, .pure⟩
  | throw => exact ⟨[], (List.append_nil _).symm, .throw⟩
  | @ask query next state final result oracle allowed rest induction =>
      obtain ⟨calls, recorded, runs⟩ := induction
      refine ⟨⟨query, oracle⟩ :: calls, ?_, ?_⟩
      · rw [recorded]
        change state.2 ++ [_] ++ calls = _
        rw [List.append_assoc, List.singleton_append]
      · have included : ∀ other, Answered calls other →
            Answered (⟨query, oracle⟩ :: calls) other := by
          intro other answered
          obtain ⟨call, member, same⟩ := answered
          exact ⟨call, List.mem_cons_of_mem _ member, same⟩
        exact .ask oracle ⟨allowed, ⟨query, oracle⟩, List.mem_cons_self, rfl⟩
          (runs.widen included)

/-- What the program ensures whenever the oracles on record answer, it ensures
while it is recorded. -/
theorem ensures_recorded {post : Except ε α → σ × List (Call Q O) → Prop}
    {state : σ} {record : List (Call Q O)}
    (every : ∀ calls, (world.restrict (Answered calls)).Ensures program
      (fun result final => post result (final, record ++ calls)) state) :
    world.recorded.Ensures program post (state, record) := by
  intro result final runs
  obtain ⟨calls, recorded, narrow⟩ := runs.exists_calls
  have reached := every calls result final.1 narrow
  rw [← recorded] at reached
  exact reached

end World

end BudBreeding.Program
