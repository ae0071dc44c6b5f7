import BudBreeding.Program.Pool

namespace BudBreeding.Program

/-! Threads that run one after the other: where no two of them overlap, running a
pool is running its programs alone. -/

namespace History

variable {σ ℓ : Type} {next : σ → ℓ → σ → Prop} {start middle final : σ}
  {left right : List (Transition σ ℓ)}

theorem append (before : History next start left middle)
    (after : History next middle right final) :
    History next start (left ++ right) final := by
  induction after with
  | nil => rwa [List.append_nil]
  | snoc earlier step induction =>
      rw [← List.append_assoc]
      exact induction.snoc step

theorem split (history : History next start (left ++ right) final) :
    ∃ middle, History next start left middle ∧
      History next middle right final := by
  induction right using List.reverseRecOn generalizing final with
  | nil =>
      rw [List.append_nil] at history
      exact ⟨final, history, .nil⟩
  | append_singleton right last induction =>
      rw [← List.append_assoc] at history
      generalize joined : (left ++ right) ++ [last] = steps at history
      cases history with
      | nil => exact absurd joined (List.concat_ne_nil _ _)
      | snoc earlier step =>
          obtain ⟨rfl, same⟩ := List.append_inj' joined rfl
          obtain ⟨middle, before, after⟩ := induction earlier
          rw [List.singleton_inj.mp same]
          exact ⟨middle, before, after.snoc step⟩

end History

variable {Q O σ ε α : Type} {R : Q → Type} {world : World R O σ}

section Alone

variable {ι : Type} [DecidableEq ι] {thread : ι} {pool final : Pool ι R ε α σ}
  {steps : List (Transition (Pool ι R ε α σ) (Event ι R))}

/-- A program that runs alone runs so in a pool where the others wait. -/
theorem history_of_runs {program : Prog R ε α} {state last : σ}
    {result : Except ε α} (runs : world.Runs program state result last)
    {threads : ι → Prog R ε α} (own : threads thread = program) :
    ∃ steps, (∀ step ∈ steps, step.label.thread = thread) ∧
      History (Pool.Next world) ⟨state, threads⟩ steps
        ⟨last, Function.update threads thread (.ofExcept result)⟩ := by
  induction runs generalizing threads with
  | pure =>
      refine ⟨[], List.forall_mem_nil _, ?_⟩
      rw [Prog.ofExcept, ← own, Function.update_eq_self]
      exact .nil
  | throw =>
      refine ⟨[], List.forall_mem_nil _, ?_⟩
      rw [Prog.ofExcept, ← own, Function.update_eq_self]
      exact .nil
  | @ask query next state _ _ oracle allowed _ induction =>
      obtain ⟨steps, alone, history⟩ := induction
        (Function.update_self thread
          (next (world.exec oracle query state).1) threads)
      rw [Function.update_idem] at history
      have first : Pool.Next world ⟨state, threads⟩ _ _ :=
        .ask oracle own allowed
      exact ⟨_ :: steps, List.forall_mem_cons.mpr ⟨rfl, alone⟩,
        (History.nil.snoc first).append history⟩

theorem untouched (history : History (Pool.Next world) pool steps final)
    (others : ∀ step ∈ steps, step.label.thread ≠ thread) :
    final.threads thread = pool.threads thread := by
  induction history with
  | nil => rfl
  | snoc earlier step induction =>
      obtain ⟨before, last⟩ := List.forall_mem_append.mp others
      rw [← induction before]
      cases step with
      | ask oracle waiting allowed =>
          exact Function.update_of_ne
            (last _ List.mem_cons_self).symm _ _

/-- A thread that is alone to take steps, up to its end, runs its program. -/
theorem runs_of_history (history : History (Pool.Next world) pool steps final)
    (alone : ∀ step ∈ steps, step.label.thread = thread)
    {result : Except ε α} {last : σ}
    (rest : world.Runs (final.threads thread) final.store result last) :
    world.Runs (pool.threads thread) pool.store result last := by
  induction history with
  | nil => exact rest
  | snoc earlier step induction =>
      obtain ⟨before, own⟩ := List.forall_mem_append.mp alone
      cases step with
      | @ask mine query next oracle waiting allowed =>
          obtain rfl : mine = thread := own _ List.mem_cons_self
          refine induction before ?_
          rw [waiting]
          refine .ask oracle allowed ?_
          simpa only [Pool.transition, Function.update_self] using rest

end Alone

/-- The programs run one after the other, each from where the one before ended. -/
inductive Serves (world : World R O σ) (programs : Nat → Prog R ε α)
    (start : σ) : List (Except ε α) → σ → Prop
  | nil : Serves world programs start [] start
  | snoc {results : List (Except ε α)} {state last : σ} {result : Except ε α}
      (earlier : Serves world programs start results state)
      (runs : world.Runs (programs results.length) state result last) :
      Serves world programs start (results ++ [result]) last

/-- What is left of the programs when the first ones have ended. -/
def remaining (programs : Nat → Prog R ε α) (results : List (Except ε α)) :
    Nat → Prog R ε α :=
  fun thread =>
    match results[thread]? with
    | some result => .ofExcept result
    | none => programs thread

section Remaining

variable {programs : Nat → Prog R ε α} {results : List (Except ε α)}

theorem remaining_length : remaining programs results results.length =
    programs results.length := by
  simp [remaining]

theorem remaining_snoc (result : Except ε α) :
    remaining programs (results ++ [result]) =
      Function.update (remaining programs results) results.length
        (.ofExcept result) := by
  funext thread
  rcases lt_trichotomy thread results.length with below | rfl | above
  · rw [Function.update_of_ne below.ne]
    simp [remaining, List.getElem?_append_left below]
  · rw [Function.update_self]
    simp [remaining]
  · rw [Function.update_of_ne above.ne']
    have ended : (results ++ [result])[thread]? = none := by
      rw [List.getElem?_eq_none_iff, List.length_append, List.length_singleton]
      exact above
    simp [remaining, ended, List.getElem?_eq_none above.le]

end Remaining

section Turns

variable {programs : Nat → Prog R ε α} {start last : σ}
  {results : List (Except ε α)}
  {steps : List (Transition (Pool Nat R ε α σ) (Event Nat R))}
  {final : Pool Nat R ε α σ}

/-- The first threads take steps only, each when those before it are done. -/
def InTurn (count : Nat)
    (steps : List (Transition (Pool Nat R ε α σ) (Event Nat R))) : Prop :=
  (∀ step ∈ steps, step.label.thread < count) ∧
    steps.Pairwise fun earlier later =>
      earlier.label.thread ≤ later.label.thread

theorem history_of_serves (serves : Serves world programs start results last) :
    ∃ steps, InTurn results.length steps ∧
      History (Pool.Next world) ⟨start, programs⟩ steps
        ⟨last, remaining programs results⟩ := by
  induction serves with
  | nil => exact ⟨[], ⟨List.forall_mem_nil _, List.Pairwise.nil⟩, .nil⟩
  | @snoc results state last result earlier runs induction =>
      obtain ⟨steps, ⟨below, ordered⟩, history⟩ := induction
      obtain ⟨more, alone, further⟩ := history_of_runs runs
        remaining_length
      rw [← remaining_snoc] at further
      refine ⟨steps ++ more, ⟨?_, ?_⟩, history.append further⟩
      · rw [List.length_append, List.length_singleton]
        intro step member
        rcases List.mem_append.mp member with old | new
        · exact (below step old).trans (Nat.lt_succ_self _)
        · rw [alone step new]
          exact Nat.lt_succ_self _
      · refine List.pairwise_append.mpr ⟨ordered, ?_, ?_⟩
        · refine List.pairwise_of_forall_mem_list ?_
          intro first one second two
          rw [alone first one, alone second two]
        · intro first old second new
          rw [alone second new]
          exact (below first old).le

theorem InTurn.split {count : Nat} (turns : InTurn (count + 1) steps) :
    ∃ before after, steps = before ++ after ∧ InTurn count before ∧
      ∀ step ∈ after, step.label.thread = count := by
  obtain ⟨below, ordered⟩ := turns
  induction steps with
  | nil => exact ⟨[], [], rfl, ⟨List.forall_mem_nil _, .nil⟩, List.forall_mem_nil _⟩
  | cons step rest induction =>
      obtain ⟨least, ordered⟩ := List.pairwise_cons.mp ordered
      obtain ⟨first, others⟩ := List.forall_mem_cons.mp below
      by_cases last : step.label.thread = count
      · refine ⟨[], step :: rest, rfl, ⟨List.forall_mem_nil _, .nil⟩, ?_⟩
        refine List.forall_mem_cons.mpr ⟨last, fun other member => ?_⟩
        have bound := others other member
        have above := least other member
        omega
      · obtain ⟨before, after, rfl, ⟨low, sorted⟩, alone⟩ :=
          induction others ordered
        refine ⟨step :: before, after, rfl, ⟨?_, ?_⟩, alone⟩
        · exact List.forall_mem_cons.mpr ⟨by omega, low⟩
        · exact List.pairwise_cons.mpr
            ⟨fun other member => least other (List.mem_append_left _ member),
              sorted⟩

theorem serves_of_history
    (history : History (Pool.Next world) ⟨start, programs⟩ steps final)
    (turns : InTurn results.length steps)
    (ended : final.threads = remaining programs results) :
    Serves world programs start results final.store := by
  induction results using List.reverseRecOn generalizing steps final with
  | nil =>
      obtain ⟨none, -⟩ := turns
      cases history with
      | nil => exact .nil
      | snoc earlier step =>
          exact absurd (none _ (List.mem_append_right _ List.mem_cons_self))
            (Nat.not_lt_zero _)
  | append_singleton results result induction =>
      rw [List.length_append, List.length_singleton] at turns
      obtain ⟨before, after, rfl, first, alone⟩ := turns.split
      obtain ⟨middle, earlier, later⟩ := history.split
      have fresh : middle.threads results.length = programs results.length :=
        untouched earlier fun step member => (first.1 step member).ne
      have reached : middle.threads = remaining programs results := by
        funext thread
        by_cases own : thread = results.length
        · rw [own, fresh, remaining_length]
        · rw [← untouched later fun step member => (alone step member).trans_ne
            (Ne.symm own), ended, remaining_snoc, Function.update_of_ne own]
      refine (induction earlier first reached).snoc ?_
      rw [← fresh]
      refine runs_of_history later alone ?_
      rw [ended, remaining_snoc, Function.update_self]
      cases result with
      | ok value => exact .pure
      | error error => exact .throw

/-- Where the threads do not overlap, the pool does what its programs do one after
the other. -/
theorem serves_iff : Serves world programs start results last ↔
    ∃ steps, InTurn results.length steps ∧
      History (Pool.Next world) ⟨start, programs⟩ steps
        ⟨last, remaining programs results⟩ :=
  ⟨history_of_serves, fun ⟨_, turns, history⟩ =>
    serves_of_history history turns rfl⟩

end Turns

end BudBreeding.Program
