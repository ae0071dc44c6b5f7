import BudBreeding.Concurrency.Guarantees
import BudBreeding.Program.Serial

namespace BudBreeding.Concurrency

open Data Program Backend

/-! A run of one request after the other is an interleaving of requests that do not
overlap. -/

variable {app : App} {admitted : Oracle → Prop} {db after : Db}
  {requests : Nat → Request} {responses : List (Except Failure Response)}

/-- The requests in their order, with their responses. -/
def exchanged (requests : Nat → Request)
    (responses : List (Except Failure Response)) : List Exchange :=
  responses.mapIdx fun position response => ⟨requests position, response⟩

theorem exchanged_snoc (response : Except Failure Response) :
    exchanged requests (responses ++ [response]) =
      exchanged requests responses ++ [⟨requests responses.length, response⟩] :=
  List.mapIdx_concat

theorem serves_of_run {steps : List (Transition Db Exchange)}
    (run : Run app admitted db steps after)
    (same : steps.map Transition.label = exchanged requests responses) :
    Serves (surroundings admitted) (fun thread => handle app (requests thread))
      db responses after := by
  induction run generalizing responses with
  | nil =>
      obtain rfl : responses = [] := List.mapIdx_eq_nil_iff.mp same.symm
      exact .nil
  | snoc earlier handled induction =>
      rcases List.eq_nil_or_concat responses with rfl | ⟨before, response, rfl⟩
      · simp [exchanged] at same
      · rw [List.concat_eq_append, exchanged_snoc, List.map_append] at same
        obtain ⟨labels, last⟩ := List.append_inj' same rfl
        rw [List.map_singleton, List.singleton_inj] at last
        change _ = _ at last
        subst last
        rw [List.concat_eq_append]
        exact (induction labels).snoc handled

theorem run_of_serves (serves : Serves (surroundings admitted)
      (fun thread => handle app (requests thread)) db responses after) :
    ∃ steps, Run app admitted db steps after ∧
      steps.map Transition.label = exchanged requests responses := by
  induction serves with
  | nil => exact ⟨[], .nil, rfl⟩
  | @snoc responses state last response earlier runs induction =>
      obtain ⟨steps, run, same⟩ := induction
      have handled : Handles app admitted state
          ⟨requests responses.length, response⟩ last := runs
      refine ⟨_, run.snoc handled, ?_⟩
      rw [List.map_append, same, exchanged_snoc]
      rfl

/-- Requests that are handled one after the other, with these responses, are requests
that are interleaved without an overlap, each of which has ended so. -/
theorem run_iff_in_turn (app : App) (admitted : Oracle → Prop)
    (requests : Nat → Request) (responses : List (Except Failure Response))
    (db after : Db) :
    (∃ steps, Run app admitted db steps after ∧
        steps.map Transition.label = exchanged requests responses) ↔
      ∃ steps, InTurn responses.length steps ∧
        Interleaving app admitted requests db steps
          ⟨after, remaining (fun thread => handle app (requests thread))
            responses⟩ := by
  refine Iff.trans ?_ serves_iff
  constructor
  · rintro ⟨steps, run, same⟩
    exact serves_of_run run same
  · exact run_of_serves

/-- The request at a position of a run; `other` stands for those behind its end. -/
def requestAt (other : Request) (steps : List (Transition Db Exchange))
    (position : Nat) : Request :=
  (steps[position]?).elim other fun step => step.label.request

/-- At the end only the requests behind the run have anything to ask. -/
theorem interleaving_of_run {steps : List (Transition Db Exchange)}
    (run : Run app admitted db steps after) (other : Request) :
    ∃ calls final, Interleaving app admitted (requestAt other steps) db calls
        final ∧ final.store = after ∧
      ∀ thread, (final.threads thread).Waits →
        requestAt other steps thread = other := by
  have same : steps.map Transition.label = exchanged (requestAt other steps)
      (steps.map fun step => step.label.response) := by
    apply List.ext_getElem?
    intro position
    rw [exchanged, List.getElem?_map, List.getElem?_mapIdx, List.getElem?_map,
      requestAt]
    cases steps[position]? <;> rfl
  obtain ⟨calls, -, interleaving⟩ := history_of_serves (serves_of_run run same)
  refine ⟨calls, _, interleaving, rfl, ?_⟩
  rintro thread ⟨query, next, waiting⟩
  simp only [remaining, List.getElem?_map] at waiting
  rw [requestAt]
  cases found : steps[thread]? with
  | none => rfl
  | some step =>
      rw [found] at waiting
      cases answer : step.label.response <;>
        simp [answer, Prog.ofExcept] at waiting

end BudBreeding.Concurrency
