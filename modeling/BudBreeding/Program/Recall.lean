import BudBreeding.Program.Discipline

namespace BudBreeding.Program

/-! What a thread has asked so far, and what it has been answered. -/

/-- A query with the answer it was given. -/
structure Asked {Q : Type} (R : Q → Type) where
  query : Q
  answer : R query

/-- The part a thread plays, and its queries, the oldest first. -/
structure Memory {Q : Type} (κ : Type) (R : Q → Type) where
  role : κ
  past : List (Asked R)

section Recall

variable {Q ι κ O σ ε α β : Type} {R : Q → Type}

/-- Threads that only ask what their own past justifies. -/
def recollect (justified : κ → List (Asked R) → Q → Prop) :
    Protocol R (Memory κ R) where
  advance memory query answer :=
    { memory with past := memory.past ++ [⟨query, answer⟩] }
  legal memory query _ := justified memory.role memory.past query

/-- What the thread has asked in the steps. -/
def asked [DecidableEq ι] {ε α σ : Type} (thread : ι)
    (steps : List (Transition (Pool ι R ε α σ) (Event ι R))) :
    List (Asked R) :=
  (steps.filter fun step => step.label.thread = thread).map fun step =>
    ⟨step.label.query, step.label.answer⟩

section Rules

variable {world : World R O σ} {justified : κ → List (Asked R) → Q → Prop}
  {role : κ} {past : List (Asked R)} {finish : Memory κ R → Except ε β → Prop}

theorem follows_asked {query : Q} {rest : R query → Prog R ε β}
    (granted : justified role past query)
    (continued : ∀ answer, (recollect justified).Follows world finish
      ⟨role, past ++ [⟨query, answer⟩]⟩ (rest answer)) :
    (recollect justified).Follows world finish ⟨role, past⟩
      (Prog.call query >>= rest) :=
  Protocol.follows_call_bind.mpr fun answer _ => ⟨granted, continued answer⟩

variable {free : Q → Prop}
  (granted : ∀ query, free query → ∀ role past, justified role past query)

include granted

/-- Queries that need no grounds. -/
theorem follows_of_free {program : Prog R ε β} (uses : program.Uses free)
    (ends : ∀ extra : List (Asked R), (∀ entry ∈ extra, free entry.query) →
      ∀ result, finish ⟨role, past ++ extra⟩ result) :
    (recollect justified).Follows world finish ⟨role, past⟩ program := by
  induction program generalizing past with
  | pure value =>
      have ended := ends [] (List.forall_mem_nil _) (.ok value)
      rw [List.append_nil] at ended
      exact ended
  | throw error =>
      have ended := ends [] (List.forall_mem_nil _) (.error error)
      rw [List.append_nil] at ended
      exact ended
  | ask query next induction =>
      change (recollect justified).Follows world finish _ (Prog.call query >>= next)
      refine follows_asked (granted query uses.1 role past) fun answer => ?_
      refine induction answer (uses.2 answer) fun extra allowed result => ?_
      rw [List.append_assoc]
      exact ends _ (List.forall_mem_cons.mpr ⟨uses.1, allowed⟩) result

theorem follows_free {program : Prog R ε α} {rest : α → Prog R ε β}
    (uses : program.Uses free)
    (refused : ∀ extra : List (Asked R), (∀ entry ∈ extra, free entry.query) →
      ∀ error, finish ⟨role, past ++ extra⟩ (.error error))
    (continued : ∀ value (extra : List (Asked R)),
      (∀ entry ∈ extra, free entry.query) →
      (recollect justified).Follows world finish ⟨role, past ++ extra⟩
        (rest value)) :
    (recollect justified).Follows world finish ⟨role, past⟩ (program >>= rest) := by
  rw [Protocol.follows_bind]
  refine follows_of_free granted uses fun extra allowed result => ?_
  cases result with
  | ok value => exact continued value extra allowed
  | error error => exact refused extra allowed error

/-- What a program ensures that never looks at the store. -/
theorem follows_of_ensures {program : Prog R ε β} {state : σ}
    {facts : Except ε β → Prop} (indifferent : world.Indifferent)
    (uses : program.Uses fun query => free query ∧ world.Oblivious query)
    (ensures : world.Ensures program (fun result _ => facts result) state)
    (ends : ∀ extra : List (Asked R), (∀ entry ∈ extra, free entry.query) →
      ∀ result, facts result → finish ⟨role, past ++ extra⟩ result) :
    (recollect justified).Follows world finish ⟨role, past⟩ program := by
  induction program generalizing past with
  | pure value =>
      have ended := ends [] (List.forall_mem_nil _) (.ok value)
        (World.ensures_prog_pure.mp ensures)
      rw [List.append_nil] at ended
      exact ended
  | throw error =>
      have ended := ends [] (List.forall_mem_nil _) (.error error)
        (World.ensures_throw.mp ensures)
      rw [List.append_nil] at ended
      exact ended
  | ask query next induction =>
      obtain ⟨⟨allowed, oblivious⟩, rest⟩ := uses
      intro answer possible
      obtain ⟨other, oracle, admitted, rfl⟩ := possible
      refine ⟨granted query allowed role past, ?_⟩
      have after := World.ensures_ask.mp ensures oracle
        (indifferent oracle other state admitted)
      rw [oblivious oracle state other] at after
      refine induction _ (rest _) after fun extra more result holds => ?_
      rw [List.append_assoc]
      exact ends _ (List.forall_mem_cons.mpr ⟨allowed, more⟩) result holds

end Rules

section Runs

variable [DecidableEq ι] {world : World R O σ}
  {justified : κ → List (Asked R) → Q → Prop} {roles : ι → κ}
  {finish : Memory κ R → Except ε α → Prop} {pool final : Pool ι R ε α σ}
  {steps : List (Transition (Pool ι R ε α σ) (Event ι R))}

theorem asked_snoc (thread : ι)
    (step : Transition (Pool ι R ε α σ) (Event ι R)) :
    asked thread (steps ++ [step]) =
      if step.label.thread = thread then
        asked thread steps ++ [⟨step.label.query, step.label.answer⟩]
      else asked thread steps := by
  rw [asked, List.filter_append, List.map_append]
  split
  · next own => simp [asked, own]
  · next other => simp [asked, other]

theorem asked_mono (thread : ι)
    (earlier later : List (Transition (Pool ι R ε α σ) (Event ι R))) :
    asked thread earlier <+: asked thread (earlier ++ later) := by
  rw [asked, asked, List.filter_append, List.map_append]
  exact List.prefix_append _ _

theorem mem_asked {thread : ι} {known : Asked R} :
    known ∈ asked thread steps ↔
      ∃ step ∈ steps, step.label = ⟨thread, known.query, known.answer⟩ := by
  rw [asked, List.mem_map]
  constructor
  · rintro ⟨step, selected, rfl⟩
    obtain ⟨member, own⟩ := List.mem_filter.mp selected
    refine ⟨step, member, ?_⟩
    rw [← of_decide_eq_true own]
  · rintro ⟨step, member, label⟩
    refine ⟨step, List.mem_filter.mpr ⟨member, ?_⟩, ?_⟩
    · rw [label]
      exact decide_eq_true rfl
    · rw [label]

theorem step_of_asked
    (history : History (Pool.Next world) pool steps final) {thread : ι}
    {known : Asked R} (member : known ∈ asked thread steps) :
    ∃ step ∈ steps, step.label = ⟨thread, known.query, known.answer⟩ ∧
      ∃ oracle, world.exec oracle known.query step.source.store =
        (known.answer, step.target.store) := by
  obtain ⟨query, answer⟩ := known
  obtain ⟨⟨source, label, target⟩, listed, labelled⟩ := mem_asked.mp member
  have made : Pool.Next world source label target :=
    (history.source_mem_states listed).2.2
  refine ⟨_, listed, labelled, ?_⟩
  dsimp only at labelled ⊢
  cases made with
  | ask oracle waiting allowed =>
      cases labelled
      exact ⟨oracle, rfl⟩

/-- What a thread has been answered is what the store gave it at some step. -/
theorem answered_of_history
    (history : History (Pool.Next world) pool steps final) {thread : ι}
    {known : Asked R} (member : known ∈ asked thread steps) :
    ∃ step ∈ steps, step.label.thread = thread ∧
      ∃ oracle, world.exec oracle known.query step.source.store =
        (known.answer, step.target.store) := by
  obtain ⟨step, listed, label, answered⟩ := step_of_asked history member
  exact ⟨step, listed, by rw [label], answered⟩

/-- The stage of a thread is what it has asked. -/
theorem stages_recollect :
    (recollect justified).stages (fun thread => ⟨roles thread, []⟩) steps =
      fun thread => ⟨roles thread, asked thread steps⟩ := by
  induction steps using List.reverseRecOn with
  | nil => rfl
  | append_singleton steps step induction =>
      rw [Protocol.stages_snoc, induction]
      funext thread
      rw [asked_snoc]
      by_cases own : step.label.thread = thread
      · rw [own, Function.update_self, if_pos rfl]
        rfl
      · rw [Function.update_of_ne (Ne.symm own), if_neg own]

/-- A thread that has ended has asked all it had to. -/
theorem finished_of_history
    (history : History (Pool.Next world) pool steps final)
    (abide : ∀ thread, (recollect justified).Follows world finish
      ⟨roles thread, []⟩ (pool.threads thread))
    {thread : ι} {result : Except ε α}
    (ended : final.threads thread = Prog.ofExcept result) :
    finish ⟨roles thread, asked thread steps⟩ result := by
  have follows := Protocol.follows_of_history history abide thread
  rw [ended, stages_recollect] at follows
  cases result <;> exact follows

/-- However the threads are interleaved, every query is justified by what its own
thread has asked before. -/
theorem justified_of_history
    (history : History (Pool.Next world) pool steps final)
    (abide : ∀ thread, (recollect justified).Follows world finish
      ⟨roles thread, []⟩ (pool.threads thread)) :
    Everywhere (fun earlier step =>
      justified (roles step.label.thread) (asked step.label.thread earlier)
        step.label.query) steps := by
  induction history with
  | nil => exact everywhere_nil
  | snoc earlier step induction =>
      cases step with
      | @ask thread query next oracle waiting allowed =>
          have follows := Protocol.follows_of_history earlier abide thread
          rw [waiting, stages_recollect] at follows
          exact everywhere_snoc.mpr
            ⟨induction, (follows _ ⟨_, oracle, allowed, rfl⟩).1⟩

end Runs

end Recall

end BudBreeding.Program
