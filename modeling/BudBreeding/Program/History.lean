import Mathlib.Data.List.DropRight
import Mathlib.Data.List.Nodup

namespace BudBreeding.Program

/-! Labelled runs of a transition relation, recorded step by step. -/

structure Transition (σ ℓ : Type) where
  source : σ
  label : ℓ
  target : σ

inductive History {σ ℓ : Type} (next : σ → ℓ → σ → Prop) (start : σ) :
    List (Transition σ ℓ) → σ → Prop
  | nil : History next start [] start
  | snoc {steps : List (Transition σ ℓ)} {current target : σ} {label : ℓ}
      (earlier : History next start steps current)
      (step : next current label target) :
      History next start (steps ++ [⟨current, label, target⟩]) target

/-- `good` holds of every step, given the steps taken before it. -/
def Everywhere {τ : Type} (good : List τ → τ → Prop) (steps : List τ) : Prop :=
  ∀ earlier step later, steps = earlier ++ step :: later → good earlier step

variable {σ ℓ τ : Type} {next : σ → ℓ → σ → Prop} {start final : σ}
  {steps : List (Transition σ ℓ)} {good : List τ → τ → Prop}

@[simp] theorem everywhere_nil : Everywhere good [] := by
  intro earlier step later split
  simp at split

@[simp] theorem everywhere_true (steps : List τ) :
    Everywhere (fun _ _ => True) steps :=
  fun _ _ _ _ => trivial

theorem everywhere_of_forall {always : τ → Prop} {steps : List τ}
    (all : ∀ step ∈ steps, always step) :
    Everywhere (fun _ => always) steps := by
  intro earlier step later split
  apply all
  rw [split]
  exact List.mem_append_right _ List.mem_cons_self

theorem everywhere_snoc {steps : List τ} {last : τ} :
    Everywhere good (steps ++ [last]) ↔
      Everywhere good steps ∧ good steps last := by
  constructor
  · intro all
    constructor
    · intro earlier step later split
      exact all earlier step (later ++ [last]) (by simp [split])
    · exact all steps last [] rfl
  · rintro ⟨all, atLast⟩ earlier step later split
    rcases List.eq_nil_or_concat later with rfl | ⟨rest, final, rfl⟩
    · have same := List.append_inj' split (by simp)
      obtain ⟨rfl, tail⟩ := same
      cases tail
      exact atLast
    · have shape : steps ++ [last] = (earlier ++ step :: rest) ++ [final] := by
        simpa using split
      exact all earlier step rest (List.append_inj' shape (by simp)).1

def upTo (selects : τ → Bool) (steps : List τ) : List τ :=
  steps.rdropWhile fun step => !selects step

theorem upTo_snoc_of_selected {selects : τ → Bool} {steps : List τ} {last : τ}
    (selected : selects last = true) :
    upTo selects (steps ++ [last]) = steps ++ [last] :=
  List.rdropWhile_concat_neg _ _ _ (by simp [selected])

theorem upTo_snoc_of_passed {selects : τ → Bool} {steps : List τ} {last : τ}
    (passed : selects last = false) :
    upTo selects (steps ++ [last]) = upTo selects steps :=
  List.rdropWhile_concat_pos _ _ _ (by simp [passed])

def states (start : σ) (steps : List (Transition σ ℓ)) : List σ :=
  start :: steps.map Transition.target

theorem states_snoc {step : Transition σ ℓ} :
    states start (steps ++ [step]) = states start steps ++ [step.target] := by
  simp [states]

namespace History

/-- Induction over a run: an invariant of the steps taken so far and the state
they lead to, kept by every step that is good after them. -/
theorem induct {keeps : List (Transition σ ℓ) → σ → Prop}
    {good : List (Transition σ ℓ) → Transition σ ℓ → Prop}
    (history : History next start steps final)
    (holds : Everywhere good steps) (base : keeps [] start)
    (preserved : ∀ steps current label target,
      History next start steps current → keeps steps current →
      next current label target → good steps ⟨current, label, target⟩ →
      keeps (steps ++ [⟨current, label, target⟩]) target) :
    keeps steps final := by
  induction history with
  | nil => exact base
  | snoc earlier step induction =>
      obtain ⟨before, atStep⟩ := everywhere_snoc.mp holds
      exact preserved _ _ _ _ earlier (induction before) step atStep

theorem final_mem_states (history : History next start steps final) :
    final ∈ states start steps := by
  cases history with
  | nil => exact List.mem_singleton_self start
  | snoc earlier step =>
      rw [states_snoc]
      exact List.mem_append_right _ (List.mem_singleton_self _)

theorem source_mem_states (history : History next start steps final)
    {step : Transition σ ℓ} (member : step ∈ steps) :
    step.source ∈ states start steps ∧ step.target ∈ states start steps ∧
      next step.source step.label step.target := by
  induction history with
  | nil => exact absurd member List.not_mem_nil
  | @snoc steps current target label earlier last induction =>
      have reached := earlier.final_mem_states
      rw [states_snoc]
      rcases List.mem_append.mp member with before | atLast
      · obtain ⟨source, target, made⟩ := induction before
        exact ⟨List.mem_append_left _ source, List.mem_append_left _ target,
          made⟩
      · rw [List.mem_singleton] at atLast
        subst atLast
        exact ⟨List.mem_append_left _ reached, by simp, last⟩

theorem everywhere_reached (history : History next start steps final) :
    Everywhere (fun earlier step => History next start earlier step.source ∧
      next step.source step.label step.target) steps := by
  induction history with
  | nil => exact everywhere_nil
  | snoc earlier step induction => exact everywhere_snoc.mpr ⟨induction, earlier, step⟩

/-- A run leads to every state of it. -/
theorem exists_of_mem_states (history : History next start steps final)
    {state : σ} (member : state ∈ states start steps) :
    ∃ earlier, History next start earlier state := by
  induction history with
  | nil =>
      rw [List.mem_singleton.mp member]
      exact ⟨[], .nil⟩
  | snoc earlier step induction =>
      rw [states_snoc] at member
      rcases List.mem_append.mp member with old | new
      · exact induction old
      · rw [List.mem_singleton.mp new]
        exact ⟨_, earlier.snoc step⟩

/-- What holds at the start and is kept by every step of a run holds in every
state of the run. -/
theorem forall_states {keeps : σ → Prop}
    (history : History next start steps final) (base : keeps start)
    (preserved : ∀ step ∈ steps, keeps step.source →
      next step.source step.label step.target → keeps step.target) :
    ∀ state ∈ states start steps, keeps state := by
  suffices both : keeps final ∧ ∀ state ∈ states start steps, keeps state from
    both.2
  induction history with
  | nil => exact ⟨base, by simpa [states] using base⟩
  | snoc earlier step induction =>
      obtain ⟨atCurrent, before⟩ := induction fun step member =>
        preserved step (List.mem_append_left _ member)
      have atTarget := preserved _ (List.mem_append_right _ List.mem_cons_self)
        atCurrent step
      refine ⟨atTarget, ?_⟩
      intro state member
      rw [states_snoc, List.mem_append, List.mem_singleton] at member
      rcases member with old | rfl
      · exact before state old
      · exact atTarget

/-- What holds at the start, and after every step before which it has always held,
holds in every state of the run. -/
theorem forall_states_of_past {keeps : σ → Prop}
    (history : History next start steps final) (base : keeps start)
    (preserved : Everywhere (fun earlier step =>
      (∀ state ∈ states start earlier, keeps state) → keeps step.target) steps) :
    ∀ state ∈ states start steps, keeps state := by
  induction history with
  | nil =>
      intro state member
      rw [List.mem_singleton.mp member]
      exact base
  | snoc earlier step induction =>
      obtain ⟨before, atLast⟩ := everywhere_snoc.mp preserved
      have past := induction before
      intro state member
      rw [states_snoc] at member
      rcases List.mem_append.mp member with old | new
      · exact past state old
      · rw [List.mem_singleton.mp new]
        exact atLast past

/-- A preorder that every step respects relates every state of a run to every
later one. -/
theorem pairwise_states {relation : σ → σ → Prop}
    (refl : ∀ state, relation state state)
    (trans : ∀ first second third, relation first second →
      relation second third → relation first third)
    (history : History next start steps final)
    (respects : ∀ step ∈ steps, relation step.source step.target) :
    (states start steps).Pairwise relation := by
  suffices both : (∀ state ∈ states start steps, relation state final) ∧
      (states start steps).Pairwise relation from both.2
  induction history with
  | nil => exact ⟨by simpa [states] using refl start, List.pairwise_singleton _ _⟩
  | @snoc steps current target label earlier step induction =>
      obtain ⟨toCurrent, before⟩ := induction fun step member =>
        respects step (List.mem_append_left _ member)
      have last : relation current target :=
        respects _ (List.mem_append_right _ List.mem_cons_self)
      have toTarget : ∀ state ∈ states start steps, relation state target :=
        fun state member => trans _ _ _ (toCurrent state member) last
      rw [states_snoc]
      constructor
      · intro state member
        rcases List.mem_append.mp member with old | new
        · exact toTarget state old
        · rw [List.mem_singleton.mp new]
          exact refl target
      · refine List.pairwise_append.mpr
          ⟨before, List.pairwise_singleton _ _, ?_⟩
        intro state member other single
        rw [List.mem_singleton.mp single]
        exact toTarget state member

/-- Events that are recorded when they take effect, and that take no effect once
they are recorded, take effect at most once. -/
theorem nodup_effects {ι : Type} {effect : Transition σ ℓ → Option ι}
    {recorded : ι → σ → Prop} (history : History next start steps final)
    (once : ∀ step ∈ steps, next step.source step.label step.target →
      ∀ event, effect step = some event →
        ¬ recorded event step.source ∧ recorded event step.target)
    (kept : ∀ event current label target, recorded event current →
      next current label target → recorded event target) :
    (steps.filterMap effect).Nodup := by
  suffices both : (∀ event ∈ steps.filterMap effect, recorded event final) ∧
      (steps.filterMap effect).Nodup from both.2
  induction history with
  | nil => exact ⟨by simp, List.nodup_nil⟩
  | @snoc steps current target label earlier step induction =>
      obtain ⟨known, distinct⟩ := induction fun step member =>
        once step (List.mem_append_left _ member)
      have atLast := once ⟨current, label, target⟩
        (List.mem_append_right _ List.mem_cons_self) step
      have still : ∀ event ∈ steps.filterMap effect, recorded event target :=
        fun event member => kept event current label target
          (known event member) step
      rw [List.filterMap_append]
      cases happened : effect ⟨current, label, target⟩ with
      | none =>
          rw [List.filterMap_cons_none happened, List.filterMap_nil,
            List.append_nil]
          exact ⟨still, distinct⟩
      | some event =>
          obtain ⟨fresh, written⟩ := atLast event happened
          rw [List.filterMap_cons_some happened, List.filterMap_nil]
          constructor
          · intro other member
            rcases List.mem_append.mp member with before | last
            · exact still other before
            · rw [List.mem_singleton.mp last]
              exact written
          · rw [← List.concat_eq_append]
            apply (List.nodup_concat _ _).mpr
            exact ⟨fun member => fresh (known event member), distinct⟩

end History

/-- A run that answers one input after the other. -/
def play {ι : Type} (respond : ι → σ → ℓ × σ) :
    List ι → σ → List (Transition σ ℓ) × σ
  | [], state => ([], state)
  | input :: rest, state =>
      let answered := respond input state
      let later := play respond rest answered.2
      (⟨state, answered.1, answered.2⟩ :: later.1, later.2)

theorem History.play {ι : Type} {respond : ι → σ → ℓ × σ}
    (made : ∀ input state,
      next state (respond input state).1 (respond input state).2)
    (inputs : List ι) {current : σ} (earlier : History next start steps current) :
    History next start (steps ++ (Program.play respond inputs current).1)
      (Program.play respond inputs current).2 := by
  induction inputs generalizing current steps with
  | nil => simpa [Program.play] using earlier
  | cons input rest induction =>
      simpa [Program.play] using induction (earlier.snoc (made input current))

end BudBreeding.Program
