import Mathlib.Logic.Function.Basic
import Mathlib.Logic.Relation

namespace BudBreeding.Occupancy

/-! A board of places, each with room for one couple: couples move in, leave, or
lose their place. -/

structure Place (ω : Type) where
  owner : ω
  isOpen : Bool
  taken : Bool

/-- A couple of guests at a place. -/
structure Couple (ω κ β : Type) where
  owner : ω
  place : κ
  first : β
  second : β

structure Board (ι ω κ β : Type) where
  couples : ι → Option (Couple ω κ β)
  places : κ → Option (Place ω)

variable {ι ω κ β : Type} {fit : β → β → Prop}

namespace Board

@[ext] theorem ext {left right : Board ι ω κ β}
    (couples : ∀ id, left.couples id = right.couples id)
    (places : ∀ key, left.places key = right.places key) : left = right := by
  obtain ⟨leftCouples, leftPlaces⟩ := left
  obtain ⟨rightCouples, rightPlaces⟩ := right
  obtain rfl : leftCouples = rightCouples := funext couples
  obtain rfl : leftPlaces = rightPlaces := funext places
  rfl

section Moves

variable [DecidableEq ι] [DecidableEq κ]

def settle (board : Board ι ω κ β) (key : κ) (place : Place ω) :
    Board ι ω κ β where
  couples := board.couples
  places := Function.update board.places key (some place)

def unlock (board : Board ι ω κ β) (key : κ) : Board ι ω κ β where
  couples := board.couples
  places := Function.update board.places key
    ((board.places key).map fun place => { place with isOpen := true })

def moveIn (board : Board ι ω κ β) (id : ι) (couple : Couple ω κ β) :
    Board ι ω κ β where
  couples := Function.update board.couples id (some couple)
  places := Function.update board.places couple.place
    ((board.places couple.place).map fun place => { place with taken := true })

def moveOut (board : Board ι ω κ β) (leaving : ι → Bool) (freed : κ → Bool) :
    Board ι ω κ β where
  couples := fun id => if leaving id then none else board.couples id
  places := fun key => (board.places key).map fun place =>
    if freed key then { place with taken := false } else place

def demolish (board : Board ι ω κ β) (lost : κ → Bool) : Board ι ω κ β where
  couples := fun id => (board.couples id).filter fun couple => !lost couple.place
  places := fun key => if lost key then none else board.places key

/-- What a couple needs to move in; `fit` says which guests form a couple. -/
structure Admits (fit : β → β → Prop) (board : Board ι ω κ β) (id : ι)
    (couple : Couple ω κ β) : Prop where
  new : board.couples id = none
  vacancy : ∃ place, board.places couple.place = some place ∧
    place.owner = couple.owner ∧ place.isOpen = true ∧ place.taken = false
  fits : fit couple.first couple.second
  single : ∀ other rival, board.couples other = some rival →
    rival.first ≠ couple.first ∧ rival.second ≠ couple.second

inductive Step (fit : β → β → Prop) (board : Board ι ω κ β) :
    Board ι ω κ β → Prop
  | settle {key : κ} {place : Place ω} (new : board.places key = none)
      (vacant : place.taken = false) : Step fit board (board.settle key place)
  | unlock (key : κ) : Step fit board (board.unlock key)
  | moveIn {id : ι} {couple : Couple ω κ β}
      (admits : board.Admits fit id couple) :
      Step fit board (board.moveIn id couple)
  | moveOut {leaving : ι → Bool} {freed : κ → Bool}
      (exact : ∀ key, freed key = true ↔ ∃ id couple, leaving id = true ∧
        board.couples id = some couple ∧ couple.place = key) :
      Step fit board (board.moveOut leaving freed)
  | demolish (lost : κ → Bool) : Step fit board (board.demolish lost)

abbrev Moves (fit : β → β → Prop) :
    Board ι ω κ β → Board ι ω κ β → Prop :=
  Relation.ReflTransGen (Step fit)

end Moves

section Couples

variable {board : Board ι ω κ β} {id : ι} {couple : Couple ω κ β}

theorem moveIn_couples [DecidableEq ι] [DecidableEq κ] {other : ι}
    {rival : Couple ω κ β}
    (active : (board.moveIn id couple).couples other = some rival) :
    other = id ∧ rival = couple ∨
      other ≠ id ∧ board.couples other = some rival := by
  by_cases same : other = id
  · subst other
    simp only [moveIn, Function.update_self, Option.some.injEq] at active
    exact .inl ⟨rfl, active.symm⟩
  · simp only [moveIn, Function.update_of_ne same] at active
    exact .inr ⟨same, active⟩

theorem moveOut_couples {leaving : ι → Bool} {freed : κ → Bool} :
    (board.moveOut leaving freed).couples id = some couple ↔
      leaving id = false ∧ board.couples id = some couple := by
  cases left : leaving id <;> simp [moveOut, left]

theorem demolish_couples {lost : κ → Bool} :
    (board.demolish lost).couples id = some couple ↔
      board.couples id = some couple ∧ lost couple.place = false := by
  simp [demolish, Option.filter_eq_some_iff]

end Couples

/-- Couples and taken places correspond to each other. -/
structure Consistent (board : Board ι ω κ β) : Prop where
  housed : ∀ id couple, board.couples id = some couple →
    ∃ place, board.places couple.place = some place ∧
      place.owner = couple.owner ∧ place.isOpen = true ∧ place.taken = true
  apart : ∀ id other couple rival, board.couples id = some couple →
    board.couples other = some rival → couple.place = rival.place → id = other
  occupied : ∀ key place, board.places key = some place →
    place.taken = true → ∃ id couple, board.couples id = some couple ∧
      couple.place = key

namespace Consistent

variable {board : Board ι ω κ β}

protected theorem settle [DecidableEq κ] {key : κ} {place : Place ω}
    (consistent : board.Consistent) (new : board.places key = none)
    (vacant : place.taken = false) : (board.settle key place).Consistent := by
  refine ⟨?_, consistent.apart, ?_⟩
  · intro id couple active
    obtain ⟨home, present, rest⟩ := consistent.housed id couple active
    have elsewhere : couple.place ≠ key := by
      rintro rfl
      rw [new] at present
      cases present
    exact ⟨home, by simpa [settle, elsewhere] using present, rest⟩
  · intro other home present taken
    by_cases same : other = key
    · subst other
      simp only [settle, Function.update_self, Option.some.injEq] at present
      rw [← present, vacant] at taken
      cases taken
    · simp only [settle, Function.update_of_ne same] at present
      exact consistent.occupied other home present taken

protected theorem unlock [DecidableEq κ] (consistent : board.Consistent) (key : κ) :
    (board.unlock key).Consistent := by
  refine ⟨?_, consistent.apart, ?_⟩
  · intro id couple active
    obtain ⟨home, housed, own, isOpen, taken⟩ :=
      consistent.housed id couple active
    by_cases same : couple.place = key
    · subst key
      exact ⟨{ home with isOpen := true }, by simp [unlock, housed], own, rfl,
        taken⟩
    · exact ⟨home, by simpa [unlock, same] using housed, own, isOpen, taken⟩
  · intro other home found taken
    by_cases same : other = key
    · subst other
      simp only [unlock, Function.update_self] at found
      obtain ⟨place, present, rfl⟩ := Option.map_eq_some_iff.mp found
      exact consistent.occupied key place present taken
    · simp only [unlock, Function.update_of_ne same] at found
      exact consistent.occupied other home found taken

theorem elsewhere {id : ι} {couple : Couple ω κ β}
    (consistent : board.Consistent) (admits : board.Admits fit id couple)
    {other : ι} {rival : Couple ω κ β} (active : board.couples other = some rival) :
    rival.place ≠ couple.place := by
  intro same
  obtain ⟨home, housed, -, -, taken⟩ := consistent.housed other rival active
  obtain ⟨place, present, -, -, vacant⟩ := admits.vacancy
  rw [same, present] at housed
  cases housed
  rw [vacant] at taken
  cases taken

protected theorem moveIn [DecidableEq ι] [DecidableEq κ] {id : ι}
    {couple : Couple ω κ β} (consistent : board.Consistent) (admits : board.Admits fit id couple) :
    (board.moveIn id couple).Consistent := by
  obtain ⟨place, present, own, isOpen, vacant⟩ := admits.vacancy
  refine ⟨?_, ?_, ?_⟩
  · intro other rival active
    rcases moveIn_couples active with ⟨rfl, rfl⟩ | ⟨-, active⟩
    · exact ⟨{ place with taken := true }, by simp [moveIn, present], own,
        isOpen, rfl⟩
    · obtain ⟨home, housed, rest⟩ := consistent.housed other rival active
      refine ⟨home, ?_, rest⟩
      simpa [moveIn, consistent.elsewhere admits active] using housed
  · intro left right one two leftActive rightActive samePlace
    rcases moveIn_couples leftActive with ⟨rfl, rfl⟩ | ⟨-, leftOld⟩
    · rcases moveIn_couples rightActive with ⟨rfl, rfl⟩ | ⟨-, rightOld⟩
      · rfl
      · exact absurd samePlace.symm (consistent.elsewhere admits rightOld)
    · rcases moveIn_couples rightActive with ⟨rfl, rfl⟩ | ⟨-, rightOld⟩
      · exact absurd samePlace (consistent.elsewhere admits leftOld)
      · exact consistent.apart left right one two leftOld rightOld samePlace
  · intro key home found taken
    by_cases same : key = couple.place
    · exact ⟨id, couple, Function.update_self _ _ _, same.symm⟩
    · simp only [moveIn, Function.update_of_ne same] at found
      obtain ⟨other, rival, active, placed⟩ :=
        consistent.occupied key home found taken
      have old : other ≠ id := by
        rintro rfl
        rw [admits.new] at active
        cases active
      exact ⟨other, rival, by simpa [moveIn, old] using active, placed⟩

protected theorem moveOut {leaving : ι → Bool} {freed : κ → Bool}
    (consistent : board.Consistent)
    (exact : ∀ key, freed key = true ↔ ∃ id couple, leaving id = true ∧
      board.couples id = some couple ∧ couple.place = key) :
    (board.moveOut leaving freed).Consistent := by
  refine ⟨?_, ?_, ?_⟩
  · intro id couple active
    obtain ⟨remaining, before⟩ := moveOut_couples.mp active
    obtain ⟨home, housed, rest⟩ := consistent.housed id couple before
    have kept : freed couple.place = false := by
      by_contra free
      rw [Bool.not_eq_false, exact] at free
      obtain ⟨other, rival, left, gone, same⟩ := free
      obtain rfl := consistent.apart other id rival couple gone before same
      rw [remaining] at left
      cases left
    exact ⟨home, by simp [moveOut, housed, kept], rest⟩
  · intro id other couple rival active rivalActive
    exact consistent.apart id other couple rival
      (moveOut_couples.mp active).2 (moveOut_couples.mp rivalActive).2
  · intro key home found taken
    obtain ⟨old, present, rewritten⟩ := Option.map_eq_some_iff.mp found
    cases free : freed key with
    | true =>
        rw [free] at rewritten
        subst rewritten
        cases taken
    | false =>
        rw [free] at rewritten
        subst rewritten
        obtain ⟨id, couple, active, placed⟩ :=
          consistent.occupied key old present taken
        refine ⟨id, couple, moveOut_couples.mpr ⟨?_, active⟩, placed⟩
        by_contra left
        have gone := (exact key).mpr
          ⟨id, couple, by simpa using left, active, placed⟩
        rw [free] at gone
        cases gone

protected theorem demolish (consistent : board.Consistent) (lost : κ → Bool) :
    (board.demolish lost).Consistent := by
  refine ⟨?_, ?_, ?_⟩
  · intro id couple active
    obtain ⟨before, standing⟩ := demolish_couples.mp active
    obtain ⟨home, housed, rest⟩ := consistent.housed id couple before
    exact ⟨home, by simp [demolish, standing, housed], rest⟩
  · intro id other couple rival active rivalActive
    exact consistent.apart id other couple rival
      (demolish_couples.mp active).1 (demolish_couples.mp rivalActive).1
  · intro key home found taken
    cases gone : lost key with
    | true => simp [demolish, gone] at found
    | false =>
        simp only [demolish, gone] at found
        obtain ⟨id, couple, active, placed⟩ :=
          consistent.occupied key home found taken
        refine ⟨id, couple, demolish_couples.mpr ⟨active, ?_⟩, placed⟩
        rw [placed, gone]

end Consistent

/-- Couples fit, and no guest is in the same position of two couples. -/
structure Faithful (fit : β → β → Prop) (board : Board ι ω κ β) : Prop where
  fits : ∀ id couple, board.couples id = some couple →
    fit couple.first couple.second
  single : ∀ id other couple rival, board.couples id = some couple →
    board.couples other = some rival →
    couple.first = rival.first ∨ couple.second = rival.second → id = other

namespace Faithful

variable {board after : Board ι ω κ β}

theorem of_fewer (faithful : board.Faithful fit)
    (fewer : ∀ id couple, after.couples id = some couple →
      board.couples id = some couple) : after.Faithful fit :=
  ⟨fun id couple active => faithful.fits id couple (fewer id couple active),
    fun id other couple rival active rivalActive =>
      faithful.single id other couple rival (fewer id couple active)
        (fewer other rival rivalActive)⟩

protected theorem moveIn [DecidableEq ι] [DecidableEq κ] {id : ι}
    {couple : Couple ω κ β} (faithful : board.Faithful fit)
    (admits : board.Admits fit id couple) :
    (board.moveIn id couple).Faithful fit := by
  refine ⟨?_, ?_⟩
  · intro other rival active
    rcases moveIn_couples active with ⟨-, rfl⟩ | ⟨-, active⟩
    · exact admits.fits
    · exact faithful.fits other rival active
  · intro left right one two leftActive rightActive shared
    rcases moveIn_couples leftActive with ⟨rfl, rfl⟩ | ⟨-, leftOld⟩
    · rcases moveIn_couples rightActive with ⟨rfl, -⟩ | ⟨-, rightOld⟩
      · rfl
      · have alone := admits.single right two rightOld
        exact absurd shared (not_or.mpr ⟨alone.1.symm, alone.2.symm⟩)
    · rcases moveIn_couples rightActive with ⟨rfl, rfl⟩ | ⟨-, rightOld⟩
      · exact absurd shared (not_or.mpr (admits.single left one leftOld))
      · exact faithful.single left right one two leftOld rightOld shared

end Faithful

section Steps

variable [DecidableEq ι] [DecidableEq κ] {board after : Board ι ω κ β}

theorem Step.consistent (step : Step fit board after)
    (consistent : board.Consistent) : after.Consistent := by
  cases step with
  | settle new vacant => exact consistent.settle new vacant
  | unlock key => exact consistent.unlock key
  | moveIn admits => exact consistent.moveIn admits
  | moveOut exact => exact consistent.moveOut exact
  | demolish lost => exact consistent.demolish lost

theorem Step.faithful (step : Step fit board after)
    (faithful : board.Faithful fit) : after.Faithful fit := by
  cases step with
  | settle new vacant => exact faithful.of_fewer fun _ _ active => active
  | unlock key => exact faithful.of_fewer fun _ _ active => active
  | moveIn admits => exact faithful.moveIn admits
  | moveOut exact =>
      exact faithful.of_fewer fun _ _ active => (moveOut_couples.mp active).2
  | demolish lost =>
      exact faithful.of_fewer fun _ _ active => (demolish_couples.mp active).1

theorem Moves.consistent (moves : Moves fit board after)
    (consistent : board.Consistent) : after.Consistent := by
  induction moves with
  | refl => exact consistent
  | tail _ step induction => exact step.consistent induction

theorem Moves.faithful (moves : Moves fit board after)
    (faithful : board.Faithful fit) : after.Faithful fit := by
  induction moves with
  | refl => exact faithful
  | tail _ step induction => exact step.faithful induction

end Steps

/-- When fitting guests are of different kinds, no guest is in two couples. -/
theorem Faithful.disjoint {kind : β → Bool} {board : Board ι ω κ β}
    (faithful : board.Faithful fit)
    (kinds : ∀ first second, fit first second →
      kind first = true ∧ kind second = false)
    {id other : ι} {couple rival : Couple ω κ β} {guest : β}
    (active : board.couples id = some couple)
    (rivalActive : board.couples other = some rival)
    (inCouple : guest = couple.first ∨ guest = couple.second)
    (inRival : guest = rival.first ∨ guest = rival.second) : id = other := by
  obtain ⟨one, two⟩ := kinds _ _ (faithful.fits id couple active)
  obtain ⟨three, four⟩ := kinds _ _ (faithful.fits other rival rivalActive)
  refine faithful.single id other couple rival active rivalActive ?_
  rcases inCouple with rfl | rfl
  · rcases inRival with same | same
    · exact .inl same
    · rw [same, four] at one
      cases one
  · rcases inRival with same | same
    · rw [same, three] at two
      cases two
    · exact .inr same

end Board

end BudBreeding.Occupancy
