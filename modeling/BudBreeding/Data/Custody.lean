import Mathlib.Data.Set.Insert

namespace BudBreeding.Data

/-! Things that change hands while they are in use.  Whoever gives a thing away is
to stop using it, but learns of it from a notice that takes its time. -/

structure Use (π ρ : Type) where
  user : π
  thing : ρ

variable {π ρ : Type} {owner : ρ → π} {notices uses fewer more : Set (Use π ρ)}

/-- Whatever is in use belongs to its user, or a notice to the user is under way. -/
def Backed (owner : ρ → π) (notices uses : Set (Use π ρ)) : Prop :=
  ∀ use ∈ uses, owner use.thing = use.user ∨ use ∈ notices

namespace Backed

theorem of_empty : Backed owner notices ∅ :=
  fun _ impossible => absurd impossible (Set.notMem_empty _)

theorem owned (backed : Backed owner ∅ uses) {use : Use π ρ}
    (used : use ∈ uses) : owner use.thing = use.user := by
  cases backed use used with
  | inl owned => exact owned
  | inr noticed => exact absurd noticed (Set.notMem_empty use)

theorem acquire (backed : Backed owner notices uses)
    (included : more ⊆ {use | use ∈ uses ∨ owner use.thing = use.user}) :
    Backed owner notices more := by
  intro use used
  cases included used with
  | inl old => exact backed use old
  | inr owned => exact .inl owned

/-- A transfer sends a notice to the previous owner. -/
theorem transfer [DecidableEq ρ] (backed : Backed owner notices uses) (thing : ρ)
    (recipient : π) :
    Backed (Function.update owner thing recipient)
      (insert ⟨owner thing, thing⟩ notices) uses := by
  intro use used
  by_cases moved : use.thing = thing
  · cases backed use used with
    | inl owned =>
        right
        left
        rw [← moved, owned]
    | inr noticed => exact .inr (.inr noticed)
  · rw [Function.update_of_ne moved]
    exact (backed use used).imp_right .inr

/-- A notice that is disposed of was needed if its addressee goes on using a thing
of somebody else that no other notice mentions. -/
theorem dispose_iff {notice : Use π ρ}
    (backed : Backed owner (insert notice notices) uses) :
    Backed owner notices uses ↔
      (notice ∈ uses → owner notice.thing = notice.user ∨ notice ∈ notices) := by
  constructor
  · exact fun still => still notice
  · intro needless use used
    rcases backed use used with owned | rfl | noticed
    · exact .inl owned
    · exact needless used
    · exact .inr noticed

end Backed

end BudBreeding.Data
