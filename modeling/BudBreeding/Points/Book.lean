import Mathlib.Logic.Function.Basic
import BudBreeding.Backend.Runs

namespace BudBreeding.Points

/-! A book of accounts, each with an integer balance. -/

abbrev Book (α : Type) := α → Option Int

namespace Book

variable {α : Type} [DecidableEq α]

/-- Move `amount` onto an account; a missing account stays missing. -/
def post (book : Book α) (account : α) (amount : Int) : Book α :=
  Function.update book account ((book account).map fun balance => balance + amount)

def enter (book : Book α) (account : α) : Book α :=
  Function.update book account (some 0)

/-- Bookings that never take more than an account holds. -/
inductive Step (book : Book α) : Book α → Prop
  | idle : Step book book
  | enter {account : α} (new : book account = none) :
      Step book (book.enter account)
  | credit {account : α} {amount : Int} (gain : 0 ≤ amount) :
      Step book (book.post account amount)
  | spend {account : α} {amount : Int}
      (covered : ∀ balance, book account = some balance → amount ≤ balance) :
      Step book (book.post account (-amount))

omit [DecidableEq α] in
def Solvent (book : Book α) : Prop :=
  ∀ account balance, book account = some balance → 0 ≤ balance

variable {book after : Book α}

theorem Solvent.post {account : α} {amount : Int} (solvent : book.Solvent)
    (covered : ∀ balance, book account = some balance → 0 ≤ balance + amount) :
    (book.post account amount).Solvent := by
  intro other balance held
  by_cases same : other = account
  · subst other
    simp only [Book.post, Function.update_self] at held
    obtain ⟨before, present, moved⟩ := Option.map_eq_some_iff.mp held
    rw [← moved]
    exact covered before present
  · simp only [Book.post, Function.update_of_ne same] at held
    exact solvent other balance held

theorem Step.solvent (step : Step book after) (solvent : book.Solvent) :
    after.Solvent := by
  cases step with
  | idle => exact solvent
  | @enter account new =>
      intro other balance held
      by_cases same : other = account
      · subst other
        simp only [Book.enter, Function.update_self, Option.some.injEq] at held
        omega
      · simp only [Book.enter, Function.update_of_ne same] at held
        exact solvent other balance held
  | credit gain =>
      apply solvent.post
      intro balance held
      have before := solvent _ _ held
      omega
  | spend covered =>
      apply solvent.post
      intro balance held
      have enough := covered balance held
      omega

end Book

open Data Program Backend

/-! The user table as a book of breeding points. -/

def book (db : Db) : Book Address :=
  fun address => (db.user.find address).map User.breedingPoint

variable {db after : Db}

theorem book_eq_some {address : Address} {balance : Int} :
    book db address = some balance ↔
      ∃ user, db.user.find address = some user ∧
        user.breedingPoint = balance := by
  simp [book]

theorem book_congr (same : after.user = db.user) : book after = book db := by
  unfold book
  rw [same]

theorem book_setBreedingPoint {address : Address} {user : User} {column : Int}
    (found : db.user.find address = some user) :
    book (db.setBreedingPoint address column) =
      (book db).post address (column - user.breedingPoint) := by
  funext other
  simp only [book, Db.setBreedingPoint, Table.find_modify, Book.post]
  by_cases same : other = address
  · subst other
    have identified := (Table.find_eq_some.mp found).2
    rw [Function.update_self, found]
    simp [identified]
  · rw [Function.update_of_ne same, book]
    cases present : db.user.find other with
    | none => rfl
    | some row =>
        have identified := (Table.find_eq_some.mp present).2
        simp [identified, same]

theorem balance_setBreedingPoint {address : Address} {user : User}
    {column : Int} (found : db.user.find address = some user) :
    book (db.setBreedingPoint address column) address = some column := by
  rw [book_setBreedingPoint found, Book.post, Function.update_self,
    book_eq_some.mpr ⟨user, found, rfl⟩, Option.map_some]
  congr 1
  omega

theorem find_upsertUser (address other : Address) (signature : String)
    (gameKeyId : Int) :
    (db.upsertUser address signature gameKeyId).user.find other =
      if other = address then
        some ⟨address, signature, some gameKeyId,
          (book db address).getD 0⟩
      else
        db.user.find other := by
  unfold Db.upsertUser book
  split
  · next user found =>
      have identified := (Table.find_eq_some.mp found).2
      simp only [Table.find_modify]
      by_cases same : other = address
      · subst other
        rw [found, if_pos rfl]
        simp [identified]
      · rw [if_neg same]
        cases present : db.user.find other with
        | none => rfl
        | some row =>
            have named := (Table.find_eq_some.mp present).2
            simp [named, same]
  · next missing =>
      simp only [Table.find_insert, missing]
      by_cases same : address = other
      · rw [if_pos same, if_pos same.symm]
        rfl
      · rw [if_neg same, if_neg (Ne.symm same)]

theorem book_find_upsertUser (address other : Address) (signature : String)
    (gameKeyId : Int) :
    book (db.upsertUser address signature gameKeyId) other =
      if other = address then some ((book db address).getD 0)
      else book db other := by
  rw [book, find_upsertUser]
  split <;> rfl

theorem book_upsertUser (address : Address) (signature : String)
    (gameKeyId : Int) :
    Book.Step (book db) (book (db.upsertUser address signature gameKeyId)) := by
  cases held : book db address with
  | none =>
      have entered : book (db.upsertUser address signature gameKeyId) =
          (book db).enter address := by
        funext other
        rw [book_find_upsertUser, held, Book.enter, Function.update_apply]
        rfl
      rw [entered]
      exact .enter held
  | some balance =>
      have unchanged : book (db.upsertUser address signature gameKeyId) =
          book db := by
        funext other
        rw [book_find_upsertUser, held]
        split
        · next same => rw [same, held]; rfl
        · rfl
      rw [unchanged]
      exact .idle

theorem book_paid {address : Address} {amount : Int}
    (paid : db.Paid address amount after) :
    Book.Step (book db) (book after) := by
  obtain ⟨user, found, covered, rfl⟩ := paid
  rw [book_setBreedingPoint found]
  have moved : user.breedingPoint - amount - user.breedingPoint = -amount := by
    omega
  rw [moved]
  apply Book.Step.spend
  intro balance held
  obtain ⟨other, present, same⟩ := book_eq_some.mp held
  rw [found] at present
  cases present
  omega

end BudBreeding.Points
