import Mathlib.Logic.Basic

namespace BudBreeding.Program

/-- Programs that talk to their surroundings one query at a time.  A query
`query` is answered by a value of `R query`, on which the rest depends. -/
inductive Prog {Q : Type} (R : Q → Type) (ε α : Type) : Type where
  | pure (value : α)
  | throw (error : ε)
  | ask (query : Q) (next : R query → Prog R ε α)

namespace Prog

variable {Q : Type} {R : Q → Type} {ε α β : Type}

def bind : Prog R ε α → (α → Prog R ε β) → Prog R ε β
  | .pure value, rest => rest value
  | .throw error, _ => .throw error
  | .ask query next, rest => .ask query fun answer => (next answer).bind rest

instance : Monad (Prog R ε) where
  pure := .pure
  bind := .bind

def call (query : Q) : Prog R ε (R query) :=
  .ask query .pure

def throwIf (condition : Prop) [Decidable condition] (error : ε) :
    Prog R ε Unit :=
  if condition then .throw error else .pure ()

def ofExcept : Except ε α → Prog R ε α
  | .ok value => .pure value
  | .error error => .throw error

def tryCatch : Prog R ε α → (ε → Prog R ε α) → Prog R ε α
  | .pure value, _ => .pure value
  | .throw error, handler => handler error
  | .ask query next, handler =>
      .ask query fun answer => (next answer).tryCatch handler

@[simp] theorem throw_bind (error : ε) (rest : α → Prog R ε β) :
    ((Prog.throw error : Prog R ε α) >>= rest) = .throw error := rfl

@[simp] theorem ask_bind (query : Q) (next : R query → Prog R ε α)
    (rest : α → Prog R ε β) :
    (Prog.ask query next >>= rest) =
      .ask query fun answer => next answer >>= rest := rfl

theorem bind_assoc {γ : Type} (program : Prog R ε α) (middle : α → Prog R ε β)
    (rest : β → Prog R ε γ) :
    (program >>= middle) >>= rest =
      program >>= fun value => middle value >>= rest := by
  induction program with
  | pure value => rfl
  | throw error => rfl
  | ask query next induction =>
      simp only [ask_bind]
      congr 1
      funext answer
      exact induction answer

/-- The program waits for an answer. -/
def Waits (program : Prog R ε α) : Prop :=
  ∃ query next, program = .ask query next

theorem waits_or_ended (program : Prog R ε α) :
    program.Waits ∨ ∃ result, program = ofExcept result := by
  cases program with
  | pure value => exact .inr ⟨.ok value, rfl⟩
  | throw error => exact .inr ⟨.error error, rfl⟩
  | ask query next => exact .inl ⟨query, next, rfl⟩

/-- Every query the program can ever ask, whatever the answers, is permitted. -/
def Uses (permitted : Q → Prop) : Prog R ε α → Prop
  | .pure _ => True
  | .throw _ => True
  | .ask query next =>
      permitted query ∧ ∀ answer, (next answer).Uses permitted

variable {permitted : Q → Prop}

@[simp] theorem uses_pure (value : α) :
    (Pure.pure value : Prog R ε α).Uses permitted := trivial

@[simp] theorem uses_throw (error : ε) :
    (Prog.throw error : Prog R ε α).Uses permitted := trivial

@[simp] theorem uses_call (query : Q) :
    (call query : Prog R ε (R query)).Uses permitted ↔ permitted query :=
  ⟨And.left, fun granted => ⟨granted, fun _ => trivial⟩⟩

@[simp] theorem uses_throwIf (condition : Prop) [Decidable condition]
    (error : ε) :
    (throwIf condition error : Prog R ε Unit).Uses permitted := by
  unfold throwIf
  split <;> trivial

@[simp] theorem uses_ofExcept (outcome : Except ε α) :
    (ofExcept outcome : Prog R ε α).Uses permitted := by
  cases outcome <;> trivial

@[simp] theorem uses_bind {program : Prog R ε α} {rest : α → Prog R ε β}
    (first : program.Uses permitted)
    (second : ∀ value, (rest value).Uses permitted) :
    (program >>= rest).Uses permitted := by
  induction program with
  | pure value => exact second value
  | throw error => trivial
  | ask query next induction =>
      exact ⟨first.1, fun answer => induction answer (first.2 answer)⟩

theorem uses_all (program : Prog R ε α) : program.Uses fun _ => True := by
  induction program with
  | pure value => trivial
  | throw error => trivial
  | ask query next induction => exact ⟨trivial, induction⟩

theorem Uses.mono {wider : Q → Prop} {program : Prog R ε α}
    (uses : program.Uses permitted)
    (widen : ∀ query, permitted query → wider query) :
    program.Uses wider := by
  induction program with
  | pure value => trivial
  | throw error => trivial
  | ask query next induction =>
      exact ⟨widen query uses.1, fun answer => induction answer (uses.2 answer)⟩

/-- Some answers lead the program to ask `query`. -/
def Asks (query : Q) : Prog R ε α → Prop
  | .pure _ => False
  | .throw _ => False
  | .ask first next => first = query ∨ ∃ answer, (next answer).Asks query

theorem Uses.of_asks {program : Prog R ε α} {query : Q}
    (uses : program.Uses permitted) (asks : program.Asks query) :
    permitted query := by
  induction program with
  | pure value => exact asks.elim
  | throw error => exact asks.elim
  | ask first next induction =>
      rcases asks with rfl | ⟨answer, later⟩
      · exact uses.1
      · exact induction answer (uses.2 answer) later

end Prog

end BudBreeding.Program
