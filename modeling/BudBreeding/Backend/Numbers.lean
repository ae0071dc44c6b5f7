import Mathlib.Data.Rat.Floor
import BudBreeding.Backend.Controllers

namespace BudBreeding.Backend

/-! What `Number` makes of a text, with exact numbers and one zero. -/

inductive Number where
  | nan
  | infinite (negative : Bool)
  | finite (value : Rat)
  deriving DecidableEq, Repr

namespace Number

def negate : Number → Number
  | .nan => .nan
  | .infinite negative => .infinite !negative
  | .finite value => .finite (-value)

/-- The exponent of a decimal literal: nothing, or `e` and an integer. -/
def exponentOf : List Char → Option Int
  | [] => some 0
  | letter :: digits =>
      if letter = 'e' ∨ letter = 'E' then
        match digits with
        | '-' :: digits =>
            (UserService.numeralOf 10 digits).map fun value => -(value : Int)
        | '+' :: digits =>
            (UserService.numeralOf 10 digits).map fun value => (value : Int)
        | digits =>
            (UserService.numeralOf 10 digits).map fun value => (value : Int)
      else
        none

/-- Digits on one side of the dot at least. -/
def ofDecimal (text : List Char) : Number :=
  let whole := text.takeWhile Char.isDigit
  let (fraction, exponent) : List Char × List Char :=
    match text.dropWhile Char.isDigit with
    | '.' :: rest => (rest.takeWhile Char.isDigit, rest.dropWhile Char.isDigit)
    | rest => ([], rest)
  match UserService.numeralOf 10 (whole ++ fraction), exponentOf exponent with
  | some digits, some exponent =>
      .finite (digits * (10 : Rat) ^ (exponent - fraction.length))
  | _, _ => .nan

def ofUnsigned (text : List Char) : Number :=
  if text = "Infinity".toList then .infinite false else ofDecimal text

def ofRadix (base : Nat) (digits : List Char) : Number :=
  match UserService.numeralOf base digits with
  | some value => .finite value
  | none => .nan

def ofString (text : String) : Number :=
  match (BudController.trim text).toList with
  | [] => .finite 0
  | '0' :: 'x' :: digits => ofRadix 16 digits
  | '0' :: 'X' :: digits => ofRadix 16 digits
  | '0' :: 'o' :: digits => ofRadix 8 digits
  | '0' :: 'O' :: digits => ofRadix 8 digits
  | '0' :: 'b' :: digits => ofRadix 2 digits
  | '0' :: 'B' :: digits => ofRadix 2 digits
  | '-' :: unsigned => (ofUnsigned unsigned).negate
  | '+' :: unsigned => ofUnsigned unsigned
  | unsigned => ofUnsigned unsigned

section Finite

variable {text : List Char} {negative : Bool}

theorem ofRadix_ne_infinite (base : Nat) (text : List Char) :
    ofRadix base text ≠ .infinite negative := by
  unfold ofRadix
  split <;> exact nofun

theorem ofDecimal_ne_infinite (text : List Char) :
    ofDecimal text ≠ .infinite negative := by
  unfold ofDecimal
  dsimp only
  split <;> exact nofun

theorem ofUnsigned_ne_infinite (absent : 'I' ∉ text) :
    ofUnsigned text ≠ .infinite negative := by
  unfold ofUnsigned
  rw [if_neg]
  · exact ofDecimal_ne_infinite text
  · rintro rfl
    exact absent (by decide)

theorem negate_ne_infinite {number : Number}
    (bounded : ∀ negative, number ≠ .infinite negative) :
    number.negate ≠ .infinite negative := by
  cases number with
  | nan => exact nofun
  | infinite sign => exact absurd rfl (bounded sign)
  | finite value => exact nofun

theorem mem_trim {text : String} {char : Char}
    (member : char ∈ (BudController.trim text).toList) : char ∈ text.toList := by
  unfold BudController.trim BudController.trimBoth at member
  rw [String.toList_ofList, List.mem_reverse] at member
  exact (List.dropWhile_sublist _).subset
    (List.mem_reverse.mp ((List.dropWhile_sublist _).subset member))

theorem ofString_ne_infinite {text : String} (absent : 'I' ∉ text.toList) :
    ofString text ≠ .infinite negative := by
  have missing : 'I' ∉ (BudController.trim text).toList := mt mem_trim absent
  unfold ofString
  split
  next => exact nofun
  next => exact ofRadix_ne_infinite 16 _
  next => exact ofRadix_ne_infinite 16 _
  next => exact ofRadix_ne_infinite 8 _
  next => exact ofRadix_ne_infinite 8 _
  next => exact ofRadix_ne_infinite 2 _
  next => exact ofRadix_ne_infinite 2 _
  next unsigned same =>
    rw [same] at missing
    exact negate_ne_infinite fun _ =>
      ofUnsigned_ne_infinite (mt (List.mem_cons_of_mem _) missing)
  next unsigned same =>
    rw [same] at missing
    exact ofUnsigned_ne_infinite (mt (List.mem_cons_of_mem _) missing)
  next => exact ofUnsigned_ne_infinite missing

end Finite

end Number

end BudBreeding.Backend
