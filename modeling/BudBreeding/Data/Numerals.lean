import Mathlib.Data.Nat.Digits.Defs
import Mathlib.Tactic.Ring

namespace BudBreeding.Data

/-! Decimal numerals of a fixed width. -/

def Decimal (digits : List Char) : Prop :=
  ∀ char ∈ digits, char.isDigit = true

def digitValue (char : Char) : Nat :=
  char.toNat - '0'.toNat

theorem toNat_of_isDigit {char : Char} (digit : char.isDigit = true) :
    char.toNat = '0'.toNat + digitValue char ∧ digitValue char < 10 := by
  have range := Char.isDigit_iff_toNat.mp digit
  change 48 ≤ char.toNat ∧ char.toNat ≤ 57 at range
  unfold digitValue
  change char.toNat = 48 + (char.toNat - 48) ∧ char.toNat - 48 < 10
  omega

theorem eq_of_digitValue_eq {left right : Char} (first : left.isDigit = true)
    (second : right.isDigit = true) (same : digitValue left = digitValue right) :
    left = right := by
  apply Char.toNat_inj.mp
  rw [(toNat_of_isDigit first).1, (toNat_of_isDigit second).1, same]

theorem ofDigitChars_cons_eq (char : Char) (rest : List Char) :
    Nat.ofDigitChars 10 (char :: rest) 0 =
      10 ^ rest.length * digitValue char + Nat.ofDigitChars 10 rest 0 := by
  rw [Nat.ofDigitChars_cons, Nat.ofDigitChars_eq_ofDigitChars_zero, Nat.mul_zero,
    Nat.zero_add, digitValue]

theorem ofDigitChars_lt {digits : List Char} (decimal : Decimal digits) :
    Nat.ofDigitChars 10 digits 0 < 10 ^ digits.length := by
  induction digits with
  | nil => exact Nat.one_pos
  | cons char rest induction =>
      have tail := induction fun other member => decimal other (List.mem_cons_of_mem _ member)
      have digit := (toNat_of_isDigit (decimal char List.mem_cons_self)).2
      rw [ofDigitChars_cons_eq, List.length_cons]
      calc
        10 ^ rest.length * digitValue char + Nat.ofDigitChars 10 rest 0
          < 10 ^ rest.length * digitValue char + 10 ^ rest.length :=
            Nat.add_lt_add_left tail _
        _ = 10 ^ rest.length * (digitValue char + 1) := by ring
        _ ≤ 10 ^ rest.length * 10 := Nat.mul_le_mul_left _ digit
        _ = 10 ^ (rest.length + 1) := (Nat.pow_succ _ _).symm

theorem eq_of_ofDigitChars_eq {left right : List Char} (first : Decimal left)
    (second : Decimal right) (width : left.length = right.length)
    (same : Nat.ofDigitChars 10 left 0 = Nat.ofDigitChars 10 right 0) : left = right := by
  induction left generalizing right with
  | nil => exact (List.length_eq_zero_iff.mp width.symm).symm
  | cons char rest induction =>
      cases right with
      | nil => cases width
      | cons other more =>
          have widths : rest.length = more.length := Nat.succ.inj width
          have tail : Decimal rest := fun _ member =>
            first _ (List.mem_cons_of_mem _ member)
          have tails : Decimal more := fun _ member =>
            second _ (List.mem_cons_of_mem _ member)
          have bound := ofDigitChars_lt tail
          have bounds := ofDigitChars_lt tails
          rw [ofDigitChars_cons_eq, ofDigitChars_cons_eq, ← widths] at same
          rw [← widths] at bounds
          have positive : 0 < 10 ^ rest.length := Nat.pow_pos (by decide)
          have heads : digitValue char = digitValue other := by
            have quotient := congrArg (· / 10 ^ rest.length) same
            simp only [Nat.mul_add_div positive, Nat.div_eq_of_lt bound,
              Nat.div_eq_of_lt bounds, Nat.add_zero] at quotient
            exact quotient
          rw [heads] at same
          rw [eq_of_digitValue_eq (first char List.mem_cons_self)
            (second other List.mem_cons_self) heads,
            induction tail tails widths (Nat.add_left_cancel same)]

theorem decimal_toDigits (value : Nat) : Decimal (Nat.toDigits 10 value) :=
  fun _ member => Nat.isDigit_of_mem_toDigits (by decide) le_rfl member

theorem length_toDigits {value width : Nat} (large : 10 ^ width ≤ value)
    (small : value < 10 ^ (width + 1)) : (Nat.toDigits 10 value).length = width + 1 := by
  apply le_antisymm
  · exact (Nat.length_toDigits_le_iff (by decide) (Nat.succ_pos _)).mpr small
  · by_contra short
    cases width with
    | zero => exact short Nat.length_toDigits_pos
    | succ width =>
        have bounded := (Nat.length_toDigits_le_iff (by decide) (Nat.succ_pos _)).mp
          (Nat.le_of_lt_succ (not_le.mp short))
        exact absurd bounded (not_lt.mpr large)

/-- A numeral that does not start with a zero is how its value is written. -/
theorem toDigits_ofDigitChars {digits : List Char} {width : Nat} (decimal : Decimal digits)
    (wide : digits.length = width + 1) (large : 10 ^ width ≤ Nat.ofDigitChars 10 digits 0) :
    Nat.toDigits 10 (Nat.ofDigitChars 10 digits 0) = digits := by
  apply eq_of_ofDigitChars_eq (decimal_toDigits _) decimal
  · rw [wide]
    apply length_toDigits large
    rw [← wide]
    exact ofDigitChars_lt decimal
  · exact Nat.ofDigitChars_ten_toDigits

theorem toString_natCast (value : Nat) :
    toString (value : Int) = String.ofList (Nat.toDigits 10 value) :=
  Nat.toString_eq_ofList_toDigits

/-- Digits that are the text of an integer write that integer. -/
theorem ofDigitChars_toString {value : Int} (decimal : Decimal (toString value).toList) :
    (Nat.ofDigitChars 10 (toString value).toList 0 : Int) = value := by
  cases value with
  | ofNat value =>
      change (Nat.ofDigitChars 10 (toString (value : Int)).toList 0 : Int) = value
      rw [toString_natCast, String.toList_ofList, Nat.ofDigitChars_ten_toDigits]
  | negSucc value =>
      have signed : '-' ∈ (toString (Int.negSucc value)).toList := by
        change '-' ∈ ("-" ++ toString (value + 1)).toList
        rw [String.toList_append]
        exact List.mem_append_left _ List.mem_cons_self
      exact absurd (decimal '-' signed) (by decide)

end BudBreeding.Data
