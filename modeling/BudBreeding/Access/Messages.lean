import BudBreeding.Backend.Runs
import BudBreeding.Data.Numerals

namespace BudBreeding.Access

open Data Program Backend

/-! Which login messages are fresh, and which `isValidMessage` accepts. -/

/-- The client built the message within five minutes of `now`. -/
def Fresh (now : Time) (gameKeyId : Int) (message : String) : Prop :=
  ∃ time : Int, now - 300000 < time ∧ time < now + 300000 ∧
    message = UserService.getLoginMessage gameKeyId (toString time)

/-- Every time within five minutes of `now` has thirteen digits. -/
def ThirteenDigits (now : Time) : Prop :=
  ∀ time : Int, now - 300000 < time → time < now + 300000 →
    10 ^ 12 ≤ time ∧ time < 10 ^ 13

/-- The last thirteen characters of the message are an integer numeral. -/
def EndsInNumeral (message : String) : Prop :=
  UserService.bigNumberFrom (timestampOf message) ≠ none

def Hexadecimal (text : String) : Prop :=
  ∃ digits, text.toList = '0' :: 'x' :: digits

/-- A login message with a recent time, which is written in hexadecimal. -/
def FreshHexadecimal (now : Time) (gameKeyId : Int) (message : String) : Prop :=
  Hexadecimal (timestampOf message) ∧
    (∃ time, UserService.bigNumberFrom (timestampOf message) = some time ∧
      now - 300000 < time ∧ time < now + 300000) ∧
    message = UserService.getLoginMessage gameKeyId (timestampOf message)

section Numerals

variable {digits : List Char} {value : Nat} {text : String}

theorem digitOf_ten (char : Char) :
    UserService.digitOf 10 char =
      if char.isDigit = true then some (digitValue char) else none := by
  unfold UserService.digitOf
  by_cases digit : char.isDigit = true
  · have small := (toNat_of_isDigit digit).2
    unfold digitValue at small ⊢
    simp only [digit, if_true, small]
  · simp only [digit, Bool.false_eq_true, if_false]
    apply if_neg
    split <;> [skip; split] <;> omega

theorem foldlM_digitOf (start : Nat) :
    digits.foldlM (fun value char =>
        (UserService.digitOf 10 char).map fun digit => value * 10 + digit) start =
      some value ↔
        Decimal digits ∧ Nat.ofDigitChars 10 digits start = value := by
  induction digits generalizing start with
  | nil =>
      rw [List.foldlM_nil, Nat.ofDigitChars_nil]
      constructor
      · intro same
        exact ⟨fun _ member => absurd member List.not_mem_nil, Option.some.inj same⟩
      · intro same
        exact congrArg some same.2
  | cons char rest induction =>
      rw [List.foldlM_cons, digitOf_ten, Nat.ofDigitChars_cons]
      by_cases digit : char.isDigit = true
      · rw [if_pos digit, Option.map_some, Option.bind_eq_bind, Option.bind_some,
          induction, Nat.mul_comm start, digitValue, Decimal, Decimal,
          List.forall_mem_cons, and_iff_right digit]
      · rw [if_neg digit]
        apply iff_of_false
        · intro found
          cases found
        · intro found
          exact digit (found.1 char List.mem_cons_self)

theorem numeralOf_ten :
    UserService.numeralOf 10 digits = some value ↔
      digits ≠ [] ∧ Decimal digits ∧ Nat.ofDigitChars 10 digits 0 = value := by
  cases digits with
  | nil => simp [UserService.numeralOf]
  | cons char rest =>
      rw [UserService.numeralOf, foldlM_digitOf]
      · simp
      · simp

/-- What `bigNumberFrom` reads after the sign. -/
def unsignedFrom (sign : Int) : List Char → Option Int
  | '0' :: 'x' :: hexadecimal =>
      (UserService.numeralOf 16 hexadecimal).map fun value => sign * value
  | decimal => (UserService.numeralOf 10 decimal).map fun value => sign * value

theorem bigNumberFrom_negative {rest : List Char} (negative : text.toList = '-' :: rest) :
    UserService.bigNumberFrom text = unsignedFrom (-1) rest := by
  unfold UserService.bigNumberFrom
  rw [negative]
  rfl

theorem bigNumberFrom_unsigned (unsigned : ∀ rest, text.toList ≠ '-' :: rest) :
    UserService.bigNumberFrom text = unsignedFrom 1 text.toList := by
  unfold UserService.bigNumberFrom
  split
  next sign digits same =>
    split at same
    · next rest negative => exact absurd negative (unsigned rest)
    · cases same
      rfl

theorem unsignedFrom_decimal (decimal : Decimal digits) (nonempty : digits ≠ []) :
    unsignedFrom 1 digits = some (Nat.ofDigitChars 10 digits 0 : Int) := by
  have read := numeralOf_ten.mpr ⟨nonempty, decimal, rfl⟩
  unfold unsignedFrom
  split
  · next rest =>
    exact absurd (decimal 'x' (List.mem_cons_of_mem _ List.mem_cons_self)) (by decide)
  · rw [read]
    exact congrArg some (one_mul _)

theorem unsignedFrom_eq_some {sign number : Int} (read : unsignedFrom sign digits = some number) :
    (∃ value : Nat, number = sign * value) ∧
      ((∃ rest, digits = '0' :: 'x' :: rest) ∨
        Decimal digits ∧ number = sign * (Nat.ofDigitChars 10 digits 0 : Nat)) := by
  unfold unsignedFrom at read
  split at read
  all_goals
    obtain ⟨_, cast, rfl⟩ := Option.map_eq_some_iff.mp read
    obtain ⟨value, numeral, same⟩ := Option.bind_eq_some_iff.mp cast
    obtain rfl := Option.some.inj same
    refine ⟨⟨value, rfl⟩, ?_⟩
  · exact .inl ⟨_, rfl⟩
  · obtain ⟨-, decimal, rfl⟩ := numeralOf_ten.mp numeral
    exact .inr ⟨decimal, rfl⟩

theorem bigNumberFrom_decimal (decimal : Decimal text.toList)
    (nonempty : text.toList ≠ []) :
    UserService.bigNumberFrom text =
      some (Nat.ofDigitChars 10 text.toList 0 : Int) := by
  rw [bigNumberFrom_unsigned, unsignedFrom_decimal decimal nonempty]
  intro rest negative
  rw [negative] at decimal
  exact absurd (decimal '-' List.mem_cons_self) (by decide)

/-- What is read as a positive number is written in digits or in hexadecimal. -/
theorem decimal_of_bigNumberFrom {number : Int}
    (read : UserService.bigNumberFrom text = some number) (positive : 0 < number) :
    Hexadecimal text ∨ Decimal text.toList ∧
      number = (Nat.ofDigitChars 10 text.toList 0 : Nat) := by
  by_cases negative : ∃ rest, text.toList = '-' :: rest
  · obtain ⟨rest, negative⟩ := negative
    rw [bigNumberFrom_negative negative] at read
    obtain ⟨⟨value, rfl⟩, -⟩ := unsignedFrom_eq_some read
    omega
  · rw [bigNumberFrom_unsigned fun rest same => negative ⟨rest, same⟩] at read
    obtain ⟨-, hexadecimal | ⟨decimal, same⟩⟩ := unsignedFrom_eq_some read
    · exact .inl hexadecimal
    · rw [one_mul] at same
      exact .inr ⟨decimal, same⟩

end Numerals

section Messages

variable {now : Time} {gameKeyId : Int} {message : String} {db : Db}

theorem thirteen_le_getLoginMessage (gameKeyId : Int) (timestamp : String) :
    13 ≤ (UserService.getLoginMessage gameKeyId timestamp).toList.length := by
  have notice : "on your device, too.\n\nGameKey#: ".toList.length = 32 := rfl
  unfold UserService.getLoginMessage
  simp only [String.toList_append, List.length_append]
  omega

theorem length_timestampOf
    (unmodified : UserService.getLoginMessage gameKeyId (timestampOf message) = message) :
    (timestampOf message).toList.length = 13 := by
  have long := thirteen_le_getLoginMessage gameKeyId (timestampOf message)
  rw [unmodified] at long
  rw [timestampOf, String.toList_ofList, List.length_drop]
  omega

theorem bigNumberFrom_toString {time : Int} (large : 10 ^ 12 ≤ time)
    (small : time < 10 ^ 13) :
    (toString time).toList.length = 13 ∧
      UserService.bigNumberFrom (toString time) = some time := by
  obtain ⟨value, rfl⟩ := Int.eq_ofNat_of_zero_le (le_trans (by norm_num) large)
  have written : (toString (value : Int)).toList = Nat.toDigits 10 value := by
    rw [toString_natCast, String.toList_ofList]
  constructor
  · rw [written]
    exact length_toDigits (by exact_mod_cast large) (by exact_mod_cast small)
  · rw [bigNumberFrom_decimal]
    · rw [written, Nat.ofDigitChars_ten_toDigits]
    · rw [written]
      exact decimal_toDigits value
    · rw [written]
      exact Nat.toDigits_ne_nil

theorem accepted_of_fresh (thirteen : ThirteenDigits now)
    (fresh : Fresh now gameKeyId message) : MessageAccepted now gameKeyId message := by
  obtain ⟨time, early, late, rfl⟩ := fresh
  obtain ⟨large, small⟩ := thirteen time early late
  obtain ⟨width, read⟩ := bigNumberFrom_toString large small
  have suffix := timestampOf_getLoginMessage gameKeyId width
  constructor
  · rw [suffix]
    exact ⟨time, read, early, late⟩
  · rw [suffix]

theorem fresh_of_decimal (thirteen : ThirteenDigits now) {time : Int}
    (decimal : Decimal (timestampOf message).toList)
    (written : time = (Nat.ofDigitChars 10 (timestampOf message).toList 0 : Nat))
    (early : now - 300000 < time) (late : time < now + 300000)
    (unmodified : UserService.getLoginMessage gameKeyId (timestampOf message) = message) :
    Fresh now gameKeyId message := by
  refine ⟨time, early, late, ?_⟩
  have large := (thirteen time early late).1
  rw [written] at large ⊢
  rw [toString_natCast, toDigits_ofDigitChars decimal (length_timestampOf unmodified)
    (by exact_mod_cast large), String.ofList_toList, unmodified]

theorem accepted_iff (thirteen : ThirteenDigits now) :
    MessageAccepted now gameKeyId message ↔
      Fresh now gameKeyId message ∨ FreshHexadecimal now gameKeyId message := by
  constructor
  · intro accepted
    obtain ⟨⟨time, read, early, late⟩, unmodified⟩ := accepted
    have positive := (thirteen time early late).1
    cases decimal_of_bigNumberFrom read (lt_of_lt_of_le (by norm_num) positive) with
    | inl hexadecimal =>
        exact .inr ⟨hexadecimal, ⟨time, read, early, late⟩, unmodified.symm⟩
    | inr decimal =>
        exact .inl (fresh_of_decimal thirteen decimal.1 decimal.2 early late unmodified)
  · intro fresh
    cases fresh with
    | inl fresh => exact accepted_of_fresh thirteen fresh
    | inr fresh => exact ⟨fresh.2.1, fresh.2.2.symm⟩

theorem not_hexadecimal_of_fresh (thirteen : ThirteenDigits now)
    (fresh : Fresh now gameKeyId message) : ¬ FreshHexadecimal now gameKeyId message := by
  obtain ⟨time, early, late, rfl⟩ := fresh
  obtain ⟨large, small⟩ := thirteen time early late
  rintro ⟨⟨digits, written⟩, -⟩
  rw [timestampOf_getLoginMessage gameKeyId (bigNumberFrom_toString large small).1] at written
  obtain ⟨value, rfl⟩ := Int.eq_ofNat_of_zero_le (le_trans (by norm_num) large)
  have decimal := decimal_toDigits value
  rw [toString_natCast, String.toList_ofList] at written
  rw [written] at decimal
  exact absurd (decimal 'x' (List.mem_cons_of_mem _ List.mem_cons_self)) (by decide)

/-- What `isValidMessage` answers when the clock shows `now`. -/
def verdict (now : Time) (gameKeyId : Int) (message : String) : Except Failure Bool :=
  match UserService.bigNumberFrom (timestampOf message) with
  | none => .error .invalidArgument
  | some time => .ok (decide ((now - 300000 < time ∧ time < now + 300000) ∧
      UserService.getLoginMessage gameKeyId (timestampOf message) = message))

/-- `isValidMessage` after it has read the clock. -/
def validAt (now : Time) (gameKeyId : Int) (message : String) : Handler Bool :=
  match UserService.bigNumberFrom (timestampOf message) with
  | none => .throw .invalidArgument
  | some value =>
      if now - UserService.timestampBuffer < value ∧
          value < now + UserService.timestampBuffer then
        return decide (UserService.getLoginMessage gameKeyId (timestampOf message) = message)
      else
        return false

theorem isValidMessage_eq (gameKeyId : Int) (message : String) :
    UserService.isValidMessage gameKeyId message =
      ask .dateNow >>= fun now => validAt now gameKeyId message := by
  unfold UserService.isValidMessage validAt timestampOf
  rfl

theorem ensures_validAt {world : World Query.Answer Oracle Db}
    {post : Except Failure Bool → Db → Prop} :
    world.Ensures (validAt now gameKeyId message) post db ↔
      post (verdict now gameKeyId message) db := by
  unfold validAt verdict
  cases UserService.bigNumberFrom (timestampOf message) with
  | none => exact World.ensures_throw
  | some time =>
      simp only
      split
      · next recent =>
        have near : now - 300000 < time ∧ time < now + 300000 := recent
        simp only [near, true_and]
        exact World.ensures_pure
      · next old =>
        have far : ¬ (now - 300000 < time ∧ time < now + 300000) := old
        simp only [far, false_and, decide_false]
        exact World.ensures_pure

theorem ensures_isValidMessage {post : Except Failure Bool → Db → Prop} :
    (surroundings fun oracle => oracle.now = now).Ensures
        (UserService.isValidMessage gameKeyId message) post db ↔
      post (verdict now gameKeyId message) db := by
  rw [isValidMessage_eq]
  constructor
  · intro every
    have asked := World.ensures_call_bind.mp every (.agreeable "alice" now) rfl
    exact ensures_validAt.mp asked
  · intro reached
    refine World.ensures_call_bind.mpr fun oracle shown => ?_
    obtain rfl : oracle.now = now := shown
    exact ensures_validAt.mpr reached

/-- `isValidMessage` answers, and it accepts the fresh messages only. -/
def Checked (now : Time) (gameKeyId : Int) (message : String) : Prop :=
  ∀ db, (surroundings fun oracle => oracle.now = now).Ensures
    (UserService.isValidMessage gameKeyId message)
    (fun result _ => ∃ valid, result = .ok valid ∧
      (valid = true ↔ Fresh now gameKeyId message)) db

theorem checked_eq : Checked now gameKeyId message ↔
    ∃ valid, verdict now gameKeyId message = .ok valid ∧
      (valid = true ↔ Fresh now gameKeyId message) := by
  constructor
  · intro checked
    exact ensures_isValidMessage.mp (checked .empty)
  · intro answered db
    exact ensures_isValidMessage.mpr answered

theorem verdict_of_numeral (numeral : EndsInNumeral message) :
    ∃ valid, verdict now gameKeyId message = .ok valid ∧
      (valid = true ↔ MessageAccepted now gameKeyId message) := by
  obtain ⟨time, read⟩ := Option.ne_none_iff_exists'.mp numeral
  unfold verdict
  rw [read]
  refine ⟨_, rfl, ?_⟩
  rw [decide_eq_true_iff]
  constructor
  · intro both
    exact ⟨⟨time, read, both.1⟩, both.2⟩
  · intro accepted
    obtain ⟨⟨other, same, recent⟩, unmodified⟩ := accepted
    obtain rfl := Option.some.inj (read.symm.trans same)
    exact ⟨recent, unmodified⟩

theorem verdict_of_other (other : ¬ EndsInNumeral message) :
    verdict now gameKeyId message = .error .invalidArgument := by
  unfold verdict
  rw [not_not.mp other]

/-- Messages are checked as they should be but for those that do not end in a numeral
and those with a recent time in hexadecimal. -/
theorem checked_iff (thirteen : ThirteenDigits now) :
    Checked now gameKeyId message ↔
      EndsInNumeral message ∧ ¬ FreshHexadecimal now gameKeyId message := by
  rw [checked_eq]
  by_cases numeral : EndsInNumeral message
  · obtain ⟨valid, answered, accepts⟩ := @verdict_of_numeral now gameKeyId message numeral
    rw [accepted_iff thirteen] at accepts
    rw [answered, and_iff_right numeral]
    constructor
    · intro checked hexadecimal
      obtain ⟨_, same, sound⟩ := checked
      obtain rfl := Except.ok.inj same
      exact not_hexadecimal_of_fresh thirteen
        (sound.mp (accepts.mpr (.inr hexadecimal))) hexadecimal
    · intro usual
      exact ⟨valid, rfl, accepts.trans (or_iff_left usual)⟩
  · rw [verdict_of_other numeral]
    apply iff_of_false
    · intro checked
      obtain ⟨valid, thrown, -⟩ := checked
      cases thrown
    · intro both
      exact numeral both.1

theorem thirteenDigits_period : ThirteenDigits (period 0) := by
  intro time early late
  change (1650000000000 : Int) + 0 * 10000 - 300000 < time at early
  change time < (1650000000000 : Int) + 0 * 10000 + 300000 at late
  omega

theorem checked_iff_login :
    Checked (period 0) 7 (UserService.getLoginMessage 7 "1650000000000") := by
  have fresh : Fresh (period 0) 7 (UserService.getLoginMessage 7 "1650000000000") :=
    ⟨1650000000000, by decide, by decide, congrArg _ (by decide +kernel)⟩
  apply (checked_iff thirteenDigits_period).mpr
  refine ⟨?_, not_hexadecimal_of_fresh thirteenDigits_period fresh⟩
  rw [EndsInNumeral, timestampOf_getLoginMessage 7 (by decide +kernel)]
  decide +kernel

/-- The message of a client that writes the time in hexadecimal is accepted, and a
message that does not end in a numeral is not answered. -/
theorem hexadecimal_and_text :
    ThirteenDigits (period 0) ∧ ¬ Checked (period 0) 7 "hello" ∧
      ¬ Checked (period 0) 7 (UserService.getLoginMessage 7 "0x1802ba9f400") := by
  refine ⟨thirteenDigits_period, ?_, ?_⟩
  · intro checked
    obtain ⟨valid, answered, -⟩ := checked_eq.mp checked
    rw [verdict_of_other (not_not.mpr (by decide +kernel))] at answered
    cases answered
  · intro checked
    have suffix := @timestampOf_getLoginMessage 7 "0x1802ba9f400" (by decide +kernel)
    have hexadecimal : FreshHexadecimal (period 0) 7
        (UserService.getLoginMessage 7 "0x1802ba9f400") := by
      rw [FreshHexadecimal, suffix]
      refine ⟨⟨_, rfl⟩, ⟨period 0, by decide +kernel, by decide, by decide⟩, rfl⟩
    have numeral : EndsInNumeral (UserService.getLoginMessage 7 "0x1802ba9f400") := by
      rw [EndsInNumeral, suffix]
      decide +kernel
    obtain ⟨valid, answered, accepts⟩ := @verdict_of_numeral (period 0) 7 _ numeral
    obtain ⟨_, same, sound⟩ := checked_eq.mp checked
    obtain rfl := Except.ok.inj (answered.symm.trans same)
    have accepted := (accepted_iff thirteenDigits_period).mpr (.inr hexadecimal)
    exact not_hexadecimal_of_fresh thirteenDigits_period
      (sound.mp (accepts.mpr accepted)) hexadecimal

end Messages

end BudBreeding.Access
