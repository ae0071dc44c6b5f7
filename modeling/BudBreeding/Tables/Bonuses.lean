import BudBreeding.Data.Numerals
import BudBreeding.Tables.Generator

namespace BudBreeding.Tables

open Data Backend

/-! What `hashTable.json` says about the rows it was made of. -/

namespace Row

/-- The digits that the row is entered under. -/
def digits (row : Row) : Option String :=
  matchRun Char.isDigit row.thc

/-- The integer in the THC field. -/
def integer (row : Row) : Option Int :=
  row.digits.map fun digits => (Nat.ofDigitChars 10 digits.toList 0 : Int)

def sizeNumber (row : Row) : Number :=
  Number.ofString row.size

def rateNumber (row : Row) : Number :=
  (matchRun isRateChar row.rate).elim .nan Number.ofString

end Row

def lastOf (thcId : Int) (size : Number) (rows : List Row) : Option Row :=
  latest (fun row => row.integer = some thcId ∧ row.sizeNumber = size) rows

/-- The last row that is entered under these digits and this size. -/
def lastEntered (digits : String) (size : Number) (rows : List Row) : Option Row :=
  latest (fun row => row.digits = some digits ∧ row.sizeNumber = size) rows

structure CsvKept (rows : List Row) (rateTable : RateTable) : Prop where
  numbers : ∀ digits size rate, rateTable.cell digits size = some rate → rate ≠ .nan
  rates : ∀ thcId size,
    .finite (lookUpBreedRate (hashTable rateTable) thcId size) =
      (lastOf thcId size rows).elim (.finite 0) Row.rateNumber

structure WellWritten (rows : List Row) : Prop where
  numeric : ∀ digits size row, lastEntered digits size rows = some row →
    row.rateNumber ≠ .nan
  unpadded : ∀ thcId size row, lastOf thcId size rows = some row →
    row.digits ≠ some (toString thcId) →
      row.rateNumber =
        (lastEntered (toString thcId) size rows).elim (.finite 0) Row.rateNumber

section Runs

variable {accepts : Char → Bool} {text run : String}

theorem matchRun_eq_some (matched : matchRun accepts text = some run) :
    ∀ char ∈ run.toList, accepts char = true := by
  unfold matchRun at matched
  split at matched
  · cases matched
  · cases matched
    intro char member
    rw [String.toList_ofList] at member
    exact List.mem_takeWhile_imp member

end Runs

/-- No rate is spelled with the letters of `Infinity`. -/
theorem rateNumber_ne_infinite (row : Row) (negative : Bool) :
    row.rateNumber ≠ .infinite negative := by
  unfold Row.rateNumber
  cases matched : matchRun isRateChar row.rate with
  | none => exact nofun
  | some run =>
      apply Number.ofString_ne_infinite
      intro member
      exact absurd (matchRun_eq_some matched 'I' member) (by decide)

section Generator

variable {rateTable after : RateTable} {rows : List Row} {row : Row}

/-- What an accepted row does: the header nothing, and every other row one write. -/
theorem onData_eq_ok (accepted : onData rateTable row = .ok after) :
    row.digits = none ∧ after = rateTable ∨
      ∃ digits, row.digits = some digits ∧
        after = rateTable.write digits row.sizeNumber row.rateNumber := by
  unfold onData at accepted
  split at accepted
  · cases accepted
  · split at accepted
    next header =>
      cases accepted
      left
      refine ⟨?_, rfl⟩
      rw [Row.digits, header.1]
      decide
    next =>
      dsimp only at accepted
      split at accepted
      next digits rate entered rated =>
        split at accepted
        · cases accepted
        · cases accepted
          refine .inr ⟨digits, entered, ?_⟩
          rw [Row.sizeNumber, Row.rateNumber, rated, Option.elim_some]
      next => cases accepted

theorem cell_onData (accepted : onData rateTable row = .ok after) (digits : String)
    (size : Number) :
    after.cell digits size =
      if row.digits = some digits ∧ row.sizeNumber = size then some row.rateNumber
      else rateTable.cell digits size := by
  rcases onData_eq_ok accepted with ⟨absent, rfl⟩ | ⟨entered, present, rfl⟩
  · rw [if_neg]
    intro named
    rw [absent] at named
    cases named.1
  · rw [Cells.cell_write, present]
    simp only [Option.some_inj]

theorem lastEntered_concat (digits : String) (size : Number) :
    lastEntered digits size (rows ++ [row]) =
      if row.digits = some digits ∧ row.sizeNumber = size then some row
      else lastEntered digits size rows := by
  rw [lastEntered, latest_concat]
  simp only [decide_eq_true_iff]
  rfl

/-- The run lemma: a cell holds the rate of the last row that is entered there. -/
theorem cell_of_accepted (accepted : thcHashTable rows = .ok rateTable)
    (digits : String) (size : Number) :
    rateTable.cell digits size = (lastEntered digits size rows).map Row.rateNumber := by
  induction rows using List.reverseRecOn generalizing rateTable with
  | nil =>
      cases accepted
      rw [Cells.cell_empty, lastEntered, latest_nil, Option.map_none]
  | append_singleton rows row induction =>
      rw [thcHashTable, List.foldlM_append] at accepted
      cases started : rows.foldlM onData ∅ with
      | error message =>
          rw [started] at accepted
          cases accepted
      | ok before =>
          rw [started] at accepted
          change [row].foldlM onData before = .ok rateTable at accepted
          simp only [List.foldlM_cons, List.foldlM_nil, bind_pure] at accepted
          rw [cell_onData accepted, induction started, lastEntered_concat]
          split <;> rfl

end Generator

section Lookup

variable {rateTable : RateTable} {rows : List Row} {row : Row} {thcId : Int}
  {size : Number}

theorem integer_of_digits (entered : row.digits = some (toString thcId)) :
    row.integer = some thcId := by
  rw [Row.integer, entered, Option.map_some, ofDigitChars_toString]
  exact matchRun_eq_some entered

theorem selects_of_entered
    (entered : decide (row.digits = some (toString thcId) ∧ row.sizeNumber = size) = true) :
    decide (row.integer = some thcId ∧ row.sizeNumber = size) = true := by
  have both := of_decide_eq_true entered
  exact decide_eq_true ⟨integer_of_digits both.1, both.2⟩

/-- A row that writes its integer as JavaScript does is read back. -/
theorem lastEntered_of_lastOf (last : lastOf thcId size rows = some row)
    (entered : row.digits = some (toString thcId)) :
    lastEntered (toString thcId) size rows = some row := by
  have selected := of_decide_eq_true (of_latest last).2
  apply latest_of_imp _ last (decide_eq_true ⟨entered, selected.2⟩)
  intro other named
  exact selects_of_entered named

theorem lastEntered_eq_none (absent : lastOf thcId size rows = none) :
    lastEntered (toString thcId) size rows = none := by
  rw [lastOf, latest_eq_none] at absent
  rw [lastEntered, latest_eq_none]
  intro other member named
  exact absent other member (selects_of_entered named)

theorem finite_lookUpBreedRate (accepted : thcHashTable rows = .ok rateTable)
    (numeric : ∀ row, lastEntered (toString thcId) size rows = some row →
      row.rateNumber ≠ .nan) :
    .finite (lookUpBreedRate (hashTable rateTable) thcId size) =
      (lastEntered (toString thcId) size rows).elim (.finite 0) Row.rateNumber := by
  rw [lookUpBreedRate, hashTable, Cells.cell_map, cell_of_accepted accepted]
  cases last : lastEntered (toString thcId) size rows with
  | none => rfl
  | some row =>
      rw [Option.map_some, Option.map_some, Option.elim_some]
      cases rate : row.rateNumber with
      | nan => exact absurd rate (numeric row last)
      | infinite negative => exact absurd rate (rateNumber_ne_infinite row negative)
      | finite value => rfl

theorem CsvKept.numeric (accepted : thcHashTable rows = .ok rateTable)
    (kept : CsvKept rows rateTable) (digits : String)
    (last : lastEntered digits size rows = some row) : row.rateNumber ≠ .nan := by
  apply kept.numbers digits size
  rw [cell_of_accepted accepted, last, Option.map_some]

/-- The file says what the rows say just when the last row of every cell has a number
for its rate, and no integer with leading zeros hides the rate that is looked up. -/
theorem csv_kept_iff (accepted : thcHashTable rows = .ok rateTable) :
    CsvKept rows rateTable ↔ WellWritten rows := by
  constructor
  · intro kept
    constructor
    · intro digits size row last
      exact kept.numeric accepted digits last
    · intro thcId size row last _
      have numeric : ∀ row, lastEntered (toString thcId) size rows = some row →
          row.rateNumber ≠ .nan :=
        fun _ last => kept.numeric accepted (toString thcId) last
      have looked := finite_lookUpBreedRate accepted numeric
      rw [kept.rates, last, Option.elim_some] at looked
      exact looked
  · intro written
    constructor
    · intro digits size rate present
      rw [cell_of_accepted accepted] at present
      obtain ⟨row, last, rfl⟩ := Option.map_eq_some_iff.mp present
      exact written.numeric digits size row last
    · intro thcId size
      rw [finite_lookUpBreedRate accepted (written.numeric (toString thcId) size)]
      cases last : lastOf thcId size rows with
      | none => rw [lastEntered_eq_none last]
      | some row =>
          by_cases entered : row.digits = some (toString thcId)
          · rw [lastEntered_of_lastOf last entered]
          · exact (written.unpadded thcId size row last entered).symm

theorem wellWritten_of_all (each : ∀ row ∈ rows, row.digits = none ∨
    row.rateNumber ≠ .nan ∧ row.digits = row.integer.map toString) :
    WellWritten rows := by
  constructor
  · intro digits size row last
    have found := of_latest last
    have entered := of_decide_eq_true found.2
    rcases each row found.1 with absent | spelled
    · rw [absent] at entered
      cases entered.1
    · exact spelled.1
  · intro thcId size row last padded
    have found := of_latest last
    have selected := of_decide_eq_true found.2
    rcases each row found.1 with absent | spelled
    · rw [Row.integer, absent] at selected
      cases selected.1
    · rw [spelled.2, selected.1] at padded
      exact absurd rfl padded

theorem exists_accepted (accepted : (thcHashTable rows).isOk = true) :
    ∃ rateTable, thcHashTable rows = .ok rateTable := by
  cases same : thcHashTable rows with
  | error message =>
      rw [same] at accepted
      cases accepted
  | ok rateTable => exact ⟨rateTable, rfl⟩

end Lookup

section Files

/-- The first rows of `thc_hash_table.csv`. -/
def firstRows : List Row :=
  [⟨"THC", "Size", "Rate"⟩, ⟨"THC 1%", "7", "-2.10%"⟩, ⟨"THC 1%", "8", "-2.10%"⟩]

def dashedRate : List Row :=
  [⟨"THC 1%", "7", "-"⟩]

def paddedThc : List Row :=
  [⟨"THC 01%", "7", "-2%"⟩]

theorem csv_kept_iff_firstRows :
    ∃ rateTable, thcHashTable firstRows = .ok rateTable ∧
      CsvKept firstRows rateTable := by
  obtain ⟨rateTable, accepted⟩ :=
    @exists_accepted firstRows (by decide +kernel)
  refine ⟨rateTable, accepted, (csv_kept_iff accepted).mpr ?_⟩
  exact wellWritten_of_all (by decide +kernel)

/-- A dash is entered as a rate, and `01` is not found when `1` is looked up. -/
theorem dashes_and_zeros_lost :
    (∃ rateTable, thcHashTable dashedRate = .ok rateTable ∧
      ¬ CsvKept dashedRate rateTable) ∧
    ∃ rateTable, thcHashTable paddedThc = .ok rateTable ∧
      ¬ CsvKept paddedThc rateTable := by
  constructor
  · obtain ⟨rateTable, accepted⟩ :=
      @exists_accepted dashedRate (by decide +kernel)
    refine ⟨rateTable, accepted, fun kept => ?_⟩
    apply kept.numbers "1" (.finite 7) .nan _ rfl
    rw [cell_of_accepted accepted]
    decide +kernel
  · obtain ⟨rateTable, accepted⟩ :=
      @exists_accepted paddedThc (by decide +kernel)
    refine ⟨rateTable, accepted, fun kept => ?_⟩
    have found := kept.rates 1 (.finite 7)
    have looked := @finite_lookUpBreedRate _ _ 1 (.finite 7) accepted
      (fun row last => kept.numeric accepted (toString (1 : Int)) last)
    rw [looked] at found
    exact absurd found (by decide +kernel)

end Files

section Loading

/-- The integer that a key writes, if it writes one. -/
def keyValue (key : String) : Int :=
  match key.toList with
  | '-' :: digits => -Nat.ofDigitChars 10 digits 0
  | digits => Nat.ofDigitChars 10 digits 0

def integerKey (key : String) : Option Int :=
  if toString (keyValue key) = key then some (keyValue key) else none

def integerSize (size : Number) : Option Int :=
  match size with
  | .finite value => if value.den = 1 then some value.num else none
  | _ => none

def loadedSizes (sizes : AList fun _ : Number => Option Rat) : List (Int × Rat) :=
  sizes.entries.filterMap fun entry =>
    (integerSize entry.1).bind fun size => entry.2.map fun rate => (size, rate)

/-- The file as the services read it: by integers, without what is `null`. -/
def loaded (hashTable : HashTable) : List (Int × List (Int × Rat)) :=
  hashTable.entries.filterMap fun entry =>
    (integerKey entry.1).map fun thcId => (thcId, loadedSizes entry.2)

theorem keyValue_toString (value : Int) : keyValue (toString value) = value := by
  cases value with
  | ofNat value =>
      change keyValue (toString (value : Int)) = value
      rw [toString_natCast, keyValue, String.toList_ofList]
      split
      next digits signed =>
        have digit : '-'.isDigit = true := by
          apply decimal_toDigits value
          rw [signed]
          exact List.mem_cons_self
        exact absurd digit (by decide)
      next => rw [Nat.ofDigitChars_ten_toDigits]
  | negSucc value =>
      have written : (toString (Int.negSucc value)).toList =
          '-' :: Nat.toDigits 10 (value + 1) := by
        change ("-" ++ toString (value + 1)).toList = _
        rw [Nat.toString_eq_ofList_toDigits, String.toList_append, String.toList_ofList,
          String.toList_ofList]
        rfl
      rw [keyValue, written]
      change -((Nat.ofDigitChars 10 (Nat.toDigits 10 (value + 1)) 0 : Nat) : Int) = _
      rw [Nat.ofDigitChars_ten_toDigits]
      rfl

theorem integerKey_eq_some {key : String} {value : Int} :
    integerKey key = some value ↔ key = toString value := by
  unfold integerKey
  constructor
  · intro read
    split at read
    next same =>
      cases read
      exact same.symm
    next => cases read
  · rintro rfl
    rw [keyValue_toString, if_pos rfl]

theorem integerSize_eq_some {size : Number} {value : Int} :
    integerSize size = some value ↔ size = .finite value := by
  cases size with
  | nan => exact iff_of_false nofun nofun
  | infinite negative => exact iff_of_false nofun nofun
  | finite size =>
      rw [integerSize, Number.finite.injEq]
      constructor
      · intro read
        split at read
        next whole =>
          cases read
          exact (Rat.den_eq_one_iff size).mp whole |>.symm
        next => cases read
      · rintro rfl
        exact if_pos rfl

theorem lookup_loadedSizes (sizes : AList fun _ : Number => Option Rat) (size : Int) :
    (loadedSizes sizes).lookup size = (sizes.lookup (.finite size)).join := by
  have found : (loadedSizes sizes).lookup size =
      (sizes.entries.dlookup (.finite size)).bind id := by
    apply Cells.lookup_filterMap sizes.nodupKeys
    · intro entry row kept named
      obtain ⟨value, whole, rated⟩ := Option.bind_eq_some_iff.mp kept
      obtain ⟨rate, -, rfl⟩ := Option.map_eq_some_iff.mp rated
      rw [← named]
      exact integerSize_eq_some.mp whole
    · intro rate
      rw [integerSize_eq_some.mpr rfl, Option.bind_some]
      rfl
  exact found

theorem lookUpBreedRate_eq (hashTable : HashTable) (thcId : Int) (budSize : Number) :
    lookUpBreedRate hashTable thcId budSize =
      (hashTable.cell (toString thcId) budSize).join.getD 0 := by
  unfold lookUpBreedRate
  split
  next rate present => rw [present]; rfl
  next absent =>
    cases entry : hashTable.cell (toString thcId) budSize with
    | none => rfl
    | some rate =>
        cases rate with
        | none => rfl
        | some rate => exact absurd entry (absent rate)

/-- The services look up what the file has. -/
theorem lookUpBreedRate_loaded (app : App) (hashTable : HashTable) (thcId size : Int)
    (built : app.tables.hashTable = loaded hashTable) :
    HashTableService.lookUpBreedRate app thcId size =
      lookUpBreedRate hashTable thcId (.finite size) := by
  have row : (loaded hashTable).lookup thcId =
      (hashTable.lookup (toString thcId)).bind fun sizes => some (loadedSizes sizes) := by
    rw [loaded, Cells.lookup_filterMap hashTable.nodupKeys]
    · rfl
    · intro entry row kept named
      obtain ⟨value, key, rfl⟩ := Option.map_eq_some_iff.mp kept
      rw [← named]
      exact integerKey_eq_some.mp key
    · intro sizes
      rw [integerKey_eq_some.mpr rfl]
      rfl
  rw [HashTableService.lookUpBreedRate, HashTableService.lookUp, built, row,
    lookUpBreedRate_eq, Cells.cell]
  cases hashTable.lookup (toString thcId) with
  | none => rfl
  | some sizes =>
      rw [Option.bind_some, Option.bind_some, Option.bind_some, lookup_loadedSizes]

end Loading

end BudBreeding.Tables
