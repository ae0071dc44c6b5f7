import BudBreeding.Data.Cells
import BudBreeding.Backend.Numbers

namespace BudBreeding.Tables

open Data Backend

/-! `data/thcHashTable.ts`, which turns the rows of a CSV file into `hashTable.json`,
and the lookup in that file. -/

structure Row where
  thc : String
  size : String
  rate : String
  deriving DecidableEq, Repr

def escape (char : Char) : String :=
  if char = '"' then "\\\""
  else if char = '\\' then "\\\\"
  else if char.toNat = 8 then "\\b"
  else if char.toNat = 9 then "\\t"
  else if char.toNat = 10 then "\\n"
  else if char.toNat = 12 then "\\f"
  else if char.toNat = 13 then "\\r"
  else if char.toNat < 32 then
    "\\u00" ++ String.ofList [Nat.digitChar (char.toNat / 16), Nat.digitChar (char.toNat % 16)]
  else String.singleton char

/-- `JSON.stringify` of a text. -/
def quote (text : String) : String :=
  "\"" ++ String.join (text.toList.map escape) ++ "\""

def Row.json (row : Row) : String :=
  "\x7b\"THC\":" ++ quote row.thc ++ ",\"Size\":" ++ quote row.size ++
    ",\"Rate\":" ++ quote row.rate ++ "\x7d"

def headers : String :=
  "[\"THC\",\"Size\",\"Rate\"]"

/-- `text.match(/[...]+/)?.[0]`, the first run of the characters of a class. -/
def matchRun (accepts : Char → Bool) (text : String) : Option String :=
  match (text.toList.dropWhile fun char => !accepts char).takeWhile accepts with
  | [] => none
  | run => some (String.ofList run)

/-- The class `[0-9.-]`. -/
def isRateChar (char : Char) : Bool :=
  char.isDigit ∨ char = '.' ∨ char = '-'

/-- `rateTable`, by the digits of the THC and the number of the size. -/
abbrev RateTable := Cells String Number Number

/-- The handler of a row; it throws the text of an error. -/
def onData (rateTable : RateTable) (row : Row) : Except String RateTable :=
  if row.thc = "" ∨ row.size = "" ∨ row.rate = "" then
    .error ("Invalid row: \x7b\"headers\":" ++ headers ++ ",\"row\":" ++ row.json ++ "\x7d")
  else if row.thc = "THC" ∧ row.size = "Size" ∧ row.rate = "Rate" then
    .ok rateTable
  else
    let size := Number.ofString row.size
    match matchRun Char.isDigit row.thc, matchRun isRateChar row.rate with
    | some thc, some rate =>
        if size = .nan then
          .error ("Invalid format: " ++ row.json)
        else
          .ok (rateTable.write thc size (Number.ofString rate))
    | _, _ => .error ("Invalid format: " ++ row.json)

def thcHashTable (rows : List Row) : Except String RateTable :=
  rows.foldlM onData ∅

/-- `hashTable.json`, where `none` is `null`. -/
abbrev HashTable := Cells String Number (Option Rat)

/-- `JSON.stringify` of a number. -/
def json : Number → Option Rat
  | .finite value => some value
  | _ => none

def hashTable (rateTable : RateTable) : HashTable :=
  rateTable.map json

/-- `hashTable[thcId]?.[budSize]`, with the integer written out in full. -/
def lookUpBreedRate (hashTable : HashTable) (thcId : Int) (budSize : Number) : Rat :=
  match hashTable.cell (toString thcId) budSize with
  | some (some rate) => rate
  | _ => 0

end BudBreeding.Tables
