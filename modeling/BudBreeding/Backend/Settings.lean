import BudBreeding.Backend.Schema

namespace BudBreeding.Backend

/-! `config/app.config.ts`, `config.ts` and the JSON tables under `data/`. -/

inductive Network where
  | goerli
  | mainnet
  deriving DecidableEq, Repr

def Network.name : Network → String
  | .goerli => "goerli"
  | .mainnet => "mainnet"

structure AppConfig where
  network : Network
  renameAllowedTime : Int
  timePeriod : Int
  baseSuccessRate : Rat
  indoorSlotBonusRate : Rat
  breedingPointPerLevel : Int
  breedingPointToOpenSlot : Int
  breedingPointToCovertIndoor : Int
  burnSuccessRate : Rat
  targetLevel : Int
  landPrice : Int
  targetLevel_pos : 0 < targetLevel

def appConfig (network : Network) : AppConfig where
  network := network
  renameAllowedTime := 10 * 60 * 1000
  timePeriod :=
    match network with
    | .mainnet => 1 * 60 * 60 * 24
    | .goerli => 10
  baseSuccessRate := 10
  indoorSlotBonusRate := 5
  breedingPointPerLevel := 15
  breedingPointToOpenSlot := 42
  breedingPointToCovertIndoor := 69
  burnSuccessRate := 60
  targetLevel := 5
  landPrice := 140
  targetLevel_pos := by decide

structure Addresses where
  BUD_BURN : Address
  STAKING : Address

def ADDRESSES : Network → Addresses
  | .goerli =>
      { BUD_BURN := "0x8b29E498a4F7e876fc310FE25BEFAb44515244E3"
        STAKING := "0x04e5b0453C2A3DDca06EB67E29Da85538e3AC4C6" }
  | .mainnet =>
      { BUD_BURN := "0x8EAa25F71D059293a8bFF0Da7974ea29a77D4154"
        STAKING := "0xcCA03DD3843079e0BEb0e98E0d7A946556caA097" }

/-! `GameItem` of `types.ts`. -/

namespace GameItem

def ROLLING_PAPER : Int := 1
def HOODIE : Int := 2
def SUPERWEED_SERUM : Int := 3
def FARMER_PASS : Int := 4
def WEED_DR_PASS : Int := 5

end GameItem

structure NameAndImage where
  name : String
  image : String
  gen1Video : String

structure ThcAndBudSize where
  thc : Int
  budSize : Int
  deriving DecidableEq, Repr

/-- A nonempty list, so that an index drawn below its length can be read. -/
structure Choices (α : Type) where
  first : α
  others : List α

def Choices.toList (choices : Choices α) : List α :=
  choices.first :: choices.others

/-- The JSON tables the services look things up in.  `hashTableGen1` lists its
groups by their numeric keys in ascending order. -/
structure GameTables where
  budNames : Choices NameAndImage
  hashTable : List (Int × List (Int × Rat))
  hashTableBegin : List (Int × List (Int × Rat))
  hashTableGen1 : Choices (Rat × Choices ThcAndBudSize)

private def budName (name image : String) (position : String) : NameAndImage where
  name := name
  image := "https://looklabs.s3.amazonaws.com/buds/420_" ++ image ++ ".mp4"
  gen1Video :=
    "https://looklabs.mypinata.cloud/ipfs/QmZ1ycjX1sc6KuZBMf5PQb798Pv1QCA7PP6qHSEr1gubTi/Gen1_"
      ++ position ++ "_fantasy_0001-0240.mp4"

private def rates (thc : Int) (firstSize : Int) (values : List Rat) :
    Int × List (Int × Rat) :=
  (thc, values.mapIdx fun index value => (firstSize + index, value))

private def sizesOf (thc : Int) : List ThcAndBudSize :=
  [⟨thc, 1⟩, ⟨thc, 2⟩, ⟨thc, 3⟩, ⟨thc, 4⟩, ⟨thc, 5⟩,
    ⟨thc, 6⟩, ⟨thc, 7⟩, ⟨thc, 8⟩, ⟨thc, 9⟩, ⟨thc, 10⟩]

private def groupOf (first : ThcAndBudSize) (others : List ThcAndBudSize)
    (thcs : List Int) : Choices ThcAndBudSize :=
  ⟨first, others ++ thcs.flatMap sizesOf⟩

def gameTables : GameTables where
  budNames :=
    { first := budName "Apple Fritter" "AppleFritter" "01"
      others := [
        budName "Biscotti" "Biscotti" "02",
        budName "Blue OX" "Blue_Ox" "03",
        budName "Blueberry OG" "Blueberry" "04",
        budName "Blue Dream" "BlueDream" "05",
        budName "Bruce Banner" "Bruce_Banner" "06",
        budName "Do-Si-Dos" "DoSiDos" "07",
        budName "Forbidden Fruit" "ForbiddenFruit" "08",
        budName "Gelato" "Gelato" "09",
        budName "Golden Goat" "Golden_Goat" "10",
        budName "Gorilla Glue" "Gorilla_Glue" "11",
        budName "Granddaddy Purple" "GranddayPurple" "12",
        budName "Grandma's Sugar Cookies" "Grandmas_Sugar_Cookies" "13",
        budName "L.A. Confidential" "LA_Confidential" "14",
        budName "Northern Lights" "Northern_Lights" "15",
        budName "OG Kush" "OG_Kush" "16",
        budName "Orange Bud" "Orange_Bud" "17",
        budName "Pink Lemonade" "Pink_Lemonade" "18",
        budName "Purple Haze" "PurpleHaze" "19",
        budName "White Runtz" "White_Runtz" "20"] }
  hashTable := [
    rates 1 1 [-1, -1, -1, -1, -1, 2, 2, 2, 2, 2],
    rates 2 1 [-8/10, -8/10, -8/10, -8/10, -8/10, 22/10, 22/10, 22/10, 22/10, 22/10],
    rates 3 1 [15/10, 15/10, 15/10, 0, 0, 0, -2, -2, -2, -2],
    rates 4 1 [25/10, 25/10, 25/10, 25/10, 25/10, 3, 3, 3, 3, 3],
    rates 5 1 [-3, -3, -3, -3, -3, -3, -3, -3, -3, -3],
    rates 6 1 [17/10, 17/10, 17/10, 17/10, 17/10, 0, 0, 0, 0, 0],
    rates 7 1 [15/10, 15/10, 15/10, 15/10, 15/10, -1, -1, -1, 2, 2],
    rates 9 1 [-18/10, -18/10, -18/10, -18/10, -18/10,
      -18/10, -18/10, -18/10, -18/10, -18/10],
    rates 10 1 [-15/10, -15/10, -15/10, -15/10, 0, 0, 0, 0, 0, 0],
    rates 11 1 [15/10, 15/10, 15/10, 0, 0, 0, -21/10, -21/10, -21/10, -21/10],
    rates 12 1 [15/10, 15/10, 15/10, 0, 0, 0, -2, -2, -2, -2],
    rates 13 1 [-9/10, -9/10, -9/10, -9/10, -9/10, 2, 2, 2, 2, 2],
    rates 14 1 [-8/10, -8/10, -8/10, -8/10, -8/10, 2, 2, 2, 2, 2],
    rates 15 1 [25/10, 25/10, 25/10, 25/10, 25/10, 3, 3, 3, 3, 3],
    rates 16 1 [-12/10, -12/10, -12/10, -12/10, -12/10, 2, 2, 2, 2, 2],
    rates 17 1 [25/10, 25/10, 25/10, 25/10, 25/10, 3, 3, 3, 3, 3],
    rates 18 1 [-17/10, -17/10, -17/10, 7/10, 7/10, 0, 2, 2, 0, 0],
    rates 19 1 [25/10, 25/10, 25/10, 25/10, 25/10, 3, 3, 3, 3, 3],
    rates 20 1 [-3, -3, -3, -3, -3, -1, -3, -1, -1, -1],
    rates 21 1 [25/10, 25/10, 25/10, 25/10, 25/10, 3, 3, 3, 3, 3],
    rates 22 1 [25/10, 15/10, 15/10, 5/10, 5/10, 3, 3, 3, 35/10, 35/10]]
  hashTableBegin := [
    rates 1 1 [2, 2, 2],
    rates 2 1 [25/10, 25/10, 25/10],
    rates 3 1 [3, 3, 3],
    rates 6 1 [4, 4, 4, 4, 4],
    rates 7 1 [4, 4, 4, 4, 4],
    rates 11 6 [3, 3, 3, 3, 3],
    rates 12 6 [35/10, 35/10, 35/10, 35/10, 35/10],
    rates 13 6 [3, 3, 3, 3, 3],
    rates 14 6 [3, 3, 3, 3, 3],
    rates 15 6 [3, 3, 3, 3, 3],
    rates 16 1 [5, 5, 5, 5, 5, 5, 5, 5, 5, 5],
    rates 17 1 [5, 5, 5, 5, 5, 5, 5, 5, 5, 5],
    rates 18 1 [5, 5, 5, 5, 5, 5, 5, 5, 5, 5],
    rates 19 1 [5, 5, 5, 5, 5, 5, 5, 5, 5, 5],
    rates 20 1 [5, 5, 5, 5, 5, 5, 5, 5, 5, 5],
    rates 21 1 [5, 5, 5, 5, 5, 5, 5, 5, 5, 5],
    rates 22 1 [5, 5, 5, 5, 5, 5, 5, 5, 5, 5]]
  hashTableGen1 :=
    { first := (15, groupOf ⟨35, 1⟩ (sizesOf 35).tail [])
      others := [
        (35, groupOf ⟨23, 1⟩ (sizesOf 23).tail
          [24, 25, 26, 27, 28, 29, 30, 31, 32, 33, 34]),
        (50, groupOf ⟨16, 1⟩ (sizesOf 16).tail [17, 18, 19, 20, 21, 22])] }

/-- A running server: its configuration and the tables it was built with. -/
structure App where
  config : AppConfig
  tables : GameTables

def liveApp (network : Network) : App where
  config := appConfig network
  tables := gameTables

end BudBreeding.Backend
