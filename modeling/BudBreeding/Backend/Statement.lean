import Mathlib.Data.List.FinRange
import Mathlib.Logic.Equiv.Fin.Basic
import Mathlib.Data.Rat.Floor
import BudBreeding.Program.Pool
import BudBreeding.Backend.Database

namespace BudBreeding.Backend

open Data Program

/-! The awaited calls of the handlers: the Prisma statements, and the requests to
the chain, the metadata API, the signer, the clock and the random generator. -/

inductive PrismaError where
  | recordNotFound
  | uniqueConstraint
  | foreignKeyConstraint
  | invalidValue
  deriving DecidableEq, Repr

inductive MintType where
  | Gen1Bud
  | Land
  | Ticket
  | GameItem
  | ConvertBP2HIGH
  deriving DecidableEq, Repr

/-- The arguments of `signMintRequest`. -/
structure MintRequest where
  address : Address
  typeString : MintType
  tokenId : Int
  amount : Rat
  timestamp : Time
  deriving DecidableEq, Repr

/-- A value of `Math.random()`. -/
def Draw := { value : Rat // 0 ≤ value ∧ value < 1 }

inductive Query where
  | userFindUnique (address : Address)
  | userUpdate (address : Address) (breedingPoint : Rat)
  | userUpsert (address : Address) (signature : String) (gameKeyId : Int)
  | breedPairFindFirst (filter : BreedPair → Bool)
  | breedPairFindMany (filter : BreedPair → Bool)
  | breedPairCount (filter : BreedPair → Bool)
  | breedPairCreate (data : BreedPairCreate)
  | breedPairUpdate (id : Int) (data : BreedPairUpdate)
  | breedPairUpdateMany (filter : BreedPair → Bool) (data : BreedPairUpdate)
  | breedLevelFindFirst (filter : BreedLevel → Bool)
  | breedLevelCreate (data : BreedLevelCreate)
  | breedLevelUpdate (id : Int) (data : BreedLevelUpdate)
  | breedLevelSumBonusRate (filter : BreedLevel → Bool)
  | breedBudFindMany (filter : BreedBud → Bool)
  | breedBudCreateMany (levelId : Int) (buds : List Bud)
  | breedSlotFindFirst (filter : BreedSlot → Bool)
  | breedSlotFindMany (filter : BreedSlot → Bool)
  | breedSlotCount (gameKeyId : Option Int) (filter : BreedSlot → Bool)
  | breedSlotCreateMany (data : List BreedSlotCreate)
  | breedSlotUpdate (id : Int) (data : BreedSlotUpdate)
  | breedSlotUpdateMany (filter : BreedSlot → Bool) (data : BreedSlotUpdate)
  | eventServiceLogCount (filter : EventServiceLog → Bool)
  | eventServiceLogCreate (data : EventServiceLogCreate)
  | gen1BudFindFirst (filter : Gen1Bud → Bool)
  | gen1BudCount (filter : Gen1Bud → Bool)
  | gen1BudCreate (data : Gen1BudCreate)
  | gen1BudUpdateSignature (id : Int) (signature : Option String)
  | gen1BudUpdateName (id : Int) (name : String)
  | dateNow
  | mathRandom
  | ownerOfBuds (budIds : List Int)
  | ownerOfGameKey (gameKeyId : Int)
  | balanceOfGameItem (user : Address) (id : Int)
  | budsOfMetadataApi (tokenIds : List Int)
  | signMessage (request : MintRequest)
  | verifyMessage (message signature : String)
  | checkBudNameApi (name : String)

abbrev Query.Answer : Query → Type
  | .userFindUnique _ => Option User
  | .userUpdate _ _ => Except PrismaError User
  | .userUpsert _ _ _ => Except PrismaError User
  | .breedPairFindFirst _ => Option BreedPair
  | .breedPairFindMany _ => List BreedPair
  | .breedPairCount _ => Nat
  | .breedPairCreate _ => Except PrismaError BreedPair
  | .breedPairUpdate _ _ => Except PrismaError BreedPair
  | .breedPairUpdateMany _ _ => Unit
  | .breedLevelFindFirst _ => Option BreedLevel
  | .breedLevelCreate _ => Except PrismaError BreedLevel
  | .breedLevelUpdate _ _ => Except PrismaError BreedLevel
  | .breedLevelSumBonusRate _ => Rat
  | .breedBudFindMany _ => List BreedBud
  | .breedBudCreateMany _ _ => Unit
  | .breedSlotFindFirst _ => Option BreedSlot
  | .breedSlotFindMany _ => List BreedSlot
  | .breedSlotCount _ _ => Except PrismaError Nat
  | .breedSlotCreateMany _ => Except PrismaError Unit
  | .breedSlotUpdate _ _ => Except PrismaError BreedSlot
  | .breedSlotUpdateMany _ _ => Unit
  | .eventServiceLogCount _ => Nat
  | .eventServiceLogCreate _ => Except PrismaError Unit
  | .gen1BudFindFirst _ => Option Gen1Bud
  | .gen1BudCount _ => Nat
  | .gen1BudCreate _ => Gen1Bud
  | .gen1BudUpdateSignature _ _ => Except PrismaError Gen1Bud
  | .gen1BudUpdateName _ _ => Except PrismaError Gen1Bud
  | .dateNow => Time
  | .mathRandom => Draw
  | .ownerOfBuds _ => Option (List Address)
  | .ownerOfGameKey _ => Option Address
  | .balanceOfGameItem _ _ => Option Nat
  | .budsOfMetadataApi _ => Option (List BudWithId)
  | .signMessage _ => Option String
  | .verifyMessage _ _ => Option Address
  | .checkBudNameApi _ => Option Bool

/-- What the database does not decide when it answers a query: the clock, the
random generator, the chain, the two APIs, the signer, and the order in which
rows come back from a query without `ORDER BY`. -/
structure Oracle where
  now : Time
  random : Draw
  budOwner : Int → Option Address
  gameKeyOwner : Int → Option Address
  gameItemBalance : Address → Int → Option Nat
  metadata : List Int → Option (List BudWithId)
  signature : MintRequest → Option String
  signer : String → String → Option Address
  validBudName : String → Option Bool
  order : (size : Nat) → Equiv.Perm (Fin size)

namespace Oracle

def arrange {α : Type} (oracle : Oracle) (rows : List α) : List α :=
  List.ofFn fun position => rows.get (oracle.order rows.length position)

theorem arrange_perm {α : Type} (oracle : Oracle) (rows : List α) :
    (oracle.arrange rows).Perm rows := by
  have shuffled := Equiv.Perm.ofFn_comp_perm (oracle.order rows.length) rows.get
  rw [List.ofFn_get] at shuffled
  exact shuffled

@[simp] theorem mem_arrange {α : Type} {oracle : Oracle} {rows : List α}
    {row : α} : row ∈ oracle.arrange rows ↔ row ∈ rows :=
  (oracle.arrange_perm rows).mem_iff

/-- The first matching row the database finds. -/
def findFirst {α : Type} (oracle : Oracle) (rows : List α)
    (filter : α → Bool) : Option α :=
  (oracle.arrange (rows.filter filter)).head?

theorem findFirst_eq_some {α : Type} {oracle : Oracle} {rows : List α}
    {filter : α → Bool} {row : α}
    (found : oracle.findFirst rows filter = some row) :
    row ∈ rows ∧ filter row = true := by
  have member := List.mem_of_mem_head? found
  rw [mem_arrange, List.mem_filter] at member
  exact member

theorem findFirst_eq_none {α : Type} {oracle : Oracle} {rows : List α}
    {filter : α → Bool} :
    oracle.findFirst rows filter = none ↔
      ∀ row ∈ rows, filter row = false := by
  rw [findFirst, List.head?_eq_none_iff]
  constructor
  · intro nothing row member
    by_contra matching
    have present : row ∈ oracle.arrange (rows.filter filter) := by
      simpa [member] using matching
    rw [nothing] at present
    exact List.not_mem_nil present
  · intro none
    apply List.eq_nil_iff_forall_not_mem.mpr
    intro row member
    rw [mem_arrange, List.mem_filter] at member
    have unmatched := none row member.1
    rw [member.2] at unmatched
    exact Bool.false_ne_true unmatched.symm

end Oracle

def orNotFound {α : Type} : Option α → Except PrismaError α
  | some row => .ok row
  | none => .error .recordNotFound

/-- Executing a query: its answer and the database after it.  Rows are never
deleted, so only references to rows the caller has not looked up are checked. -/
def exec (oracle : Oracle) : (query : Query) → Db → query.Answer × Db
  | .userFindUnique address, db => (db.user.find address, db)
  | .userUpdate address breedingPoint, db =>
      match toIntColumn breedingPoint with
      | none => (.error .invalidValue, db)
      | some column =>
          (orNotFound ((db.user.find address).map
            fun user => { user with breedingPoint := column }),
            db.setBreedingPoint address column)
  | .userUpsert address signature gameKeyId, db =>
      if fitsIntColumn gameKeyId then
        (.ok (match db.user.find address with
          | some user =>
              { user with signature := signature, gameKeyId := some gameKeyId }
          | none => ⟨address, signature, some gameKeyId, 0⟩),
          db.upsertUser address signature gameKeyId)
      else
        (.error .invalidValue, db)
  | .breedPairFindFirst filter, db =>
      (oracle.findFirst db.breedPair.rows filter, db)
  | .breedPairFindMany filter, db =>
      (oracle.arrange (db.breedPair.rows.filter filter), db)
  | .breedPairCount filter, db => (db.breedPair.rows.countP filter, db)
  | .breedPairCreate data, db =>
      match db.user.find data.userAddress with
      | none => (.error .foreignKeyConstraint, db)
      | some _ =>
          (.ok (data.row oracle.now db.breedPair.nextId),
            db.createBreedPair data oracle.now)
  | .breedPairUpdate id data, db =>
      (orNotFound ((db.breedPair.find id).map data.apply),
        db.updateBreedPair (fun pair => pair.id = id) data)
  | .breedPairUpdateMany filter data, db => ((), db.updateBreedPair filter data)
  | .breedLevelFindFirst filter, db =>
      (oracle.findFirst db.breedLevel.rows filter, db)
  | .breedLevelCreate data, db =>
      if ∃ other ∈ db.breedLevel.rows,
          other.pairId = data.pairId ∧ other.level = data.level then
        (.error .uniqueConstraint, db)
      else
        (.ok (data.row oracle.now db.breedLevel.nextId),
          db.createBreedLevel data oracle.now)
  | .breedLevelUpdate id data, db =>
      (orNotFound ((db.breedLevel.find id).map data.apply),
        db.updateBreedLevel (fun level => level.id = id) data)
  | .breedLevelSumBonusRate filter, db =>
      (((db.breedLevel.rows.filter filter).map BreedLevel.bonusRate).sum, db)
  | .breedBudFindMany filter, db =>
      (oracle.arrange (db.breedBud.rows.filter filter), db)
  | .breedBudCreateMany levelId buds, db =>
      ((), db.createBreedBuds levelId buds oracle.now)
  | .breedSlotFindFirst filter, db =>
      (oracle.findFirst db.breedSlot.rows filter, db)
  | .breedSlotFindMany filter, db =>
      (oracle.arrange (db.breedSlot.rows.filter filter), db)
  | .breedSlotCount gameKeyId filter, db =>
      (if gameKeyId.all fitsIntColumn then
          .ok (db.breedSlot.rows.countP filter)
        else
          .error .invalidValue, db)
  | .breedSlotCreateMany data, db =>
      if data.all fun slot => slot.gameKeyId.all fitsIntColumn then
        (.ok (), db.createBreedSlots data)
      else
        (.error .invalidValue, db)
  | .breedSlotUpdate id data, db =>
      (orNotFound ((db.breedSlot.find id).map data.apply),
        db.updateBreedSlot (fun slot => slot.id = id) data)
  | .breedSlotUpdateMany filter data, db => ((), db.updateBreedSlot filter data)
  | .eventServiceLogCount filter, db =>
      (db.eventServiceLog.rows.countP filter, db)
  | .eventServiceLogCreate data, db =>
      match toIntColumn data.blockNumber with
      | none => (.error .invalidValue, db)
      | some blockNumber =>
          if ∃ other ∈ db.eventServiceLog.rows, other.txHash = data.txHash then
            (.error .uniqueConstraint, db)
          else
            (.ok (), db.createEventServiceLog data blockNumber)
  | .gen1BudFindFirst filter, db =>
      (oracle.findFirst db.gen1Bud.rows filter, db)
  | .gen1BudCount filter, db => (db.gen1Bud.rows.countP filter, db)
  | .gen1BudCreate data, db =>
      (data.row oracle.now db.gen1Bud.nextId,
        db.createGen1Bud data oracle.now)
  | .gen1BudUpdateSignature id signature, db =>
      match signature with
      | none => (.error .invalidValue, db)
      | some value =>
          (orNotFound ((db.gen1Bud.find id).map
            (Gen1BudUpdate.signature value).apply),
            db.updateGen1Bud id (.signature value))
  | .gen1BudUpdateName id name, db =>
      (orNotFound ((db.gen1Bud.find id).map (Gen1BudUpdate.name name).apply),
        db.updateGen1Bud id (.name name))
  | .dateNow, db => (oracle.now, db)
  | .mathRandom, db => (oracle.random, db)
  | .ownerOfBuds budIds, db => (budIds.mapM oracle.budOwner, db)
  | .ownerOfGameKey gameKeyId, db => (oracle.gameKeyOwner gameKeyId, db)
  | .balanceOfGameItem user id, db => (oracle.gameItemBalance user id, db)
  | .budsOfMetadataApi tokenIds, db => (oracle.metadata tokenIds, db)
  | .signMessage request, db => (oracle.signature request, db)
  | .verifyMessage message signature, db =>
      (oracle.signer message signature, db)
  | .checkBudNameApi name, db => (oracle.validBudName name, db)

/-- The surroundings of the server when only some oracles are admitted. -/
def surroundings (admitted : Oracle → Prop) :
    World Query.Answer Oracle Db where
  exec := exec
  allows := fun _ oracle => admitted oracle

end BudBreeding.Backend
