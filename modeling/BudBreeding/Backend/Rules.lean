import BudBreeding.Backend.Api

namespace BudBreeding.Backend

open Data Program

/-! What each awaited call does to the database, as rules for handlers that run
with no other one in between. -/

inductive TableName where
  | user
  | breedPair
  | breedLevel
  | breedBud
  | breedSlot
  | eventServiceLog
  | gen1Bud
  deriving DecidableEq, Repr

namespace Query

/-- The only table a query may write to. -/
def written : Query → Option TableName
  | .userUpdate _ _ => some .user
  | .userUpsert _ _ _ => some .user
  | .breedPairCreate _ => some .breedPair
  | .breedPairUpdate _ _ => some .breedPair
  | .breedPairUpdateMany _ _ => some .breedPair
  | .breedLevelCreate _ => some .breedLevel
  | .breedLevelUpdate _ _ => some .breedLevel
  | .breedBudCreateMany _ _ => some .breedBud
  | .breedSlotCreateMany _ => some .breedSlot
  | .breedSlotUpdate _ _ => some .breedSlot
  | .breedSlotUpdateMany _ _ => some .breedSlot
  | .eventServiceLogCreate _ => some .eventServiceLog
  | .gen1BudCreate _ => some .gen1Bud
  | .gen1BudUpdateSignature _ _ => some .gen1Bud
  | .gen1BudUpdateName _ _ => some .gen1Bud
  | _ => none

def Quiet (query : Query) : Prop :=
  query.written = none

instance (query : Query) : Decidable query.Quiet :=
  inferInstanceAs (Decidable (query.written = none))

end Query

/-- Two databases differ in the named table only. -/
structure Db.SameBut (name : Option TableName) (before after : Db) : Prop where
  user : name ≠ some .user → after.user = before.user
  breedPair : name ≠ some .breedPair → after.breedPair = before.breedPair
  breedLevel : name ≠ some .breedLevel → after.breedLevel = before.breedLevel
  breedBud : name ≠ some .breedBud → after.breedBud = before.breedBud
  breedSlot : name ≠ some .breedSlot → after.breedSlot = before.breedSlot
  eventServiceLog : name ≠ some .eventServiceLog →
    after.eventServiceLog = before.eventServiceLog
  gen1Bud : name ≠ some .gen1Bud → after.gen1Bud = before.gen1Bud

@[simp] theorem Db.SameBut.refl (name : Option TableName) (db : Db) :
    Db.SameBut name db db :=
  ⟨fun _ => rfl, fun _ => rfl, fun _ => rfl, fun _ => rfl, fun _ => rfl,
    fun _ => rfl, fun _ => rfl⟩

theorem Db.SameBut.eq {before after : Db}
    (same : Db.SameBut none before after) : after = before := by
  obtain ⟨user, breedPair, breedLevel, breedBud, breedSlot, log, gen1Bud⟩ := same
  cases before
  cases after
  simp_all

theorem Db.sameBut_upsertUser (db : Db) (address : Address)
    (signature : String) (gameKeyId : Int) :
    Db.SameBut (some .user) db (db.upsertUser address signature gameKeyId) := by
  unfold Db.upsertUser
  split <;> constructor <;> simp

theorem exec_sameBut (oracle : Oracle) (query : Query) (db : Db) :
    Db.SameBut query.written db (exec oracle query db).2 := by
  cases query
  case userUpsert address signature gameKeyId =>
    simp only [exec]
    split
    · exact db.sameBut_upsertUser address signature gameKeyId
    · exact .refl _ _
  all_goals
    simp only [exec]
    repeat' split
  all_goals
    constructor <;> simp [Query.written, Db.setBreedingPoint,
      Db.createBreedPair, Db.updateBreedPair, Db.createBreedLevel,
      Db.updateBreedLevel, Db.createBreedBuds, Db.createBreedSlots,
      Db.updateBreedSlot, Db.createEventServiceLog, Db.createGen1Bud,
      Db.updateGen1Bud]

theorem exec_quiet (oracle : Oracle) (query : Query) (db : Db)
    (quiet : query.Quiet) : (exec oracle query db).2 = db := by
  have same := exec_sameBut oracle query db
  rw [quiet] at same
  exact same.eq

@[simp] theorem surroundings_exec (admitted : Oracle → Prop) :
    (surroundings admitted).exec = exec := rfl

theorem Db.setBreedingPoint_of_missing {db : Db} {address : Address}
    {column : Int} (missing : db.user.find address = none) :
    db.setBreedingPoint address column = db := by
  have unmatched : ∀ user ∈ db.user.rows,
      decide (user.address = address) = false := by
    intro user member
    exact decide_eq_false (Table.find_eq_none.mp missing user member)
  rw [Db.setBreedingPoint, Table.modify_of_unmatched unmatched]

theorem Db.updateBreedPair_of_unmatched {db : Db} {filter : BreedPair → Bool}
    {data : BreedPairUpdate}
    (unmatched : ∀ pair ∈ db.breedPair.rows, filter pair = false) :
    db.updateBreedPair filter data = db := by
  rw [Db.updateBreedPair, Serial.modify_of_unmatched unmatched]

theorem Db.updateBreedLevel_of_unmatched {db : Db}
    {filter : BreedLevel → Bool} {data : BreedLevelUpdate}
    (unmatched : ∀ level ∈ db.breedLevel.rows, filter level = false) :
    db.updateBreedLevel filter data = db := by
  rw [Db.updateBreedLevel, Serial.modify_of_unmatched unmatched]

theorem Db.updateBreedSlot_of_unmatched {db : Db} {filter : BreedSlot → Bool}
    {data : BreedSlotUpdate}
    (unmatched : ∀ slot ∈ db.breedSlot.rows, filter slot = false) :
    db.updateBreedSlot filter data = db := by
  rw [Db.updateBreedSlot, Serial.modify_of_unmatched unmatched]

theorem missing_find {α : Type} {key : α → Int} {table : Serial α key}
    {id : Int} (missing : table.find id = none) :
    ∀ row ∈ table.rows, decide (key row = id) = false := by
  intro row member
  exact decide_eq_false (Table.find_eq_none.mp missing row member)

section Reading

variable {admitted : Oracle → Prop} {db : Db}

theorem returns_ask (query : Query) (quiet : query.Quiet) :
    (surroundings admitted).Returns (ask query)
      (fun answer => ∃ oracle, admitted oracle ∧
        answer = (exec oracle query db).1) db :=
  World.ensures_call.mpr fun oracle allowed =>
    ⟨exec_quiet oracle query db quiet, _, rfl, oracle, allowed, rfl⟩

theorem returns_userFindUnique (address : Address) :
    (surroundings admitted).Returns (Prisma.userFindUnique address)
      (fun user => user = db.user.find address) db :=
  (returns_ask (.userFindUnique address) rfl).mono fun _ ⟨_, _, answered⟩ => answered

theorem returns_breedPairFindFirst (filter : BreedPair → Bool) :
    (surroundings admitted).Returns (Prisma.breedPairFindFirst filter)
      (fun pair => ∃ oracle, admitted oracle ∧
        pair = oracle.findFirst db.breedPair.rows filter) db :=
  returns_ask (.breedPairFindFirst filter) rfl

theorem returns_breedPairFindMany (filter : BreedPair → Bool) :
    (surroundings admitted).Returns (Prisma.breedPairFindMany filter)
      (fun pairs => pairs.Perm (db.breedPair.rows.filter filter)) db := by
  refine (returns_ask (.breedPairFindMany filter) rfl).mono ?_
  intro pairs answer
  obtain ⟨oracle, -, rfl⟩ := answer
  exact oracle.arrange_perm _

theorem returns_breedPairCount (filter : BreedPair → Bool) :
    (surroundings admitted).Returns (Prisma.breedPairCount filter)
      (fun count => count = db.breedPair.rows.countP filter) db :=
  (returns_ask (.breedPairCount filter) rfl).mono fun _ ⟨_, _, answered⟩ => answered

theorem returns_breedLevelFindFirst (filter : BreedLevel → Bool) :
    (surroundings admitted).Returns (Prisma.breedLevelFindFirst filter)
      (fun level => ∃ oracle, admitted oracle ∧
        level = oracle.findFirst db.breedLevel.rows filter) db :=
  returns_ask (.breedLevelFindFirst filter) rfl

theorem returns_breedBudFindMany (filter : BreedBud → Bool) :
    (surroundings admitted).Returns (Prisma.breedBudFindMany filter)
      (fun buds => buds.Perm (db.breedBud.rows.filter filter)) db := by
  refine (returns_ask (.breedBudFindMany filter) rfl).mono ?_
  intro buds answer
  obtain ⟨oracle, -, rfl⟩ := answer
  exact oracle.arrange_perm _

theorem returns_breedSlotFindFirst (filter : BreedSlot → Bool) :
    (surroundings admitted).Returns (Prisma.breedSlotFindFirst filter)
      (fun slot => ∃ oracle, admitted oracle ∧
        slot = oracle.findFirst db.breedSlot.rows filter) db :=
  returns_ask (.breedSlotFindFirst filter) rfl

theorem returns_breedSlotFindMany (filter : BreedSlot → Bool) :
    (surroundings admitted).Returns (Prisma.breedSlotFindMany filter)
      (fun slots => slots.Perm (db.breedSlot.rows.filter filter)) db := by
  refine (returns_ask (.breedSlotFindMany filter) rfl).mono ?_
  intro slots answer
  obtain ⟨oracle, -, rfl⟩ := answer
  exact oracle.arrange_perm _

theorem returns_eventServiceLogCount (filter : EventServiceLog → Bool) :
    (surroundings admitted).Returns (Prisma.eventServiceLogCount filter)
      (fun count => count = db.eventServiceLog.rows.countP filter) db :=
  (returns_ask (.eventServiceLogCount filter) rfl).mono fun _ ⟨_, _, answered⟩ => answered

end Reading

section Writing

variable {admitted : Oracle → Prop} {db : Db} {β : Type}
  {post : Except Failure β → Db → Prop}

theorem ensures_settled {α : Type} {program : Handler (Except PrismaError α)}
    {rest : α → Handler β} :
    (surroundings admitted).Ensures ((program >>= settle) >>= rest) post db ↔
      (surroundings admitted).Ensures program
        (fun result final =>
          match result with
          | .ok (.ok row) => (surroundings admitted).Ensures (rest row) post final
          | .ok (.error error) => post (.error (.prisma error)) final
          | .error error => post (.error error) final) db := by
  rw [World.ensures_bind, World.ensures_bind]
  constructor
  all_goals
    intro ensures result final runs
    have reached := ensures result final runs
    match result with
    | .ok (.ok row) => simpa [settle] using reached
    | .ok (.error error) => simpa [settle] using reached
    | .error error => exact reached

theorem ensures_userUpdate {address : Address} {breedingPoint : Rat}
    {rest : User → Handler β}
    (rejected : toIntColumn breedingPoint = none ∨
        db.user.find address = none →
      ∀ error, post (.error (.prisma error)) db)
    (updated : ∀ user column, db.user.find address = some user →
      toIntColumn breedingPoint = some column →
      (surroundings admitted).Ensures
        (rest { user with breedingPoint := column }) post
        (db.setBreedingPoint address column)) :
    (surroundings admitted).Ensures
      (Prisma.userUpdate address breedingPoint >>= rest) post db := by
  rw [Prisma.userUpdate, ensures_settled, World.ensures_call]
  intro oracle allowed
  simp only [surroundings_exec, exec]
  cases accepted : toIntColumn breedingPoint with
  | none => exact rejected (.inl accepted) _
  | some column =>
      cases found : db.user.find address with
      | none =>
          simp only [Db.setBreedingPoint_of_missing found]
          exact rejected (.inr found) _
      | some user => exact updated user column found accepted

theorem ensures_userUpsert {address : Address} {signature : String}
    {gameKeyId : Int} {rest : User → Handler β}
    (rejected : fitsIntColumn gameKeyId = false →
      post (.error (.prisma .invalidValue)) db)
    (upserted : ∀ user, user.address = address →
      (surroundings admitted).Ensures (rest user) post
        (db.upsertUser address signature gameKeyId)) :
    (surroundings admitted).Ensures
      (Prisma.userUpsert address signature gameKeyId >>= rest) post db := by
  rw [Prisma.userUpsert, ensures_settled, World.ensures_call]
  intro oracle allowed
  simp only [surroundings_exec, exec]
  cases fits : fitsIntColumn gameKeyId with
  | false => exact rejected fits
  | true =>
      rw [if_pos rfl]
      cases found : db.user.find address with
      | none => exact upserted _ rfl
      | some user => exact upserted _ (Table.find_eq_some.mp found).2

theorem ensures_breedSlotCount {gameKeyId : Option Int} {filter : BreedSlot → Bool}
    {rest : Nat → Handler β}
    (rejected : gameKeyId.all fitsIntColumn = false →
      post (.error (.prisma .invalidValue)) db)
    (counted : gameKeyId.all fitsIntColumn = true →
      (surroundings admitted).Ensures (rest (db.breedSlot.rows.countP filter)) post
        db) :
    (surroundings admitted).Ensures
      (Prisma.breedSlotCount gameKeyId filter >>= rest) post db := by
  rw [Prisma.breedSlotCount, ensures_settled, World.ensures_call]
  intro oracle allowed
  simp only [surroundings_exec, exec]
  cases fits : gameKeyId.all fitsIntColumn with
  | false => exact rejected fits
  | true => exact counted fits

theorem ensures_breedSlotCreateMany {data : List BreedSlotCreate}
    {post : Except Failure Unit → Db → Prop}
    (fits : (data.all fun slot => slot.gameKeyId.all fitsIntColumn) = true)
    (created : post (.ok ()) (db.createBreedSlots data)) :
    (surroundings admitted).Ensures (Prisma.breedSlotCreateMany data) post db := by
  rw [Prisma.breedSlotCreateMany, World.ensures_bind, World.ensures_call]
  intro oracle allowed
  simp only [surroundings_exec, exec]
  rw [if_pos fits]
  exact World.ensures_pure.mpr created

theorem ensures_breedPairCreate {data : BreedPairCreate}
    {rest : BreedPair → Handler β}
    (stranger : db.user.find data.userAddress = none →
      post (.error (.prisma .foreignKeyConstraint)) db)
    (created : ∀ user now, db.user.find data.userAddress = some user →
      (surroundings admitted).Ensures
        (rest (data.row now db.breedPair.nextId)) post
        (db.createBreedPair data now)) :
    (surroundings admitted).Ensures
      (Prisma.breedPairCreate data >>= rest) post db := by
  rw [Prisma.breedPairCreate, ensures_settled, World.ensures_call]
  intro oracle allowed
  simp only [surroundings_exec, exec]
  cases found : db.user.find data.userAddress with
  | none => exact stranger found
  | some user => exact created user oracle.now found

theorem ensures_breedPairUpdate {id : Int} {data : BreedPairUpdate}
    {rest : BreedPair → Handler β}
    (missing : db.breedPair.find id = none →
      post (.error (.prisma .recordNotFound)) db)
    (updated : ∀ pair, db.breedPair.find id = some pair →
      (surroundings admitted).Ensures (rest (data.apply pair)) post
        (db.updateBreedPair (fun pair => pair.id = id) data)) :
    (surroundings admitted).Ensures
      (Prisma.breedPairUpdate id data >>= rest) post db := by
  rw [Prisma.breedPairUpdate, ensures_settled, World.ensures_call]
  intro oracle allowed
  simp only [surroundings_exec, exec]
  cases found : db.breedPair.find id with
  | none =>
      rw [Db.updateBreedPair_of_unmatched (missing_find found)]
      exact missing found
  | some pair => exact updated pair found

theorem ensures_breedPairUpdateMany {filter : BreedPair → Bool}
    {data : BreedPairUpdate} {rest : Unit → Handler β}
    (updated : (surroundings admitted).Ensures (rest ()) post
      (db.updateBreedPair filter data)) :
    (surroundings admitted).Ensures
      (Prisma.breedPairUpdateMany filter data >>= rest) post db :=
  World.ensures_call_bind.mpr fun _ _ => updated

theorem ensures_breedLevelCreate {data : BreedLevelCreate}
    {rest : BreedLevel → Handler β}
    (clash : ∀ other ∈ db.breedLevel.rows, other.pairId = data.pairId →
      other.level = data.level →
      post (.error (.prisma .uniqueConstraint)) db)
    (created : (∀ other ∈ db.breedLevel.rows, other.pairId = data.pairId →
        other.level ≠ data.level) →
      ∀ now, (surroundings admitted).Ensures
        (rest (data.row now db.breedLevel.nextId)) post
        (db.createBreedLevel data now)) :
    (surroundings admitted).Ensures
      (Prisma.breedLevelCreate data >>= rest) post db := by
  rw [Prisma.breedLevelCreate, ensures_settled, World.ensures_call]
  intro oracle allowed
  simp only [surroundings_exec, exec]
  by_cases taken : ∃ other ∈ db.breedLevel.rows,
      other.pairId = data.pairId ∧ other.level = data.level
  · simp only [if_pos taken]
    obtain ⟨other, member, samePair, sameLevel⟩ := taken
    exact clash other member samePair sameLevel
  · simp only [if_neg taken]
    refine created ?_ oracle.now
    intro other member samePair sameLevel
    exact taken ⟨other, member, samePair, sameLevel⟩

theorem ensures_breedLevelUpdate {id : Int} {data : BreedLevelUpdate}
    {rest : BreedLevel → Handler β}
    (missing : db.breedLevel.find id = none →
      post (.error (.prisma .recordNotFound)) db)
    (updated : ∀ level, db.breedLevel.find id = some level →
      (surroundings admitted).Ensures (rest (data.apply level)) post
        (db.updateBreedLevel (fun level => level.id = id) data)) :
    (surroundings admitted).Ensures
      (Prisma.breedLevelUpdate id data >>= rest) post db := by
  rw [Prisma.breedLevelUpdate, ensures_settled, World.ensures_call]
  intro oracle allowed
  simp only [surroundings_exec, exec]
  cases found : db.breedLevel.find id with
  | none =>
      rw [Db.updateBreedLevel_of_unmatched (missing_find found)]
      exact missing found
  | some level => exact updated level found

theorem ensures_breedBudCreateMany {levelId : Int} {buds : List Bud}
    {rest : Unit → Handler β}
    (created : ∀ now, (surroundings admitted).Ensures (rest ()) post
      (db.createBreedBuds levelId buds now)) :
    (surroundings admitted).Ensures
      (Prisma.breedBudCreateMany levelId buds >>= rest) post db :=
  World.ensures_call_bind.mpr fun oracle _ => created oracle.now

theorem ensures_breedSlotUpdate {id : Int} {data : BreedSlotUpdate}
    {rest : BreedSlot → Handler β}
    (missing : db.breedSlot.find id = none →
      post (.error (.prisma .recordNotFound)) db)
    (updated : ∀ slot, db.breedSlot.find id = some slot →
      (surroundings admitted).Ensures (rest (data.apply slot)) post
        (db.updateBreedSlot (fun slot => slot.id = id) data)) :
    (surroundings admitted).Ensures
      (Prisma.breedSlotUpdate id data >>= rest) post db := by
  rw [Prisma.breedSlotUpdate, ensures_settled, World.ensures_call]
  intro oracle allowed
  simp only [surroundings_exec, exec]
  cases found : db.breedSlot.find id with
  | none =>
      rw [Db.updateBreedSlot_of_unmatched (missing_find found)]
      exact missing found
  | some slot => exact updated slot found

theorem ensures_breedSlotUpdateMany {filter : BreedSlot → Bool}
    {data : BreedSlotUpdate} {rest : Unit → Handler β}
    (updated : (surroundings admitted).Ensures (rest ()) post
      (db.updateBreedSlot filter data)) :
    (surroundings admitted).Ensures
      (Prisma.breedSlotUpdateMany filter data >>= rest) post db :=
  World.ensures_call_bind.mpr fun _ _ => updated

/-- A log row that the database takes. -/
def LogAccepted (db : Db) (data : EventServiceLogCreate) (block : Int) : Prop :=
  toIntColumn data.blockNumber = some block ∧
    ∀ other ∈ db.eventServiceLog.rows, other.txHash ≠ data.txHash

theorem ensures_eventServiceLogCreate {data : EventServiceLogCreate}
    {rest : Unit → Handler β}
    (rejected : (∀ block, ¬ LogAccepted db data block) →
      ∀ error, post (.error (.prisma error)) db)
    (created : ∀ block, LogAccepted db data block →
      (surroundings admitted).Ensures (rest ()) post
        (db.createEventServiceLog data block)) :
    (surroundings admitted).Ensures
      (Prisma.eventServiceLogCreate data >>= rest) post db := by
  rw [Prisma.eventServiceLogCreate, ensures_settled, World.ensures_call]
  intro oracle allowed
  simp only [surroundings_exec, exec]
  cases accepted : toIntColumn data.blockNumber with
  | none =>
      refine rejected ?_ _
      intro block given
      obtain ⟨column, -⟩ := given
      rw [accepted] at column
      cases column
  | some block =>
      by_cases taken : ∃ other ∈ db.eventServiceLog.rows,
          other.txHash = data.txHash
      · simp only [if_pos taken]
        refine rejected ?_ _
        intro other given
        obtain ⟨-, free⟩ := given
        obtain ⟨row, member, same⟩ := taken
        exact free row member same
      · simp only [if_neg taken]
        refine created block ⟨accepted, ?_⟩
        intro other member same
        exact taken ⟨other, member, same⟩

theorem ensures_gen1BudCreate {data : Gen1BudCreate}
    {rest : Gen1Bud → Handler β}
    (created : ∀ clock, admitted clock → (surroundings admitted).Ensures
      (rest (data.row clock.now db.gen1Bud.nextId)) post
      (db.createGen1Bud data clock.now)) :
    (surroundings admitted).Ensures
      (Prisma.gen1BudCreate data >>= rest) post db :=
  World.ensures_call_bind.mpr created

theorem ensures_gen1BudUpdateName {id : Int} {name : String}
    {rest : Gen1Bud → Handler β}
    (rejected : ∀ error, post (.error (.prisma error)) db)
    (renamed : ∀ row, (surroundings admitted).Ensures (rest row) post
      (db.updateGen1Bud id (.name name))) :
    (surroundings admitted).Ensures
      (Prisma.gen1BudUpdateName id name >>= rest) post db := by
  rw [Prisma.gen1BudUpdateName, ensures_settled, World.ensures_call]
  intro oracle allowed
  simp only [surroundings_exec, exec]
  cases found : db.gen1Bud.find id with
  | none =>
      rw [Db.updateGen1Bud, Serial.modify_of_unmatched (missing_find found)]
      exact rejected _
  | some bud => exact renamed _

end Writing

end BudBreeding.Backend
