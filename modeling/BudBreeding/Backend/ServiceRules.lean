import BudBreeding.Backend.Rules

namespace BudBreeding.Backend

open Data Program

/-! What the services do to the database, as rules for the handlers that call
them. -/

variable {admitted : Oracle → Prop} {db : Db}

section Random

theorem returns_randomNumber {max min : Int} (ordered : min ≤ max) :
    (surroundings admitted).Returns (randomNumber max min)
      (fun value => min ≤ value ∧ (value < max ∨ min = max ∧ value = min))
      db := by
  refine (returns_ask .mathRandom rfl).ensures_bind fun draw _ => ?_
  refine World.returns_pure ⟨?_, ?_⟩
  · have width : (0 : Rat) ≤ ((max - min : Int) : Rat) := by
      exact_mod_cast Int.sub_nonneg.mpr ordered
    have floored : 0 ≤ ⌊draw.val * ((max - min : Int) : Rat)⌋ :=
      Int.floor_nonneg.mpr (mul_nonneg draw.property.1 width)
    omega
  · rcases ordered.eq_or_lt with rfl | wide
    · exact .inr ⟨rfl, by simp⟩
    · have width : (0 : Rat) < ((max - min : Int) : Rat) := by
        exact_mod_cast Int.sub_pos.mpr wide
      have below : draw.val * ((max - min : Int) : Rat) <
          ((max - min : Int) : Rat) :=
        mul_lt_of_lt_one_left width draw.property.2
      have floored : ⌊draw.val * ((max - min : Int) : Rat)⌋ < max - min :=
        Int.floor_lt.mpr below
      exact .inl (by omega)

theorem returns_winRandomChance (chance : Rat) :
    (surroundings admitted).Returns (winRandomChance chance)
      (fun _ => True) db := by
  unfold winRandomChance
  split
  · exact World.returns_pure trivial
  · split
    · refine (returns_randomNumber (by decide)).ensures_bind fun random _ => ?_
      exact World.returns_pure trivial
    · exact World.returns_pure trivial

theorem returns_randomElement {α : Type} (choices : Choices α) :
    (surroundings admitted).Returns (randomElement choices)
      (fun element => element ∈ choices.toList) db := by
  have positive : (0 : Int) < choices.toList.length := by
    simp [Choices.toList]
  refine (returns_randomNumber positive.le).ensures_bind ?_
  intro index given
  obtain ⟨nonnegative, bounded⟩ := given
  have small : index.toNat < choices.toList.length := by omega
  rw [List.getElem?_eq_getElem small]
  exact World.returns_pure (List.getElem_mem small)

theorem returns_lookUpGen1Bud (app : App) (rate : Rat) :
    (surroundings admitted).Returns (HashTableService.lookUpGen1Bud app rate)
      (fun _ => True) db := by
  unfold HashTableService.lookUpGen1Bud
  generalize HashTableService.getMatchingGen1Rate app rate = choices
  have positive : 0 < choices.toList.length := by simp [Choices.toList]
  refine (returns_randomNumber (by omega)).ensures_bind ?_
  intro index given
  obtain ⟨nonnegative, bounded⟩ := given
  have small : index.toNat < choices.toList.length := by omega
  rw [List.getElem?_eq_getElem small]
  exact World.returns_pure trivial

theorem returns_generateRandomBud (app : App) (options : RandomBudOptions)
    (sized : 1 ≤ options.maxThc ∧ 1 ≤ options.maxBudSize) :
    (surroundings admitted).Returns (generateRandomBud app options)
      (fun bud => (∀ gender, options.targetGender = some gender →
        bud.gender = gender) ∧
        ∃ drawn ∈ app.tables.budNames.toList,
          bud.name = override options.targetName drawn.name ∧
          bud.image = override options.targetImage
            (if options.gen1 then drawn.gen1Video else drawn.image)) db := by
  refine (returns_randomElement _).ensures_bind fun nameAndImage drawn => ?_
  refine (returns_randomNumber sized.1).ensures_bind fun thc _ => ?_
  refine (returns_randomNumber sized.2).ensures_bind fun budSize _ => ?_
  refine (returns_randomElement _).ensures_bind fun shine _ => ?_
  refine (returns_randomElement _).ensures_bind fun gender _ => ?_
  refine (returns_randomElement _).ensures_bind fun color _ => ?_
  refine World.returns_pure ⟨?_, nameAndImage, drawn, rfl, rfl⟩
  intro target chosen
  simp [chosen]

theorem returns_diceGen1Bud (app : App) (rate : Rat) :
    (surroundings admitted).Returns (BudService.diceGen1Bud app rate)
      (fun _ => True) db := by
  refine (returns_winRandomChance rate).ensures_bind fun success _ => ?_
  cases success with
  | false => exact World.returns_pure trivial
  | true =>
      refine (returns_generateRandomBud app _ ?_).ensures_bind fun bud _ => ?_
      · decide
      · refine (returns_lookUpGen1Bud app rate).ensures_bind fun size _ => ?_
        exact World.returns_pure trivial

private theorem targeted_sized (gender : BudGender) (parent : Bud) :
    1 ≤ (BreedService.targeted gender parent).maxThc ∧
      1 ≤ (BreedService.targeted gender parent).maxBudSize := by
  simp [BreedService.targeted, defaultOptions]

/-- The name and the image of the bud are those of its parent, or, where the parent
has none, drawn from the table. -/
def Child (app : App) (parent bud : Bud) : Prop :=
  ∃ drawn ∈ app.tables.budNames.toList,
    bud.name = override (some parent.name) drawn.name ∧
    bud.image = override (some parent.image) drawn.image

/-- The four buds of a level, each after the parent of its gender. -/
structure Litter (app : App) (maleBud femaleBud : Bud) (buds : List Bud) : Prop where
  genders : buds.map Bud.gender = [.M, .F, .F, .M]
  males : ∀ bud ∈ buds, bud.gender = .M → Child app maleBud bud
  females : ∀ bud ∈ buds, bud.gender = .F → Child app femaleBud bud

theorem returns_targeted (app : App) (gender : BudGender) (parent : Bud) :
    (surroundings admitted).Returns
      (generateRandomBud app (BreedService.targeted gender parent))
      (fun bud => bud.gender = gender ∧ Child app parent bud) db := by
  refine (returns_generateRandomBud app _ (targeted_sized gender parent)).mono ?_
  intro bud generated
  exact ⟨generated.1 gender rfl, generated.2⟩

theorem returns_generateLevelBuds (app : App) (maleBud femaleBud : Bud) :
    (surroundings admitted).Returns
      (BreedService.generateLevelBuds app (some maleBud) (some femaleBud))
      (Litter app maleBud femaleBud) db := by
  refine (returns_targeted app .M maleBud).ensures_bind ?_
  intro first male
  refine (returns_targeted app .F femaleBud).ensures_bind ?_
  intro second female
  refine (returns_targeted app .F femaleBud).ensures_bind ?_
  intro third nextFemale
  refine (returns_targeted app .M maleBud).ensures_bind ?_
  intro fourth nextMale
  refine World.returns_pure ⟨?_, ?_, ?_⟩
  · simp [male.1, female.1, nextFemale.1, nextMale.1]
  · simp [male, female.1, nextFemale.1, nextMale]
  · simp [male.1, female, nextFemale, nextMale.1]

end Random

section Checks

theorem two_le_length_of_genders {buds : List (Int × BudGender)}
    {maleBudId femaleBudId : Int}
    (gendered : BudService.checkBudPairGenders buds maleBudId femaleBudId =
      true) : 2 ≤ buds.length := by
  unfold BudService.checkBudPairGenders at gendered
  split at gendered
  · cases gendered
  · omega

theorem gender_of_genders {buds : List (Int × BudGender)}
    {maleBudId femaleBudId : Int}
    (gendered : BudService.checkBudPairGenders buds maleBudId femaleBudId =
      true) {bud : Int × BudGender} (member : bud ∈ buds) :
    (bud.1 = maleBudId → bud.2 = .M) ∧ (bud.1 = femaleBudId → bud.2 = .F) := by
  unfold BudService.checkBudPairGenders at gendered
  split at gendered
  · cases gendered
  · have checked := List.all_eq_true.mp gendered bud member
    simpa [imp_iff_not_or, or_comm] using checked

/-- Some admitted answer of the chain names `address` as the owner of both. -/
def OwnsBuds (admitted : Oracle → Prop) (address : Address)
    (maleBudId femaleBudId : Int) : Prop :=
  ∃ oracle, admitted oracle ∧ oracle.budOwner maleBudId = some address ∧
    oracle.budOwner femaleBudId = some address

/-- Records the metadata API returned and `checkBudPairGenders` accepted. -/
def Metadatas (admitted : Oracle → Prop) (maleBudId femaleBudId : Int)
    (metadatas : List BudWithId) : Prop :=
  (∃ oracle, admitted oracle ∧
    metadatas = (oracle.metadata [maleBudId, femaleBudId]).getD []) ∧
  BudService.checkBudPairGenders (metadatas.map fun bud => (bud.id, bud.gender))
    maleBudId femaleBudId = true

theorem Metadatas.parents {maleBudId femaleBudId : Int}
    {metadatas : List BudWithId}
    (checked : Metadatas admitted maleBudId femaleBudId metadatas) :
    ∃ maleBud femaleBud : Bud,
      metadatas[0]?.map BudWithId.toBud = some maleBud ∧
        metadatas[1]?.map BudWithId.toBud = some femaleBud := by
  have two := two_le_length_of_genders checked.2
  rw [List.length_map] at two
  rw [List.getElem?_eq_getElem (show 0 < metadatas.length by omega),
    List.getElem?_eq_getElem (show 1 < metadatas.length by omega)]
  exact ⟨_, _, rfl, rfl⟩

theorem reads_ownersOf (budIds : List Int) :
    (surroundings admitted).Reads (BudService.ownersOf budIds)
      (fun owners => ∃ oracle, admitted oracle ∧
        budIds.mapM oracle.budOwner = some owners) db := by
  refine (returns_ask (.ownerOfBuds budIds) rfl).reads.bind ?_
  intro owners answer
  obtain ⟨oracle, allowed, answered⟩ := answer
  cases owners with
  | none => exact World.reads_throw
  | some owners => exact World.reads_pure ⟨oracle, allowed, answered.symm⟩

theorem returns_getMetadatas (tokenIds : List Int) :
    (surroundings admitted).Returns (BudService.getMetadatas tokenIds)
      (fun metadatas => ∃ oracle, admitted oracle ∧
        metadatas = (oracle.metadata tokenIds).getD []) db := by
  refine (returns_ask (.budsOfMetadataApi tokenIds) rfl).ensures_bind ?_
  intro response answer
  obtain ⟨oracle, allowed, rfl⟩ := answer
  exact World.returns_pure ⟨oracle, allowed, rfl⟩

def ValidBudId (budId : Int) : Prop :=
  0 ≤ budId ∧ budId < 20000

theorem reads_verifyBudPairs (address : Address)
    (maleBudId femaleBudId : Int) (checkMetadata : Bool) :
    (surroundings admitted).Reads
      (BudService.verifyBudPairs address maleBudId femaleBudId checkMetadata)
      (fun metadatas => OwnsBuds admitted address maleBudId femaleBudId ∧
        (ValidBudId maleBudId ∧ ValidBudId femaleBudId) ∧
        (checkMetadata = true →
          Metadatas admitted maleBudId femaleBudId metadatas ∧
            ∀ metadata ∈ metadatas, metadata.revealed = true)) db := by
  refine World.reads_throwIf.bind fun _ male => ?_
  refine World.reads_throwIf.bind fun _ female => ?_
  have valid : ValidBudId maleBudId ∧ ValidBudId femaleBudId := by
    unfold ValidBudId
    omega
  refine (reads_ownersOf _).bind ?_
  intro owners answer
  obtain ⟨oracle, allowed, answered⟩ := answer
  refine World.reads_throwIf.bind fun _ owned => ?_
  have owns : OwnsBuds admitted address maleBudId femaleBudId := by
    simp only [ne_eq, not_or, not_not] at owned
    cases maleOwner : oracle.budOwner maleBudId with
    | none => simp [maleOwner] at answered
    | some male =>
        cases femaleOwner : oracle.budOwner femaleBudId with
        | none => simp [maleOwner, femaleOwner] at answered
        | some female =>
            simp only [List.mapM_cons, List.mapM_nil, maleOwner, femaleOwner,
              Option.pure_def, Option.bind_eq_bind, Option.bind_some,
              Option.some.injEq] at answered
            subst answered
            simp only [List.getElem?_cons_zero, List.getElem?_cons_succ,
              Option.some.injEq] at owned
            refine ⟨oracle, allowed, ?_, ?_⟩
            · rw [maleOwner, owned.1]
            · rw [femaleOwner, owned.2]
  cases checkMetadata with
  | false =>
      exact World.reads_pure ⟨owns, valid, fun impossible => nomatch impossible⟩
  | true =>
      refine (returns_getMetadatas _).reads.bind fun metadatas fetched => ?_
      refine World.reads_throwIf.bind fun _ revealed => ?_
      refine World.reads_throwIf.bind fun _ gendered => ?_
      exact World.reads_pure ⟨owns, valid, fun _ =>
        ⟨⟨fetched, by simpa using gendered⟩, by simpa using revealed⟩⟩

theorem returns_verifyBudPairs {address : Address}
    {maleBudId femaleBudId : Int} (male : ValidBudId maleBudId)
    (female : ValidBudId femaleBudId)
    (owns : ∀ oracle, admitted oracle →
      oracle.budOwner maleBudId = some address ∧
        oracle.budOwner femaleBudId = some address) :
    (surroundings admitted).Returns
      (BudService.verifyBudPairs address maleBudId femaleBudId false)
      (fun _ => True) db := by
  obtain ⟨maleLow, maleHigh⟩ := male
  obtain ⟨femaleLow, femaleHigh⟩ := female
  refine (World.returns_throwIf (by omega)).ensures_bind fun _ _ => ?_
  refine (World.returns_throwIf (by omega)).ensures_bind fun _ _ => ?_
  rw [BudService.ownersOf, World.ensures_bind]
  refine (returns_ask (.ownerOfBuds _) rfl).ensures_bind ?_
  intro owners answer
  obtain ⟨oracle, allowed, rfl⟩ := answer
  obtain ⟨maleOwner, femaleOwner⟩ := owns oracle allowed
  simp only [exec, List.mapM_cons, List.mapM_nil, maleOwner, femaleOwner,
    Option.pure_def, Option.bind_eq_bind, Option.bind_some]
  refine World.ensures_pure.mpr ?_
  refine (World.returns_throwIf (by simp)).ensures_bind fun _ _ => ?_
  exact World.returns_pure trivial

theorem reads_checkGameItemBalance (user : Address) (id : Int)
    (minAmount : Nat) :
    (surroundings admitted).Reads
      (BreedService.checkGameItemBalance user id minAmount)
      (fun _ => ∃ oracle balance, admitted oracle ∧
        oracle.gameItemBalance user id = some balance ∧ 0 < balance ∧
        minAmount ≤ balance) db := by
  refine (returns_ask (.balanceOfGameItem user id) rfl).reads.bind ?_
  intro balance answer
  obtain ⟨oracle, allowed, answered⟩ := answer
  cases balance with
  | none => exact World.reads_throw
  | some balance =>
      refine World.reads_throwIf.mono fun _ enough => ?_
      exact ⟨oracle, balance, allowed, answered.symm, by omega, by omega⟩

/-- Some admitted answer of the chain covers the item of the pair for all the
pairs its user breeds with it. -/
def HoldsItem (admitted : Oracle → Prop) (db : Db) (pair : BreedPair) : Prop :=
  ∀ gameItemId, pair.gameItemId = some gameItemId → gameItemId ≠ 0 →
    ∃ oracle balance, admitted oracle ∧
      oracle.gameItemBalance pair.userAddress gameItemId = some balance ∧
      0 < balance ∧
      db.breedPair.rows.countP
        (BreedService.pairsUsingItem pair.userAddress gameItemId) ≤ balance

theorem reads_verifyGameItemPossession (pair : BreedPair) :
    (surroundings admitted).Reads
      (BreedService.verifyGameItemPossession pair)
      (fun _ => HoldsItem admitted db pair) db := by
  unfold BreedService.verifyGameItemPossession HoldsItem
  cases pair.gameItemId with
  | none => exact World.reads_pure fun _ impossible => nomatch impossible
  | some gameItemId =>
      simp only
      split
      · next zero =>
          refine World.reads_pure ?_
          rintro other same nonzero
          cases same
          exact absurd zero nonzero
      · refine (returns_breedPairCount _).reads.bind ?_
        rintro minAmount rfl
        refine World.reads_throwIf.bind fun _ _ => ?_
        refine (reads_checkGameItemBalance _ _ _).mono ?_
        rintro - balanced other same -
        cases same
        exact balanced

/-- Who holds the item for every pair bred with it passes the check. -/
theorem returns_verifyGameItemPossession {pair : BreedPair}
    (listed : pair ∈ db.breedPair.rows) (paired : pair.status = .PAIRED)
    (holds : ∀ oracle, admitted oracle → HoldsItem (Eq oracle) db pair) :
    (surroundings admitted).Returns
      (BreedService.verifyGameItemPossession pair) (fun _ => True) db := by
  unfold BreedService.verifyGameItemPossession
  unfold HoldsItem at holds
  cases item : pair.gameItemId with
  | none => exact World.returns_pure trivial
  | some gameItemId =>
      simp only
      split
      · exact World.returns_pure trivial
      · next nonzero =>
          have counted : 0 < db.breedPair.rows.countP
              (BreedService.pairsUsingItem pair.userAddress gameItemId) := by
            rw [List.countP_pos_iff]
            exact ⟨pair, listed, decide_eq_true ⟨rfl, paired, item⟩⟩
          refine (returns_breedPairCount _).ensures_bind ?_
          rintro minAmount rfl
          refine (World.returns_throwIf counted.ne').ensures_bind fun _ _ => ?_
          refine (returns_ask (.balanceOfGameItem _ _) rfl).ensures_bind ?_
          intro answer given
          obtain ⟨oracle, allowed, rfl⟩ := given
          obtain ⟨_, balance, rfl, answered, positive, enough⟩ :=
            holds oracle allowed gameItemId item nonzero
          simp only [exec, answered]
          exact World.returns_throwIf (by omega)

theorem reads_checkGameItem (user : Address) (gameItemId : Option Int) :
    (surroundings admitted).Reads
      (BreedController.checkGameItem user gameItemId)
      (fun _ => ∀ id, gameItemId = some id → id ≠ 0 →
        ∃ oracle balance, admitted oracle ∧
          oracle.gameItemBalance user id = some balance ∧ 0 < balance)
      db := by
  unfold BreedController.checkGameItem
  cases gameItemId with
  | none => exact World.reads_pure fun _ impossible => nomatch impossible
  | some id =>
      simp only
      split
      · next zero =>
          refine World.reads_pure ?_
          rintro other same nonzero
          cases same
          exact absurd zero nonzero
      · refine (reads_checkGameItemBalance _ _ _).mono ?_
        rintro - ⟨oracle, balance, allowed, answered, positive, -⟩ other same -
        cases same
        exact ⟨oracle, balance, allowed, answered, positive⟩

theorem reads_isValidMessage (gameKeyId : Int) (message : String) :
    (surroundings admitted).Reads
      (UserService.isValidMessage gameKeyId message) (fun _ => True) db := by
  refine (returns_ask .dateNow rfl).reads.bind fun now _ => ?_
  simp only
  split
  · exact World.reads_throw
  · split
    · exact World.reads_pure trivial
    · exact World.reads_pure trivial

theorem reads_verifyMessage (message signature : String) :
    (surroundings admitted).Reads (verifyMessage message signature)
      (fun address => ∃ oracle, admitted oracle ∧
        oracle.signer message signature = some address) db := by
  refine (returns_ask (.verifyMessage message signature) rfl).reads.bind ?_
  intro recovered answer
  obtain ⟨oracle, allowed, answered⟩ := answer
  cases recovered with
  | none => exact World.reads_throw
  | some address => exact World.reads_pure ⟨oracle, allowed, answered.symm⟩

theorem reads_isGen0BudOwner (budId : Int) (address : Address) :
    (surroundings admitted).Reads (BudService.isGen0BudOwner budId address)
      (fun _ => True) db :=
  (reads_ownersOf _).bind fun _ _ =>
    World.reads_throwIf.mono fun _ _ => trivial

theorem ensures_isGen0BudOwner {β : Type} {budId : Int} {address : Address}
    {answer : Option Address} {rest : Unit → Handler β}
    {post : Except Failure β → Db → Prop}
    (answered : ∀ oracle, admitted oracle → oracle.budOwner budId = answer)
    (refused : answer ≠ some address → ∀ error, post (.error error) db)
    (confirmed : answer = some address →
      (surroundings admitted).Ensures (rest ()) post db) :
    (surroundings admitted).Ensures
      (BudService.isGen0BudOwner budId address >>= rest) post db := by
  rw [World.ensures_bind, BudService.isGen0BudOwner, World.ensures_bind,
    BudService.ownersOf, World.ensures_call_bind]
  intro oracle allowed
  have asked := answered oracle allowed
  simp only [surroundings_exec, exec, List.mapM_cons, List.mapM_nil, asked,
    Option.pure_def, Option.bind_eq_bind]
  cases answer with
  | none => exact World.ensures_throw.mpr (refused (by simp) _)
  | some owner =>
      refine World.ensures_pure.mpr (World.ensures_throwIf.mpr ⟨?_, ?_⟩)
      · exact fun differs => refused differs _
      · exact fun same => confirmed (not_not.mp same)

theorem reads_isGameKeyOwner (gameKeyId : Int) (address : Address) :
    (surroundings admitted).Reads (BudService.isGameKeyOwner gameKeyId address)
      (fun _ => ∃ oracle, admitted oracle ∧
        oracle.gameKeyOwner gameKeyId = some address) db := by
  refine (returns_ask (.ownerOfGameKey gameKeyId) rfl).reads.bind ?_
  intro owner answer
  obtain ⟨oracle, allowed, answered⟩ := answer
  cases owner with
  | none => exact World.reads_throw
  | some owner =>
      refine World.reads_throwIf.mono fun _ same => ?_
      exact ⟨oracle, allowed, not_not.mp same ▸ answered.symm⟩

theorem returns_getStartSuccessRate (app : App) (maleBudId femaleBudId : Int)
    (gameItemId : Option Int) (slot : BreedSlot) :
    (surroundings admitted).Returns
      (BreedService.getStartSuccessRate app maleBudId femaleBudId gameItemId
        slot) (fun _ => True) db := by
  refine (returns_getMetadatas _).ensures_bind fun metadatas _ => ?_
  simp only
  split
  · refine (returns_randomNumber (by decide)).ensures_bind fun _ _ => ?_
    exact World.returns_pure trivial
  · split
    · refine (returns_randomNumber (by decide)).ensures_bind fun _ _ => ?_
      exact World.returns_pure trivial
    · exact World.returns_pure trivial

/-- A name is accepted only when no Gen1 bud bears it. -/
theorem returns_checkBudName (name : String) :
    (surroundings admitted).Returns (BudController.checkBudName name)
      (fun isValid => isValid = true → ∀ bud ∈ db.gen1Bud.rows,
        BudController.sqlTrim bud.name ≠ BudController.trim name) db := by
  refine (returns_ask (.gen1BudCount _) rfl).ensures_bind fun count counted => ?_
  obtain ⟨oracle, -, rfl⟩ := counted
  split
  · exact World.returns_pure fun impossible => nomatch impossible
  · next none =>
      refine (returns_ask (.checkBudNameApi name) rfl).ensures_bind
        fun valid _ => ?_
      refine World.returns_pure fun _ bud listed same => none ?_
      exact List.countP_pos_iff.mpr ⟨bud, listed, decide_eq_true same⟩

end Checks

section Writes

variable {β : Type} {post : Except Failure β → Db → Prop}

def Db.Paid (db : Db) (address : Address) (amount : Int) (after : Db) : Prop :=
  ∃ user, db.user.find address = some user ∧ amount ≤ user.breedingPoint ∧
    after = db.setBreedingPoint address (user.breedingPoint - amount)

theorem Db.Paid.sameBut {address : Address} {amount : Int} {after : Db}
    (paid : db.Paid address amount after) :
    Db.SameBut (some .user) db after := by
  obtain ⟨user, -, -, rfl⟩ := paid
  constructor <;> simp [Db.setBreedingPoint]

namespace Db.Paid

variable {address : Address} {amount : Int} {after : Db}

theorem breedPair (paid : db.Paid address amount after) :
    after.breedPair = db.breedPair :=
  paid.sameBut.breedPair (by decide)

theorem breedLevel (paid : db.Paid address amount after) :
    after.breedLevel = db.breedLevel :=
  paid.sameBut.breedLevel (by decide)

theorem breedBud (paid : db.Paid address amount after) :
    after.breedBud = db.breedBud :=
  paid.sameBut.breedBud (by decide)

theorem breedSlot (paid : db.Paid address amount after) :
    after.breedSlot = db.breedSlot :=
  paid.sameBut.breedSlot (by decide)

theorem gen1Bud (paid : db.Paid address amount after) : after.gen1Bud = db.gen1Bud :=
  paid.sameBut.gen1Bud (by decide)

end Db.Paid

theorem ensures_consumeBreedingPoint {address : Address} {amount : Int}
    {rest : User → Handler β}
    (refused : (∀ user, db.user.find address = some user →
        amount ≤ user.breedingPoint →
        toIntColumn ((user.breedingPoint : Rat) - amount) = none) →
      ∀ error, post (.error error) db)
    (paid : ∀ user after, db.Paid address amount after →
      (surroundings admitted).Ensures (rest user) post after) :
    (surroundings admitted).Ensures
      (UserService.consumeBreedingPoint address amount >>= rest) post db := by
  rw [World.ensures_bind]
  refine (returns_userFindUnique address).ensures_bind ?_
  rintro found rfl
  cases found : db.user.find address with
  | none =>
      exact World.ensures_throw.mpr
        (refused (fun user present => nomatch found.symm.trans present) _)
  | some user =>
      rw [World.ensures_bind, World.ensures_throwIf]
      refine ⟨fun short => refused ?_ _, fun covered => ?_⟩
      · intro other present enough
        cases found.symm.trans present
        exact absurd short (not_lt.mpr enough)
      rw [← World.ensures_bind]
      refine ensures_userUpdate ?_ ?_
      · rintro (rejected | absent) error
        · refine refused (fun other present _ => ?_) _
          cases found.symm.trans present
          exact rejected
        · exact nomatch found.symm.trans absent
      intro same column foundAgain accepted
      refine paid _ _ ⟨user, found, not_lt.mp covered, ?_⟩
      have value : ((user.breedingPoint - amount : Int) : Rat) = column := by
        rw [← toIntColumn_eq_some accepted]
        exact Int.cast_sub _ _
      rw [Int.cast_injective value]

/-- The slots `createFreeLandSlots` and `createNewLandSlots` add, when none
passes their filter yet. -/
def Db.addSlots (db : Db) (existing : BreedSlot → Bool)
    (slots : List BreedSlotCreate) : Db :=
  if 0 < db.breedSlot.rows.countP existing then db
  else db.createBreedSlots slots

theorem Db.sameBut_addSlots (db : Db) (existing : BreedSlot → Bool)
    (slots : List BreedSlotCreate) :
    Db.SameBut (some .breedSlot) db (db.addSlots existing slots) := by
  unfold Db.addSlots
  split
  · exact .refl _ _
  · constructor <;> simp [Db.createBreedSlots]

private theorem ensures_addSlots {gameKeyId landTokenId : Option Int}
    {userAddress : Address} {existing : BreedSlot → Bool}
    {post : Except Failure Unit → Db → Prop}
    (refused : gameKeyId.all fitsIntColumn = false →
      post (.error (.prisma .invalidValue)) db)
    (added : gameKeyId.all fitsIntColumn = true →
      post (.ok ()) (db.addSlots existing
        (LandService.newSlots userAddress gameKeyId landTokenId))) :
    (surroundings admitted).Ensures
      (do
        let count ← Prisma.breedSlotCount gameKeyId existing
        if 0 < count then
          return ()
        else
          Prisma.breedSlotCreateMany
            (LandService.newSlots userAddress gameKeyId landTokenId)) post db := by
  refine ensures_breedSlotCount refused fun fits => ?_
  have reached := added fits
  unfold Db.addSlots at reached
  by_cases present : 0 < db.breedSlot.rows.countP existing
  · rw [if_pos present] at reached ⊢
    exact World.ensures_pure.mpr reached
  · rw [if_neg present] at reached ⊢
    refine ensures_breedSlotCreateMany ?_ reached
    simp [LandService.newSlots, fits]

theorem ensures_createFreeLandSlots {userAddress : Address} {gameKeyId : Int}
    {post : Except Failure Unit → Db → Prop}
    (refused : fitsIntColumn gameKeyId = false →
      post (.error (.prisma .invalidValue)) db)
    (added : fitsIntColumn gameKeyId = true → post (.ok ())
      (db.addSlots (LandService.freeLandSlot userAddress gameKeyId)
        (LandService.newSlots userAddress (some gameKeyId) none))) :
    (surroundings admitted).Ensures
      (LandService.createFreeLandSlots userAddress gameKeyId) post db :=
  ensures_addSlots refused added

theorem ensures_createNewLandSlots {userAddress : Address} {landTokenId : Int}
    {post : Except Failure Unit → Db → Prop}
    (added : post (.ok ())
      (db.addSlots (LandService.landSlot userAddress landTokenId)
        (LandService.newSlots userAddress none (some landTokenId)))) :
    (surroundings admitted).Ensures
      (LandService.createNewLandSlots userAddress landTokenId) post db :=
  ensures_addSlots (fun outside => absurd outside (by decide)) fun _ => added

structure Unhandled (app : App) (db : Db) (body : AdminDtoBase)
    (type : EventType) : Prop where
  network : body.network = app.config.network.name
  fresh : ∀ log ∈ db.eventServiceLog.rows,
    ¬ (log.txHash = body.txHash ∧ log.type = type)

theorem reads_validateTransaction (app : App) (body : AdminDtoBase)
    (type : EventType) :
    (surroundings admitted).Reads
      (AdminService.validateTransaction app body.txHash body.network type)
      (fun _ => Unhandled app db body type) db := by
  refine World.reads_throwIf.bind fun _ network => ?_
  refine (returns_eventServiceLogCount _).reads.bind ?_
  rintro count rfl
  refine World.reads_throwIf.mono fun _ absent => ?_
  refine ⟨not_not.mp network, ?_⟩
  intro log member handled
  rw [List.countP_pos_iff] at absent
  exact absent ⟨log, member, decide_eq_true handled⟩

theorem returns_validateTransaction {app : App} {body : AdminDtoBase}
    {type : EventType} (unhandled : Unhandled app db body type) :
    (surroundings admitted).Returns
      (AdminService.validateTransaction app body.txHash body.network type)
      (fun _ => True) db := by
  have absent : db.eventServiceLog.rows.countP
      (fun log => log.txHash = body.txHash ∧ log.type = type) = 0 := by
    rw [List.countP_eq_zero]
    intro log member handled
    exact unhandled.fresh log member (decide_eq_true_iff.mp handled)
  rw [AdminService.validateTransaction, unhandled.network]
  refine (World.returns_throwIf (not_not.mpr rfl)).ensures_bind fun _ _ => ?_
  refine (returns_eventServiceLogCount _).ensures_bind ?_
  rintro count rfl
  exact World.returns_throwIf (by rw [absent]; exact lt_irrefl 0)

/-- The current level of a pair, ready to be evaluated with two of its buds. -/
structure Evaluable (app : App) (admitted : Oracle → Prop) (db : Db)
    (pair : BreedPair) (maleBudId femaleBudId : Int) (level : BreedLevel)
    (buds : List BreedBud) : Prop where
  listed : level ∈ db.breedLevel.rows
  current : BreedService.currentLevelOf pair level = true
  unevaluated : level.bonusRate = 0
  elapsed : ∃ oracle, admitted oracle ∧
    BreedService.breedTimeElapsed app oracle.now level.createdAt
      pair.gameItemId = true
  chosen : buds.Perm (db.breedBud.rows.filter
    (BreedService.chosenBuds maleBudId femaleBudId level.id))
  gendered : BudService.checkBudPairGenders
    (buds.map fun bud => (bud.id, bud.gender)) maleBudId femaleBudId = true

/-- What `evaluateBreedLevel` records. -/
def Db.evaluateLevel (db : Db) (app : App) (level : BreedLevel)
    (buds : List BreedBud) (maleBudId femaleBudId : Int) : Db :=
  db.updateBreedLevel (fun other => other.id = level.id)
    { bonusRate := (BreedService.evaluationOf app buds).bonusRate
      maleBreedBudId := maleBudId
      femaleBreedBudId := femaleBudId }

/-- Every way out of `evaluateBreedLevel`, each with its reason. -/
theorem ensures_evaluateBreedLevel {app : App} {pair : BreedPair}
    {maleBudId femaleBudId : Int} {rest : BreedService.Evaluation → Handler β}
    (missing : (∀ level ∈ db.breedLevel.rows,
        BreedService.currentLevelOf pair level = false) →
      ∀ error, post (.error error) db)
    (unready : ∀ level ∈ db.breedLevel.rows,
      BreedService.currentLevelOf pair level = true →
      (level.bonusRate ≠ 0 ∨
        (∃ oracle, admitted oracle ∧
          BreedService.breedTimeElapsed app oracle.now level.createdAt
            pair.gameItemId = false) ∨
        ∃ buds : List BreedBud,
          buds.Perm (db.breedBud.rows.filter
            (BreedService.chosenBuds maleBudId femaleBudId level.id)) ∧
          BudService.checkBudPairGenders
            (buds.map fun bud => (bud.id, bud.gender)) maleBudId femaleBudId =
              false) →
      ∀ error, post (.error error) db)
    (evaluated : ∀ level buds,
      Evaluable app admitted db pair maleBudId femaleBudId level buds →
      (surroundings admitted).Ensures
        (rest (BreedService.evaluationOf app buds)) post
        (db.evaluateLevel app level buds maleBudId femaleBudId)) :
    (surroundings admitted).Ensures
      (BreedService.evaluateBreedLevel app pair maleBudId femaleBudId >>= rest)
      post db := by
  rw [World.ensures_bind]
  refine (returns_breedLevelFindFirst _).ensures_bind ?_
  intro found answer
  obtain ⟨oracle, -, rfl⟩ := answer
  cases found : oracle.findFirst db.breedLevel.rows
      (BreedService.currentLevelOf pair) with
  | none =>
      exact World.ensures_throw.mpr
        (missing (Oracle.findFirst_eq_none.mp found) _)
  | some level =>
      obtain ⟨listed, current⟩ := Oracle.findFirst_eq_some found
      rw [World.ensures_bind, World.ensures_throwIf]
      refine ⟨fun changed => unready level listed current (.inl changed) _,
        fun unchanged => ?_⟩
      refine (returns_ask .dateNow rfl).ensures_bind ?_
      intro now answer
      obtain ⟨clock, ticking, rfl⟩ := answer
      rw [World.ensures_bind, World.ensures_throwIf]
      refine ⟨fun early => unready level listed current
        (.inr (.inl ⟨clock, ticking, early⟩)) _, fun elapsed => ?_⟩
      refine (returns_breedBudFindMany _).ensures_bind fun buds chosen => ?_
      rw [World.ensures_bind, World.ensures_throwIf]
      refine ⟨fun mismatch => unready level listed current
        (.inr (.inr ⟨buds, chosen, mismatch⟩)) _, fun gendered => ?_⟩
      refine ensures_breedLevelUpdate ?_ ?_
      · intro vanished
        exact absurd rfl (Table.find_eq_none.mp vanished level listed)
      · intro same _
        refine World.ensures_pure.mpr (evaluated level buds ?_)
        exact ⟨listed, current, not_not.mp unchanged,
          ⟨clock, ticking, Bool.eq_true_of_not_eq_false elapsed⟩, chosen,
          by simpa using gendered⟩

theorem Evaluable.parents {app : App} {pair : BreedPair}
    {maleBudId femaleBudId : Int} {level : BreedLevel} {buds : List BreedBud}
    (evaluable :
      Evaluable app admitted db pair maleBudId femaleBudId level buds) :
    ∃ maleBud femaleBud : Bud,
      (BreedService.evaluationOf app buds).maleBud = some maleBud ∧
        (BreedService.evaluationOf app buds).femaleBud = some femaleBud := by
  have two := two_le_length_of_genders evaluable.gendered
  rw [List.length_map] at two
  have last : ∀ (gender : BudGender) (others : List BreedBud)
      (initial : BreedBud), ∃ found,
        BreedService.lastOfGender gender (some initial) others =
          some found := by
    intro gender others
    induction others with
    | nil => exact fun initial => ⟨initial, rfl⟩
    | cons bud rest induction =>
        intro initial
        by_cases same : bud.gender = gender
        · simpa [BreedService.lastOfGender, same] using induction bud
        · simpa [BreedService.lastOfGender, same] using induction initial
  have first : 0 < buds.length := by omega
  have second : 1 < buds.length := by omega
  obtain ⟨male, maleFound⟩ := last .M buds buds[0]
  obtain ⟨female, femaleFound⟩ := last .F buds buds[1]
  refine ⟨male.toBud, female.toBud, ?_, ?_⟩
  · simp only [BreedService.evaluationOf]
    rw [List.getElem?_eq_getElem first, maleFound]
    rfl
  · simp only [BreedService.evaluationOf]
    rw [List.getElem?_eq_getElem second, femaleFound]
    rfl

/-- What `startBreedLevel` does: past the target level only the counter moves. -/
inductive LevelStarted (app : App) (db : Db) (pair : BreedPair) : Db → Prop
  | beyond (past : app.config.targetLevel < pair.currentLevel + 1) :
      LevelStarted app db pair
        (db.updateBreedPair (fun other => other.id = pair.id)
          (.currentLevel (pair.currentLevel + 1)))
  | within (reachable : pair.currentLevel + 1 ≤ app.config.targetLevel)
      (free : ∀ other ∈ db.breedLevel.rows, other.pairId = pair.id →
        other.level ≠ pair.currentLevel + 1)
      (buds : List Bud) (genders : buds.map Bud.gender = [.M, .F, .F, .M])
      (created bred : Time) :
      LevelStarted app db pair
        (((db.createBreedLevel
          { level := pair.currentLevel + 1, pairId := pair.id, bonusRate := 0 }
          created).createBreedBuds db.breedLevel.nextId buds
            bred).updateBreedPair (fun other => other.id = pair.id)
              (.currentLevel (pair.currentLevel + 1)))

namespace LevelStarted

variable {app : App} {db after : Db} {pair : BreedPair}

theorem breedPair (started : LevelStarted app db pair after) :
    after.breedPair = (db.updateBreedPair (fun other => other.id = pair.id)
      (.currentLevel (pair.currentLevel + 1))).breedPair := by
  cases started <;> rfl

theorem user (started : LevelStarted app db pair after) : after.user = db.user := by
  cases started <;> rfl

theorem breedSlot (started : LevelStarted app db pair after) :
    after.breedSlot = db.breedSlot := by
  cases started <;> rfl

theorem gen1Bud (started : LevelStarted app db pair after) :
    after.gen1Bud = db.gen1Bud := by
  cases started <;> rfl

end LevelStarted

/-- The level buds that `startBreedLevel` creates, if any. -/
def Bears (app : App) (db : Db) (pair : BreedPair) (maleBud femaleBud : Bud)
    (after : Db) : Prop :=
  if app.config.targetLevel < pair.currentLevel + 1 then
    after.breedBud = db.breedBud
  else
    ∃ levelId buds bred, Litter app maleBud femaleBud buds ∧
      after.breedBud = (db.createBreedBuds levelId buds bred).breedBud

/-- Every way out of `startBreedLevel`, with the buds that it leaves. -/
theorem ensures_startBreedLevel_bears {app : App} {pair : BreedPair}
    {maleBud femaleBud : Bud} {rest : Unit → Handler β}
    (present : db.breedPair.find pair.id ≠ none)
    (clash : pair.currentLevel + 1 ≤ app.config.targetLevel →
      ∀ other ∈ db.breedLevel.rows, other.pairId = pair.id →
      other.level = pair.currentLevel + 1 → ∀ error, post (.error error) db)
    (started : ∀ after, LevelStarted app db pair after →
      Bears app db pair maleBud femaleBud after →
      (surroundings admitted).Ensures (rest ()) post after) :
    (surroundings admitted).Ensures
      (BreedService.startBreedLevel app pair (some maleBud) (some femaleBud) >>=
        rest) post db := by
  rw [World.ensures_bind]
  unfold BreedService.startBreedLevel
  simp only
  by_cases past : pair.currentLevel + 1 > app.config.targetLevel
  · rw [if_pos past]
    refine ensures_breedPairUpdate ?_ ?_
    · exact fun missing => absurd missing present
    · intro same _
      refine World.ensures_pure.mpr (started _ (.beyond past) ?_)
      rw [Bears, if_pos past]
      rfl
  · rw [if_neg past]
    refine (returns_generateLevelBuds app maleBud femaleBud).ensures_bind ?_
    intro buds litter
    refine ensures_breedLevelCreate ?_ ?_
    · intro other member samePair sameLevel
      exact clash (not_lt.mp past) other member samePair sameLevel _
    · intro free created
      refine ensures_breedBudCreateMany fun bred => ?_
      refine ensures_breedPairUpdate ?_ ?_
      · exact fun missing => absurd missing present
      · intro same _
        refine World.ensures_pure.mpr (started _ ?_ ?_)
        · exact .within (not_lt.mp past) free buds litter.genders created bred
        · rw [Bears, if_neg past]
          exact ⟨db.breedLevel.nextId, buds, bred, litter, rfl⟩

theorem ensures_startBreedLevel {app : App} {pair : BreedPair}
    {maleBud femaleBud : Bud} {rest : Unit → Handler β}
    (present : db.breedPair.find pair.id ≠ none)
    (clash : pair.currentLevel + 1 ≤ app.config.targetLevel →
      ∀ other ∈ db.breedLevel.rows, other.pairId = pair.id →
      other.level = pair.currentLevel + 1 → ∀ error, post (.error error) db)
    (started : ∀ after, LevelStarted app db pair after →
      (surroundings admitted).Ensures (rest ()) post after) :
    (surroundings admitted).Ensures
      (BreedService.startBreedLevel app pair (some maleBud) (some femaleBud) >>=
        rest) post db :=
  ensures_startBreedLevel_bears present clash fun after leveled _ =>
    started after leveled

theorem ensures_openNextSlot {user : Address}
    {rest : Option BreedSlot → Handler β}
    (kept : (∀ slot ∈ db.breedSlot.rows,
        BreedController.closedSlot user slot = false) →
      (surroundings admitted).Ensures (rest none) post db)
    (opened : ∀ slot ∈ db.breedSlot.rows,
      BreedController.closedSlot user slot = true →
      ∀ row, (surroundings admitted).Ensures (rest (some row)) post
        (db.updateBreedSlot (fun other => other.id = slot.id) (.isOpen true))) :
    (surroundings admitted).Ensures
      (BreedController.openNextSlot user >>= rest) post db := by
  rw [World.ensures_bind]
  refine (returns_breedSlotFindFirst _).ensures_bind ?_
  intro found answer
  obtain ⟨oracle, -, rfl⟩ := answer
  cases found : oracle.findFirst db.breedSlot.rows
      (BreedController.closedSlot user) with
  | none =>
      exact World.ensures_pure.mpr (kept (Oracle.findFirst_eq_none.mp found))
  | some slot =>
      obtain ⟨listed, closed⟩ := Oracle.findFirst_eq_some found
      refine ensures_breedSlotUpdate ?_ ?_
      · intro missing
        exact absurd rfl (Table.find_eq_none.mp missing slot listed)
      · intro row _
        exact World.ensures_pure.mpr (opened slot listed closed _)

def Db.upgradeSlot (db : Db) (body : CreateBreedPairDto) (slot : BreedSlot) :
    Db :=
  if body.upgradeSlot = some true ∧
      body.gameItemId = some GameItem.FARMER_PASS ∧ slot.type = .OUTDOOR then
    db.updateBreedSlot (fun other => other.id = slot.id) (.type .INDOOR)
  else
    db

theorem Db.sameBut_upgradeSlot (db : Db) (body : CreateBreedPairDto)
    (slot : BreedSlot) :
    Db.SameBut (some .breedSlot) db (db.upgradeSlot body slot) := by
  unfold Db.upgradeSlot
  split
  · constructor <;> simp [Db.updateBreedSlot]
  · exact .refl _ _

section Upgrade

variable (db : Db) (body : CreateBreedPairDto) (slot : BreedSlot)

theorem Db.user_upgradeSlot : (db.upgradeSlot body slot).user = db.user :=
  (db.sameBut_upgradeSlot body slot).user (by decide)

theorem Db.breedPair_upgradeSlot :
    (db.upgradeSlot body slot).breedPair = db.breedPair :=
  (db.sameBut_upgradeSlot body slot).breedPair (by decide)

theorem Db.breedLevel_upgradeSlot :
    (db.upgradeSlot body slot).breedLevel = db.breedLevel :=
  (db.sameBut_upgradeSlot body slot).breedLevel (by decide)

theorem Db.breedBud_upgradeSlot :
    (db.upgradeSlot body slot).breedBud = db.breedBud :=
  (db.sameBut_upgradeSlot body slot).breedBud (by decide)

theorem Db.gen1Bud_upgradeSlot :
    (db.upgradeSlot body slot).gen1Bud = db.gen1Bud :=
  (db.sameBut_upgradeSlot body slot).gen1Bud (by decide)

end Upgrade

theorem Db.find_upgradeSlot_eq_none {body : CreateBreedPairDto}
    {slot : BreedSlot} {id : Int} :
    (db.upgradeSlot body slot).breedSlot.find id = none ↔
      db.breedSlot.find id = none := by
  unfold Db.upgradeSlot
  split
  · simp only [Db.updateBreedSlot, Serial.modify, Table.find_modify_eq_none]
  · exact Iff.rfl

theorem ensures_upgradeSlot {body : CreateBreedPairDto} {slot : BreedSlot}
    {rest : BreedSlot → Handler β} (listed : slot ∈ db.breedSlot.rows)
    (upgraded : ∀ row, (surroundings admitted).Ensures (rest row) post
      (db.upgradeSlot body slot)) :
    (surroundings admitted).Ensures
      (BreedController.upgradeSlot body slot >>= rest) post db := by
  unfold BreedController.upgradeSlot
  unfold Db.upgradeSlot at upgraded
  split
  · next granted =>
      rw [if_pos granted] at upgraded
      refine ensures_breedSlotUpdate ?_ fun row _ => upgraded _
      intro missing
      exact absurd rfl (Table.find_eq_none.mp missing slot listed)
  · next denied =>
      rw [if_neg denied] at upgraded
      exact upgraded slot

theorem ensures_issueGen1BudMint {minter : Address} {bud : Bud}
    {pairId : Option Int} {rest : Gen1Bud → Handler β}
    (unsigned : ∀ clock signer, admitted clock → admitted signer →
      signer.signature ⟨minter, .Gen1Bud, db.gen1Bud.nextId, 1, clock.now⟩ = none →
      ∀ error, post (.error error)
        (db.createGen1Bud ⟨bud, pairId, minter, ""⟩ clock.now))
    (issued : ∀ now signature row, row.id = db.gen1Bud.nextId →
      (surroundings admitted).Ensures (rest row) post
        ((db.createGen1Bud ⟨bud, pairId, minter, ""⟩ now).updateGen1Bud
          db.gen1Bud.nextId (.signature signature))) :
    (surroundings admitted).Ensures
      (BudService.issueGen1BudMint minter bud pairId >>= rest) post db := by
  rw [World.ensures_bind]
  refine ensures_gen1BudCreate ?_
  intro clock ticking
  refine (returns_ask (.signMessage _) rfl).ensures_bind ?_
  intro signature signing
  obtain ⟨signer, allowed, answered⟩ := signing
  rw [Prisma.gen1BudUpdateSignature, World.ensures_bind, World.ensures_call]
  intro _ _
  simp only [surroundings_exec, exec]
  cases signature with
  | none =>
      exact World.ensures_throw.mpr
        (unsigned clock signer ticking allowed answered.symm _)
  | some value =>
      have found : (db.createGen1Bud ⟨bud, pairId, minter, ""⟩
          clock.now).gen1Bud.find db.gen1Bud.nextId =
            some (Gen1BudCreate.row ⟨bud, pairId, minter, ""⟩ clock.now
              db.gen1Bud.nextId) := Serial.find_create_nextId _ fun _ => rfl
      simp only [Gen1BudCreate.row] at found ⊢
      rw [found]
      exact World.ensures_prog_pure.mpr (issued clock.now value _ rfl)

end Writes

end BudBreeding.Backend
