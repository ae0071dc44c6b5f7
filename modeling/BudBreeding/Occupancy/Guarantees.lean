import BudBreeding.Occupancy.Refinement

namespace BudBreeding.Occupancy

open Data Program Backend

/-! What the moves of the board mean for the tables. -/

structure TablesConsistent (db : Db) : Prop where
  housed : ∀ pair ∈ db.breedPair.rows, pair.status = .PAIRED →
    ∃ slot ∈ db.breedSlot.rows, slot.id = pair.slotId ∧
      slot.userAddress = pair.userAddress ∧ slot.isOpen = true ∧
      slot.isUsed = true ∧ slot.deletedAt = none
  single : ∀ first ∈ db.breedPair.rows, ∀ second ∈ db.breedPair.rows,
    first.status = .PAIRED → second.status = .PAIRED →
    first.slotId = second.slotId → first = second
  occupied : ∀ slot ∈ db.breedSlot.rows, slot.deletedAt = none →
    slot.isUsed = true → ∃! pair, pair ∈ db.breedPair.rows ∧
      pair.status = .PAIRED ∧ pair.slotId = slot.id

/-- Every bud has its gender and breeds in one pair. -/
structure BudsExclusive (genderOf : Int → BudGender) (db : Db) : Prop where
  gendered : ∀ pair ∈ db.breedPair.rows, pair.status = .PAIRED →
    genderOf pair.maleBudId = .M ∧ genderOf pair.femaleBudId = .F ∧
      pair.maleBudId ≠ pair.femaleBudId
  exclusive : ∀ first ∈ db.breedPair.rows, ∀ second ∈ db.breedPair.rows,
    first.status = .PAIRED → second.status = .PAIRED →
    ∀ bud, (bud = first.maleBudId ∨ bud = first.femaleBudId) →
      (bud = second.maleBudId ∨ bud = second.femaleBudId) → first = second

section Translation

variable {db : Db}

private theorem board_couples_of_paired {pair : BreedPair}
    (member : pair ∈ db.breedPair.rows) (paired : pair.status = .PAIRED) :
    (board db).couples pair.id = some ⟨pair.userAddress, pair.slotId,
      pair.maleBudId, pair.femaleBudId⟩ :=
  board_couples.mpr ⟨pair, member, rfl, paired, rfl⟩

theorem tablesConsistent_of_board (consistent : (board db).Consistent) :
    TablesConsistent db := by
  have single : ∀ first ∈ db.breedPair.rows, ∀ second ∈ db.breedPair.rows,
      first.status = .PAIRED → second.status = .PAIRED →
      first.slotId = second.slotId → first = second := by
    intro first firstMember second secondMember firstPaired secondPaired same
    exact db.breedPair.eq_of_key_eq firstMember secondMember
      (consistent.apart _ _ _ _ (board_couples_of_paired firstMember firstPaired)
        (board_couples_of_paired secondMember secondPaired) same)
  refine ⟨?_, single, ?_⟩
  · intro pair member paired
    obtain ⟨place, present, own, isOpen, taken⟩ :=
      consistent.housed _ _ (board_couples_of_paired member paired)
    obtain ⟨slot, listed, same, live, rfl⟩ := board_places.mp present
    exact ⟨slot, listed, same, own, isOpen, taken, live⟩
  · intro slot listed live used
    obtain ⟨id, couple, active, placed⟩ := consistent.occupied slot.id _
      (board_places.mpr ⟨slot, listed, rfl, live, rfl⟩) used
    obtain ⟨pair, member, -, paired, rfl⟩ := board_couples.mp active
    refine ⟨pair, ⟨member, paired, placed⟩, ?_⟩
    intro other given
    obtain ⟨otherMember, otherPaired, otherPlaced⟩ := given
    exact single other otherMember pair member otherPaired paired
      (otherPlaced.trans placed.symm)

/-- The buds of a couple on the board have the genders of their roles. -/
def Gendered (genderOf : Int → BudGender) (male female : Int) : Prop :=
  genderOf male = .M ∧ genderOf female = .F

theorem budsExclusive_of_board {genderOf : Int → BudGender}
    (faithful : (board db).Faithful (Gendered genderOf)) :
    BudsExclusive genderOf db := by
  refine ⟨?_, ?_⟩
  · intro pair member paired
    obtain ⟨male, female⟩ :=
      faithful.fits _ _ (board_couples_of_paired member paired)
    refine ⟨male, female, fun same => ?_⟩
    rw [same] at male
    exact nomatch male.symm.trans female
  · intro first firstMember second secondMember firstPaired secondPaired bud
      inFirst inSecond
    have kinds : ∀ male female, Gendered genderOf male female →
        decide (genderOf male = .M) = true ∧
          decide (genderOf female = .M) = false := by
      intro male female given
      obtain ⟨isMale, isFemale⟩ := given
      simp [isMale, isFemale]
    exact db.breedPair.eq_of_key_eq firstMember secondMember
      (faithful.disjoint kinds (board_couples_of_paired firstMember firstPaired)
        (board_couples_of_paired secondMember secondPaired) inFirst inSecond)

end Translation

section Runs

variable {app : App} {admitted : Oracle → Prop}
  {steps : List (Transition Db Exchange)} {start final : Db}

theorem moves_of_run {fit : Int → Int → Prop} (matching : Matches admitted fit)
    (run : Run app admitted start steps final) :
    Board.Moves fit (board start) (board final) := by
  induction run with
  | nil => exact .refl
  | snoc earlier handles moved =>
      exact moved.trans
        (moves_of_outcome matching (outcome_of_handles handles))

theorem tables_consistent (run : Run app admitted .empty steps final) :
    TablesConsistent final := by
  have moved := moves_of_run (fun _ _ _ _ => trivial) run
  refine tablesConsistent_of_board (moved.consistent ⟨?_, ?_, ?_⟩)
  · exact fun id couple active => nomatch active
  · exact fun id other couple rival active => nomatch active
  · exact fun key place present => nomatch present

theorem tables_consistent_breeding :
    TablesConsistent (serve (liveApp .goerli) breedingScript .empty).2 :=
  tables_consistent (run_of_serve (liveApp .goerli) breedingScript .empty)

/-- The metadata API fails or returns one record for each distinct id, in which
the gender of a bud is always the same. -/
def MetadataReliable (admitted : Oracle → Prop)
    (genderOf : Int → BudGender) : Prop :=
  ∀ oracle, admitted oracle → ∀ tokenIds records,
    oracle.metadata tokenIds = some records →
      (records.map BudWithId.id).Perm tokenIds.dedup ∧
        ∀ record ∈ records, record.gender = genderOf record.id

theorem matches_of_reliable {genderOf : Int → BudGender}
    (reliable : MetadataReliable admitted genderOf) :
    Matches admitted (Gendered genderOf) := by
  intro male female metadatas answer
  obtain ⟨⟨oracle, allowed, rfl⟩, checked⟩ := answer
  cases answered : oracle.metadata [male, female] with
  | none =>
      rw [answered] at checked
      cases checked
  | some records =>
      rw [answered] at checked
      obtain ⟨listed, genders⟩ := reliable oracle allowed _ _ answered
      have known : ∀ id ∈ [male, female], ∃ record ∈ records,
          record.id = id ∧ (record.id, record.gender) ∈
            records.map fun bud => (bud.id, bud.gender) := by
        intro id requested
        obtain ⟨record, member, same⟩ := List.mem_map.mp
          (listed.mem_iff.mpr (List.mem_dedup.mpr requested))
        exact ⟨record, member, same, List.mem_map.mpr ⟨record, member, rfl⟩⟩
      constructor
      · obtain ⟨record, member, same, entry⟩ := known male (by simp)
        rw [← same, ← genders record member]
        exact (gender_of_genders checked entry).1 same
      · obtain ⟨record, member, same, entry⟩ := known female (by simp)
        rw [← same, ← genders record member]
        exact (gender_of_genders checked entry).2 same

theorem buds_exclusive {genderOf : Int → BudGender}
    (reliable : MetadataReliable admitted genderOf)
    (run : Run app admitted .empty steps final) :
    BudsExclusive genderOf final := by
  have moved := moves_of_run (matches_of_reliable reliable) run
  refine budsExclusive_of_board (moved.faithful ⟨?_, ?_⟩)
  · exact fun id couple active => nomatch active
  · exact fun id other couple rival active => nomatch active

def Agreeable (oracle : Oracle) : Prop :=
  ∃ account now, oracle = .agreeable account now

theorem reliable_agreeable : MetadataReliable Agreeable oddMale := by
  rintro oracle ⟨account, now, rfl⟩ tokenIds records answered
  simp only [Oracle.agreeable, Option.some.injEq] at answered
  subst answered
  constructor
  · simp [List.map_map, Function.comp_def]
  · intro record member
    obtain ⟨id, -, rfl⟩ := List.mem_map.mp member
    rfl

theorem buds_exclusive_breeding :
    BudsExclusive oddMale
      (serve (liveApp .goerli) breedingScript .empty).2 := by
  have allowed : ∀ entry ∈ breedingScript, Agreeable entry.2 := by
    intro entry member
    simp only [breedingScript, List.mem_cons, List.not_mem_nil, or_false]
      at member
    rcases member with rfl | rfl | rfl | rfl | rfl | rfl | rfl
    all_goals exact ⟨_, _, rfl⟩
  exact buds_exclusive reliable_agreeable (run_serve allowed .nil)

end Runs

end BudBreeding.Occupancy
