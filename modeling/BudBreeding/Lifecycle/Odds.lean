import Mathlib.Tactic.Linarith
import BudBreeding.Backend.Runs

namespace BudBreeding.Lifecycle

open Data Program Backend

/-! The dice at the end of a breeding, and what a higher rate does to it. -/

/-- Whether the dice is won when `winRandomChance` draws the number. -/
def wins (rate : Rat) (draw : Draw) : Bool :=
  rate = 100 ∨ 0 < rate ∧ rate < 100 ∧ (⌊draw.val * 100⌋ : Rat) ≤ rate

section Dice

/-- The number that always wins below the top rate. -/
def smallest : Draw :=
  (Oracle.agreeable "alice" (period 0)).random

theorem wins_smallest {rate : Rat} :
    wins rate smallest = true ↔ 0 < rate ∧ rate ≤ 100 := by
  have zero : ((⌊smallest.val * 100⌋ : Int) : Rat) = 0 := by decide +kernel
  unfold wins
  rw [decide_eq_true_iff, zero]
  constructor
  · intro won
    cases won with
    | inl top => constructor <;> linarith
    | inr within => exact ⟨within.1, within.2.1.le⟩
  · intro within
    obtain ⟨positive, bounded⟩ := within
    cases bounded.eq_or_lt with
    | inl top => exact .inl top
    | inr below => exact .inr ⟨positive, below, positive.le⟩

/-- Between two rates the dice keeps what it wins, unless the higher one has left the
range of a percentage. -/
def Improves (rate better : Rat) : Prop :=
  better ≤ 100 ∨ rate ≤ 0 ∨ 100 < rate

theorem wins_of_improves {rate better : Rat} {draw : Draw} (ordered : rate ≤ better)
    (improves : Improves rate better) (won : wins rate draw = true) :
    wins better draw = true := by
  have within := of_decide_eq_true won
  have bounded : better ≤ 100 := by
    cases improves with
    | inl bounded => exact bounded
    | inr outside =>
        cases within with
        | inl top => cases outside <;> linarith
        | inr inside => cases outside <;> linarith [inside.1, inside.2.1]
  apply decide_eq_true
  cases bounded.eq_or_lt with
  | inl top => exact .inl top
  | inr below =>
      cases within with
      | inl top => linarith
      | inr inside =>
          obtain ⟨positive, -, drawn⟩ := inside
          exact .inr ⟨positive.trans_le ordered, below, drawn.trans ordered⟩

theorem improves_of_wins {rate better : Rat}
    (kept : wins rate smallest = true → wins better smallest = true) :
    Improves rate better := by
  rw [wins_smallest, wins_smallest] at kept
  by_contra lost
  simp only [Improves, not_or, not_le, not_lt] at lost
  obtain ⟨above, positive, bounded⟩ := lost
  exact absurd (kept ⟨positive, bounded⟩).2 (not_le.mpr above)

end Dice

section Programs

def rolling (draw : Draw) : Oracle :=
  { Oracle.agreeable "alice" (period 0) with random := draw }

variable {app : App} {admitted : Oracle → Prop} {db : Db}

/-- The dice program against a stream of oracles, one for each call. -/
def Wins (app : App) (rate : Rat) (oracles : Nat → Oracle) (db : Db) : Prop :=
  ∃ bud, ((surroundings fun _ => True).run oracles (BudService.diceGen1Bud app rate)
    db).1 = .ok (some bud)

def Rewards (app : App) (pair : BreedPair) (oracles : Nat → Oracle) (db : Db) : Prop :=
  ∃ bud, ((surroundings fun _ => True).run oracles
    (BreedService.finalizeBreeding app pair) db).1 = .ok (some bud)

def finalRate (db : Db) (pair : BreedPair) : Rat :=
  pair.rate + ((db.breedLevel.rows.filter (BreedService.finalizedLevels pair.id)).map
    BreedLevel.bonusRate).sum

theorem run_thrown (oracles : Nat → Oracle) (rate : Rat) (success : Bool) :
    (∃ bud, ((surroundings fun _ => True).run oracles
      (if success then do
          let bud ← generateRandomBud app { defaultOptions with gen1 := true }
          let thcAndBudSize ← HashTableService.lookUpGen1Bud app rate
          return some { bud with
            thc := thcAndBudSize.thc
            budSize := thcAndBudSize.budSize }
        else
          return none : Handler (Option Bud)) db).1 = .ok (some bud)) ↔
      success = true := by
  cases success with
  | false =>
      apply iff_of_false
      · intro won
        obtain ⟨bud, same⟩ := won
        cases same
      · exact Bool.false_ne_true
  | true =>
      apply iff_of_true _ rfl
      have every : (surroundings fun _ => True).Returns
          (do
            let bud ← generateRandomBud app { defaultOptions with gen1 := true }
            let thcAndBudSize ← HashTableService.lookUpGen1Bud app rate
            return some { bud with
              thc := thcAndBudSize.thc
              budSize := thcAndBudSize.budSize } : Handler (Option Bud))
          (fun dice => ∃ bud, dice = some bud) db := by
        refine (returns_generateRandomBud app _ (by decide)).ensures_bind ?_
        intro bud _
        refine (returns_lookUpGen1Bud app rate).ensures_bind ?_
        intro size _
        exact World.returns_pure ⟨_, rfl⟩
      obtain ⟨-, dice, answered, bud, rfl⟩ :=
        every _ _ (World.runs_run (fun _ _ => trivial) _ _)
      exact ⟨bud, answered⟩

theorem wins_iff {rate : Rat} {oracles : Nat → Oracle} :
    Wins app rate oracles db ↔ wins rate (oracles 0).random = true := by
  unfold Wins BudService.diceGen1Bud winRandomChance wins
  rw [decide_eq_true_iff]
  by_cases top : rate = 100
  · rw [if_pos top]
    exact iff_of_true ((run_thrown oracles rate true).mpr rfl) (.inl top)
  · rw [if_neg top, or_iff_right top]
    by_cases within : 0 < rate ∧ rate < 100
    · rw [if_pos within]
      have number : ⌊(oracles 0).random.val * ((100 - 0 : Int) : Rat)⌋ + 0 =
          ⌊(oracles 0).random.val * 100⌋ := by
        norm_num
      have thrown := @run_thrown app db (fun index => oracles (index + 1)) rate
        (decide (((⌊(oracles 0).random.val * ((100 - 0 : Int) : Rat)⌋ + 0 : Int) : Rat) ≤
          rate))
      refine thrown.trans ?_
      rw [decide_eq_true_iff, number]
      constructor
      · intro drawn
        exact ⟨within.1, within.2, drawn⟩
      · intro drawn
        exact drawn.2.2
    · rw [if_neg within]
      apply iff_of_false
      · exact mt (@run_thrown app db oracles rate false).mp Bool.false_ne_true
      · intro drawn
        exact within ⟨drawn.1, drawn.2.1⟩

theorem rewards_iff {pair : BreedPair} {oracles : Nat → Oracle} :
    Rewards app pair oracles db ↔ wins (finalRate db pair) (oracles 1).random = true :=
  @wins_iff app db (finalRate db pair) fun index => oracles (index + 1)

theorem returns_winRandomChance_wins {rate : Rat} {oracle : Oracle}
    (allowed : admitted oracle) :
    (surroundings admitted).Returns (winRandomChance rate)
      (fun success => success = true →
        ∃ thrower, admitted thrower ∧ wins rate thrower.random = true) db := by
  have drawn : (surroundings admitted).Returns (randomNumber 100 0)
      (fun number => ∃ thrower, admitted thrower ∧
        number = ⌊thrower.random.val * 100⌋) db := by
    refine (returns_ask .mathRandom rfl).ensures_bind ?_
    intro draw drawn
    obtain ⟨thrower, granted, rfl⟩ := drawn
    apply World.returns_pure
    refine ⟨thrower, granted, ?_⟩
    simp [exec]
  unfold winRandomChance
  split
  · next top =>
    apply World.returns_pure
    intro _
    exact ⟨oracle, allowed, decide_eq_true (.inl top)⟩
  · split
    · next within =>
      refine drawn.ensures_bind ?_
      intro number shown
      obtain ⟨thrower, granted, rfl⟩ := shown
      apply World.returns_pure
      intro won
      exact ⟨thrower, granted,
        decide_eq_true (.inr ⟨within.1, within.2, of_decide_eq_true won⟩)⟩
    · apply World.returns_pure
      intro won
      cases won

theorem returns_finalizeBreeding {pair : BreedPair} :
    (surroundings admitted).Returns (BreedService.finalizeBreeding app pair)
      (fun result => result.isSome = true →
        ∃ thrower, admitted thrower ∧
          wins (finalRate db pair) thrower.random = true) db := by
  refine (returns_ask (.breedLevelSumBonusRate _) rfl).ensures_bind ?_
  intro bonus summed
  obtain ⟨oracle, allowed, rfl⟩ := summed
  refine (returns_winRandomChance_wins allowed).ensures_bind ?_
  intro success won
  cases success with
  | false =>
      apply World.returns_pure
      intro absent
      cases absent
  | true =>
      refine (returns_generateRandomBud app _ (by decide)).ensures_bind ?_
      intro bud _
      refine (returns_lookUpGen1Bud app _).ensures_bind ?_
      intro size _
      apply World.returns_pure
      intro _
      exact won rfl

theorem may_finalizeBreeding {β : Type} {pair : BreedPair} {thrower : Oracle}
    {rest : Option Bud → Handler β} {post : Except Failure β → Db → Prop}
    (allowed : admitted thrower)
    (won : wins (finalRate db pair) thrower.random = true)
    (continued : ∀ bud, (surroundings admitted).May (rest (some bud)) post db) :
    (surroundings admitted).May (BreedService.finalizeBreeding app pair >>= rest) post
      db := by
  have rewarded : Rewards app pair (fun _ => thrower) db := rewards_iff.mpr won
  obtain ⟨bud, answered⟩ := rewarded
  have runs := @World.runs_run _ _ _ _ _ _ (surroundings admitted) (fun _ => thrower)
    (fun _ _ => allowed) (BreedService.finalizeBreeding app pair) db
  have unchanged := (returns_finalizeBreeding _ _ runs).1
  rw [run_surroundings _ admitted] at answered
  rw [answered, unchanged] at runs
  apply World.May.bind
  exact ⟨_, _, runs, continued bud⟩

/-- A higher rate never loses a dice that a lower rate wins with the same number,
just when it is still a percentage or the lower rate wins nothing anyway. -/
theorem better_odds_iff {rate better : Rat} (ordered : rate ≤ better) :
    ((∀ (app : App) (oracles others : Nat → Oracle) (db other : Db),
        (oracles 0).random = (others 0).random →
        Wins app rate oracles db → Wins app better others other) ↔
      Improves rate better) ∧
    ∀ (app : App) (db other : Db) (pair improved : BreedPair),
      finalRate db pair = rate → finalRate other improved = better →
      ((∀ oracles others : Nat → Oracle, (oracles 1).random = (others 1).random →
          Rewards app pair oracles db → Rewards app improved others other) ↔
        Improves rate better) := by
  constructor
  · constructor
    · intro kept
      apply improves_of_wins
      intro won
      have low : Wins (liveApp .goerli) rate (fun _ => rolling smallest) .empty :=
        wins_iff.mpr won
      have high := kept _ _ (fun _ => rolling smallest) _ .empty rfl low
      rw [wins_iff] at high
      exact high
    · intro improves app oracles others db other same won
      rw [wins_iff] at won ⊢
      rw [← same]
      exact wins_of_improves ordered improves won
  · intro app db other pair improved lower higher
    constructor
    · intro kept
      apply improves_of_wins
      intro won
      rw [← lower] at won
      have low : Rewards app pair (fun _ => rolling smallest) db := rewards_iff.mpr won
      have high := kept _ (fun _ => rolling smallest) rfl low
      rw [rewards_iff, higher] at high
      exact high
    · intro improves oracles others same won
      rw [rewards_iff, lower] at won
      rw [rewards_iff, higher, ← same]
      exact wins_of_improves ordered improves won

theorem better_odds_iff_seventy :
    Wins (liveApp .goerli) 70 (fun _ => rolling smallest) .empty := by
  have low : Wins (liveApp .goerli) 50 (fun _ => rolling smallest) .empty :=
    wins_iff.mpr (by decide +kernel)
  have improves : Improves 50 70 := .inl (by decide +kernel)
  exact (better_odds_iff (by decide +kernel : (50 : Rat) ≤ 70)).1.mpr improves
    (liveApp .goerli) (fun _ => rolling smallest) _ .empty .empty rfl low

/-- The smallest number wins at a rate of 50 and loses at a rate of 105. -/
theorem odds_lost_past_hundred :
    ¬ ∀ (app : App) (rate better : Rat) (oracles others : Nat → Oracle)
        (db other : Db),
      rate ≤ better → (oracles 0).random = (others 0).random →
      Wins app rate oracles db → Wins app better others other := by
  intro kept
  have lost := kept (liveApp .goerli) 50 105 (fun _ => rolling smallest)
    (fun _ => rolling smallest) .empty .empty (by decide +kernel) rfl
  rw [wins_iff, wins_iff] at lost
  exact absurd lost (by decide +kernel)

end Programs

end BudBreeding.Lifecycle
