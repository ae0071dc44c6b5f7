import BudBreeding.Data.Draws
import BudBreeding.Lifecycle.Odds

namespace BudBreeding.Lifecycle

open Data Program Backend

/-! How often the dice is won. -/

section Draws

variable {K : Type} [Field K] [LinearOrder K] [FloorRing K]

/-- `randomNumber`, whatever number `Math.random` is. -/
def randomNumberAt (random : K) (max min : Int) : Int :=
  ⌊random * (max - min : Int)⌋ + min

/-- `winRandomChance`, whatever number `Math.random` is. -/
def winRandomChanceAt (random : K) (chance : Rat) : Bool :=
  if chance = 100 then
    true
  else if 0 < chance ∧ chance < 100 then
    decide ((randomNumberAt random 100 0 : Rat) ≤ chance)
  else
    false

theorem randomNumberAt_zero (random : K) (max : Int) :
    randomNumberAt random max 0 = numbered random max := by
  rw [randomNumberAt, sub_zero, add_zero, numbered]

variable {random : K} {rate : Rat}

@[simp] theorem winRandomChanceAt_zero : winRandomChanceAt random 0 = false := by
  rw [winRandomChanceAt, if_neg (by decide +kernel), if_neg (by decide +kernel)]

@[simp] theorem winRandomChanceAt_hundred : winRandomChanceAt random 100 = true :=
  if_pos rfl

variable [IsStrictOrderedRing K]

theorem randomNumberAt_cast (random : Rat) (max min : Int) :
    randomNumberAt (random : K) max min = randomNumberAt random max min := by
  have cast := numbered_cast (K := K) random (max - min)
  unfold numbered at cast
  rw [randomNumberAt, randomNumberAt, cast]

theorem winRandomChanceAt_inside (positive : 0 < rate) (below : rate < 100) :
    winRandomChanceAt random rate = true ↔ random < (⌊rate⌋ + 1) / 100 := by
  have number : (randomNumberAt random 100 0 : Rat) ≤ rate ↔
      numbered random 100 ≤ ⌊rate⌋ := by
    rw [randomNumberAt_zero, Int.le_floor]
  have limit : numbered random 100 ≤ ⌊rate⌋ ↔
      random < ((⌊rate⌋ : Int) + 1) / ((100 : Int) : K) := numbered_le_iff (by decide)
  push_cast at limit
  rw [winRandomChanceAt, if_neg below.ne, if_pos ⟨positive, below⟩, decide_eq_true_iff,
    number, limit]

theorem winRandomChanceAt_cast (random rate : Rat) :
    winRandomChanceAt (random : K) rate = winRandomChanceAt random rate := by
  unfold winRandomChanceAt
  rw [randomNumberAt_cast]

theorem wins_eq (rate : Rat) (draw : Draw) :
    wins rate draw = winRandomChanceAt draw.val rate := by
  have number : randomNumberAt draw.val 100 0 = ⌊draw.val * 100⌋ := by
    rw [randomNumberAt_zero, numbered]
    norm_num
  unfold wins winRandomChanceAt
  by_cases top : rate = 100
  · rw [if_pos top]
    exact decide_eq_true (.inl top)
  · rw [if_neg top]
    by_cases within : 0 < rate ∧ rate < 100
    · rw [if_pos within, number]
      simp only [top, within, false_or, true_and]
    · rw [if_neg within]
      apply decide_eq_false
      rintro (reached | inside)
      · exact top reached
      · exact within ⟨inside.1, inside.2.1⟩

end Draws

/-- A whole percentage other than 0 and 100. -/
def Inner (rate : Rat) : Prop :=
  (∃ percentage : Int, rate = percentage) ∧ 0 < rate ∧ rate < 100

def winning (rate : Rat) : Set ℝ :=
  {random | winRandomChanceAt random rate = true}

/-- The dice wins with the numbers below its rate, which are as many as the rate. -/
structure Calibrated (rate : Rat) : Prop where
  below : ∀ random : ℝ, 0 ≤ random → random < 1 →
    (random ∈ winning rate ↔ random < ⌈rate⌉ / 100)
  fair : ∀ percentage : Int, rate = percentage →
    uniform (winning rate) = ENNReal.ofReal (percentage / 100)

def Surplus (rate : Rat) (random : ℝ) : Prop :=
  Inner rate ∧ rate / 100 ≤ random ∧ random < (rate + 1) / 100

section Calibration

variable {rate : Rat}

theorem mem_winning_of_inner {percentage : Int} (whole : rate = percentage)
    (positive : 0 < rate) (below : rate < 100) {random : ℝ} :
    random ∈ winning rate ↔ random < (percentage + 1) / 100 := by
  rw [winning, Set.mem_ofPred_eq, winRandomChanceAt_inside positive below]
  rw [whole, Int.floor_intCast]

/-- Between the whole percentages the dice is rounded up. -/
theorem mem_winning_of_not_inner (nonneg : 0 ≤ rate) (bounded : rate ≤ 100)
    (outer : ¬ Inner rate) {random : ℝ} (drawn : 0 ≤ random) (inside : random < 1) :
    random ∈ winning rate ↔ random < ⌈rate⌉ / 100 := by
  unfold winning
  rw [Set.mem_ofPred_eq]
  rcases nonneg.eq_or_lt with rfl | positive
  · rw [winRandomChanceAt_zero, Int.ceil_zero, Int.cast_zero, zero_div]
    exact iff_of_false Bool.false_ne_true (not_lt.mpr drawn)
  · rcases bounded.eq_or_lt with rfl | below
    · rw [winRandomChanceAt_hundred]
      apply iff_of_true rfl
      norm_num
      exact inside
    · have fraction : ⌈rate⌉ = ⌊rate⌋ + 1 := by
        apply Int.ceil_eq_floor_add_one_iff_notMem _ |>.mpr
        rintro ⟨percentage, whole⟩
        exact outer ⟨⟨percentage, whole.symm⟩, positive, below⟩
      rw [winRandomChanceAt_inside positive below, fraction]
      push_cast
      rfl

theorem uniform_winning_of_inner {percentage : Int} (whole : rate = percentage)
    (positive : 0 < rate) (below : rate < 100) :
    uniform (winning rate) = ENNReal.ofReal ((percentage + 1) / 100) := by
  have most : (percentage : ℝ) + 1 ≤ 100 := by
    rw [whole] at below
    exact_mod_cast below
  apply uniform_below
  · linarith
  · intro random _ _
    exact mem_winning_of_inner whole positive below

theorem not_calibrated_of_inner (inner : Inner rate) : ¬ Calibrated rate := by
  intro calibrated
  obtain ⟨⟨percentage, whole⟩, positive, below⟩ := inner
  have least : (0 : ℝ) < percentage := by
    rw [whole] at positive
    exact_mod_cast positive
  have most : (percentage : ℝ) < 100 := by
    rw [whole] at below
    exact_mod_cast below
  have won : (percentage / 100 : ℝ) ∈ winning rate :=
    (mem_winning_of_inner whole positive below).mpr (by linarith)
  rw [calibrated.below _ (by positivity) (by linarith), whole, Int.ceil_intCast] at won
  exact lt_irrefl _ won

theorem calibrated_of_not_inner (nonneg : 0 ≤ rate) (bounded : rate ≤ 100)
    (outer : ¬ Inner rate) : Calibrated rate := by
  constructor
  · intro random drawn inside
    exact mem_winning_of_not_inner nonneg bounded outer drawn inside
  · intro percentage whole
    have most : (percentage : ℝ) ≤ 100 := by
      rw [whole] at bounded
      exact_mod_cast bounded
    apply uniform_below (by linarith)
    intro random drawn inside
    rw [mem_winning_of_not_inner nonneg bounded outer drawn inside, whole,
      Int.ceil_intCast]

theorem below_iff_not_surplus (nonneg : 0 ≤ rate) (bounded : rate ≤ 100) {random : ℝ}
    (drawn : 0 ≤ random) (inside : random < 1) :
    (random ∈ winning rate ↔ random < ⌈rate⌉ / 100) ↔ ¬ Surplus rate random := by
  by_cases inner : Inner rate
  · obtain ⟨⟨percentage, whole⟩, positive, below⟩ := inner
    have same : (rate : ℝ) = percentage := by
      rw [whole]
      push_cast
      rfl
    rw [mem_winning_of_inner whole positive below, Surplus,
      and_iff_right ⟨⟨percentage, whole⟩, positive, below⟩, same]
    have ceiling : ⌈rate⌉ = percentage := by rw [whole, Int.ceil_intCast]
    rw [ceiling]
    constructor
    · intro alike surplus
      exact absurd (alike.mp surplus.2) (not_lt.mpr surplus.1)
    · intro narrow
      constructor
      · intro won
        by_contra reached
        exact narrow ⟨not_lt.mp reached, won⟩
      · intro won
        linarith
  · apply iff_of_true
    · exact mem_winning_of_not_inner nonneg bounded inner drawn inside
    · exact fun surplus => inner surplus.1

theorem wins_iff_mem_winning {app : App} {oracles : Nat → Oracle} {db : Db} :
    Wins app rate oracles db ↔ ((oracles 0).random.val : ℝ) ∈ winning rate := by
  rw [wins_iff, wins_eq, winning, Set.mem_ofPred_eq, winRandomChanceAt_cast]

theorem rewards_iff_mem_winning {app : App} {pair : BreedPair} {oracles : Nat → Oracle}
    {db : Db} :
    Rewards app pair oracles db ↔
      ((oracles 1).random.val : ℝ) ∈ winning (finalRate db pair) := by
  rw [rewards_iff, wins_eq, winning, Set.mem_ofPred_eq, winRandomChanceAt_cast]

/-- The dice of burning and of finalizing is calibrated but for the whole percentages
between 0 and 100, which win one draw in a hundred too often. -/
theorem calibrated_iff (nonneg : 0 ≤ rate) (bounded : rate ≤ 100) :
    (Calibrated rate ↔ ¬ Inner rate) ∧
    (∀ random : ℝ, 0 ≤ random → random < 1 →
      ((random ∈ winning rate ↔ random < ⌈rate⌉ / 100) ↔ ¬ Surplus rate random)) ∧
    ∀ (app : App) (oracles : Nat → Oracle) (db : Db),
      (app.config.burnSuccessRate = rate →
        (Wins app app.config.burnSuccessRate oracles db ↔
          ((oracles 0).random.val : ℝ) ∈ winning rate)) ∧
      ∀ pair, finalRate db pair = rate →
        (Rewards app pair oracles db ↔ ((oracles 1).random.val : ℝ) ∈ winning rate) := by
  refine ⟨⟨?_, ?_⟩, ?_, ?_⟩
  · intro calibrated inner
    exact not_calibrated_of_inner inner calibrated
  · exact calibrated_of_not_inner nonneg bounded
  · intro random drawn inside
    exact below_iff_not_surplus nonneg bounded drawn inside
  · intro app oracles db
    constructor
    · rintro rfl
      exact wins_iff_mem_winning
    · rintro pair rfl
      exact rewards_iff_mem_winning

/-- A rate between 3 and 4 percent wins the draws below 0.04. -/
theorem calibrated_iff_fractional :
    Calibrated (7 / 2) ∧ (39 / 1000 : ℝ) ∈ winning (7 / 2) ∧
      (1 / 25 : ℝ) ∉ winning (7 / 2) := by
  have calibrated : Calibrated (7 / 2) := by
    apply (calibrated_iff (by decide +kernel) (by decide +kernel)).1.mpr
    rintro ⟨⟨percentage, whole⟩, -⟩
    have denominator := congrArg Rat.den whole
    rw [Rat.den_intCast] at denominator
    exact absurd denominator (by decide +kernel)
  have ceiling : ⌈(7 / 2 : Rat)⌉ = 4 := by decide +kernel
  refine ⟨calibrated, ?_, ?_⟩
  · rw [calibrated.below _ (by norm_num) (by norm_num), ceiling]
    norm_num
  · rw [calibrated.below _ (by norm_num) (by norm_num), ceiling]
    norm_num

/-- The dice of the burning wins 61 draws in a hundred. -/
theorem burning_won_too_often :
    ¬ (∀ rate : Rat, 0 ≤ rate → rate ≤ 100 → Calibrated rate) ∧
      uniform (winning (appConfig .mainnet).burnSuccessRate) =
        ENNReal.ofReal (61 / 100) := by
  have sixty : Inner 60 := ⟨⟨60, rfl⟩, by decide +kernel, by decide +kernel⟩
  constructor
  · intro calibrated
    exact not_calibrated_of_inner sixty
      (calibrated 60 (by decide +kernel) (by decide +kernel))
  · have often : uniform (winning 60) = ENNReal.ofReal (((60 : Int) + 1) / 100) :=
      uniform_winning_of_inner rfl sixty.2.1 sixty.2.2
    norm_num at often
    exact often

end Calibration

end BudBreeding.Lifecycle
