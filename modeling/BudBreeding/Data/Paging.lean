import Mathlib.Data.List.Nodup
import Mathlib.Order.Lattice

namespace BudBreeding.Data

/-! A listing in the order of a score, read page by page.  Each page is asked for by
the last row of the page before it, and starts after the first of the rows whose
score is no higher than that of this row. -/

/-- What a client receives that asks for one page after the other until an empty one
comes. -/
inductive Traverses {α κ : Type} (ask : Option κ → Option (List α))
    (cursorOf : α → κ) : Option κ → List α → Prop
  | done {cursor : Option κ} (answered : ask cursor = some []) :
      Traverses ask cursorOf cursor []
  | more {cursor : Option κ} {front rest : List α} {last : α}
      (answered : ask cursor = some (front ++ [last]))
      (continued : Traverses ask cursorOf (some (cursorOf last)) rest) :
      Traverses ask cursorOf cursor (front ++ [last] ++ rest)

variable {α κ σ : Type} {ask : Option κ → Option (List α)} {cursorOf : α → κ}
  {score : α → σ} {size : Nat} {listing : List α}

theorem Traverses.mem_of_answered {cursor : Option κ} {total page : List α}
    {row : α} (traverses : Traverses ask cursorOf cursor total)
    (answered : ask cursor = some page) (member : row ∈ page) : row ∈ total := by
  cases traverses with
  | done nothing =>
      rw [answered] at nothing
      cases nothing
      exact member
  | more received continued =>
      rw [answered] at received
      cases received
      exact List.mem_append_left _ member

theorem Traverses.forall_mem {holds : α → Prop} {cursor : Option κ}
    {total : List α} (traverses : Traverses ask cursorOf cursor total)
    (each : ∀ cursor page, ask cursor = some page → ∀ row ∈ page, holds row) :
    ∀ row ∈ total, holds row := by
  induction traverses with
  | done nothing =>
      intro row member
      exact absurd member List.not_mem_nil
  | more received continued induction =>
      intro row member
      cases List.mem_append.mp member with
      | inl here => exact each _ _ received row here
      | inr later => exact induction row later

/-- No other row of the list has the score of the last one. -/
def LastApart (score : α → σ) (rows : List α) : Prop :=
  ∀ front last, rows = front ++ [last] → ∀ row ∈ front, score row ≠ score last

/-- No row at the end of a page has the score of the row before it. -/
def EndsApart (score : α → σ) (size : Nat) (listing : List α) : Prop :=
  ∀ front first second later, listing = front ++ first :: second :: later →
    size ∣ front.length + 2 ∨ later = [] → score first ≠ score second

theorem endsApart_map {β : Type} {copy : β → α} {original : List β} :
    EndsApart score size (original.map copy) ↔
      EndsApart (fun row => score (copy row)) size original := by
  constructor
  · intro apart front first second later split ends
    apply apart (front.map copy) (copy first) (copy second) (later.map copy)
    · rw [split, List.map_append, List.map_cons, List.map_cons]
    · rw [List.length_map, List.map_eq_nil_iff]
      exact ends
  · intro apart front first second later split ends
    obtain ⟨before, after, rfl, rfl, tail⟩ := List.map_eq_append_iff.mp split
    obtain ⟨row, rest, rfl, rfl, ending⟩ := List.map_eq_cons_iff.mp tail
    obtain ⟨next, others, rfl, rfl, rfl⟩ := List.map_eq_cons_iff.mp ending
    rw [List.length_map, List.map_eq_nil_iff] at ends
    exact apart before row next others rfl ends

theorem endsApart_of_nodup (distinct : (listing.map score).Nodup) :
    EndsApart score size listing := by
  intro front first second later split _ same
  rw [split, List.map_append, List.map_cons, List.map_cons] at distinct
  have tail := (List.nodup_append.mp distinct).2.1
  apply (List.nodup_cons.mp tail).1
  rw [same]
  exact List.mem_cons_self

variable [LinearOrder σ]

def Descending (score : α → σ) (listing : List α) : Prop :=
  listing.Pairwise fun first second => score second ≤ score first

/-- The rows a page may be taken from when the one before ended at `row`. -/
def upFrom (score : α → σ) (listing : List α) (row : α) : List α :=
  (listing.filter fun other => score other ≤ score row).drop 1

structure Serves (ask : Option κ → Option (List α)) (cursorOf : α → κ)
    (score : α → σ) (size : Nat) (listing : List α) : Prop where
  positive : 0 < size
  sorted : Descending score listing
  distinct : listing.Nodup
  first : ask none = some (listing.take size)
  next : ∀ row ∈ listing,
    ask (some (cursorOf row)) = some ((upFrom score listing row).take size)

/-- Above a row all of whose predecessors have higher scores, nothing is skipped but
the row itself. -/
theorem upFrom_of_apart {before later : List α} {row same : α}
    (sorted : Descending score (before ++ row :: later))
    (apart : ∀ other ∈ before, score other ≠ score row)
    (equal : score same = score row) :
    upFrom score (before ++ row :: later) same = later := by
  obtain ⟨-, below, above⟩ := List.pairwise_append.mp sorted
  have none : before.filter (fun other => score other ≤ score same) = [] := by
    apply List.filter_eq_nil_iff.mpr
    intro other member low
    rw [equal, decide_eq_true_iff] at low
    exact apart other member (le_antisymm low (above other member row List.mem_cons_self))
  have all : (row :: later).filter (fun other => score other ≤ score same) =
      row :: later := by
    apply List.filter_eq_self.mpr
    intro other member
    rw [equal, decide_eq_true_iff]
    cases List.mem_cons.mp member with
    | inl here => rw [here]
    | inr after => exact List.rel_of_pairwise_cons below after
  rw [upFrom, List.filter_append, none, all]
  rfl

theorem lastApart_snoc {before : List α} {last : α}
    (sorted : Descending score (before ++ [last]))
    (apart : ∀ front row, before = front ++ [row] → score row ≠ score last) :
    LastApart score (before ++ [last]) := by
  intro front other split row member
  obtain ⟨rfl, same⟩ := List.append_inj' split rfl
  cases same
  rcases List.eq_nil_or_concat before with rfl | ⟨init, previous, rfl⟩
  · exact absurd member List.not_mem_nil
  · rw [List.concat_eq_append] at sorted apart member
    have different := apart init previous rfl
    obtain ⟨inner, -, above⟩ := List.pairwise_append.mp sorted
    cases List.mem_append.mp member with
    | inr single =>
        rw [List.mem_singleton.mp single]
        exact different
    | inl early =>
        have lower := above previous (by simp) last List.mem_cons_self
        have higher := (List.pairwise_append.mp inner).2.2 row early previous
          List.mem_cons_self
        exact ne_of_gt (lt_of_lt_of_le (lt_of_le_of_ne lower different.symm) higher)

theorem exists_first {rows : List α} {row : α} (member : row ∈ rows) {value : σ}
    (equal : score row = value) :
    ∃ early first between, rows = early ++ first :: between ∧
      score first = value ∧ ∀ other ∈ early, score other ≠ value := by
  induction rows with
  | nil => exact absurd member List.not_mem_nil
  | cons head tail induction =>
      by_cases level : score head = value
      · exact ⟨[], head, tail, rfl, level, by simp⟩
      · cases List.mem_cons.mp member with
        | inl here => exact absurd (here ▸ equal) level
        | inr later =>
            obtain ⟨early, first, between, rfl, same, above⟩ := induction later
            exact ⟨head :: early, first, between, rfl, same,
              List.forall_mem_cons.mpr ⟨level, above⟩⟩

/-- When the last row before a page is apart, the rows with the score of the page's
last row begin with this row at the earliest. -/
theorem length_between_le {before front early between : List α} {first last : α}
    (sorted : Descending score (before ++ front ++ [last]))
    (apart : LastApart score before)
    (parted : before ++ front = early ++ first :: between)
    (level : score first = score last) : between.length ≤ front.length := by
  rcases List.append_eq_append_iff.mp parted with
    ⟨gap, -, rfl⟩ | ⟨gap, rfl, within⟩
  · rw [List.length_append, List.length_cons]
    omega
  cases gap with
  | nil =>
      rw [List.nil_append] at within
      rw [← within, List.length_cons]
      omega
  | cons head tail =>
      rw [List.cons_append] at within
      cases within
      rcases List.eq_nil_or_concat tail with rfl | ⟨inner, previous, rfl⟩
      · exact Nat.le_refl _
      · rw [List.concat_eq_append] at sorted apart
        have split : early ++ first :: (inner ++ [previous]) =
            (early ++ first :: inner) ++ [previous] := by simp
        rw [split] at sorted apart
        have different := apart _ previous rfl first (by simp)
        have upper := List.pairwise_append.mp
          (List.pairwise_append.mp (List.pairwise_append.mp sorted).1).1
        have higher := upper.2.2 first (by simp) previous List.mem_cons_self
        have lower := (List.pairwise_append.mp sorted).2.2 previous (by simp) last
          List.mem_cons_self
        rw [← level] at lower
        exact absurd (le_antisymm lower higher) different

theorem mem_take_of_length {between later : List α} {row : α}
    (fits : between.length + 1 ≤ size) :
    row ∈ (between ++ row :: later).take size := by
  obtain ⟨left, enough⟩ : ∃ left, size - between.length = left + 1 :=
    ⟨size - between.length - 1, by omega⟩
  rw [List.take_append, enough, List.take_succ_cons]
  exact List.mem_append_right _ List.mem_cons_self

/-- The page that `rest` begins with. -/
theorem exists_page (positive : 0 < size) {rest : List α} (nonempty : rest ≠ []) :
    ∃ front last later, rest.take size = front ++ [last] ∧
      rest = front ++ last :: later ∧ front.length + 1 ≤ size ∧
      (front.length + 1 = size ∨ later = []) := by
  have bounded := List.length_take_le size rest
  have whole := List.take_append_drop size rest
  have full : (rest.take size).length = size ∨ rest.drop size = [] := by
    rw [List.length_take, List.drop_eq_nil_iff]
    omega
  rcases List.eq_nil_or_concat (rest.take size) with nothing | ⟨front, last, page⟩
  · rcases List.take_eq_nil_iff.mp nothing with zero | empty
    · omega
    · exact absurd empty nonempty
  · rw [List.concat_eq_append] at page
    rw [page] at whole bounded full
    rw [List.length_append, List.length_singleton] at bounded full
    exact ⟨front, last, rest.drop size, page,
      whole.symm.trans (List.append_cons _ _ _).symm, bounded, full⟩

namespace Serves

theorem traverses_from (serves : Serves ask cursorOf score size listing)
    (apart : EndsApart score size listing) (bound : Nat) :
    ∀ before rest cursor, rest.length ≤ bound → listing = before ++ rest →
      ask cursor = some (rest.take size) → size ∣ before.length ∨ rest = [] →
      Traverses ask cursorOf cursor rest := by
  induction bound with
  | zero =>
      intro before rest cursor small split answered _
      obtain rfl := List.eq_nil_of_length_eq_zero (Nat.le_zero.mp small)
      rw [List.take_nil] at answered
      exact .done answered
  | succ bound induction =>
      intro before rest cursor small split answered aligned
      by_cases nonempty : rest = []
      · rw [nonempty, List.take_nil] at answered
        rw [nonempty]
        exact .done answered
      obtain ⟨front, last, later, page, rfl, fits, full⟩ :=
        exists_page serves.positive nonempty
      have start : size ∣ before.length := aligned.resolve_right nonempty
      rw [page] at answered
      rw [List.append_cons]
      have onward : listing = (before ++ front) ++ last :: later := by
        rw [split, List.append_assoc]
      have sorted := serves.sorted
      rw [onward] at sorted
      have alone : LastApart score (before ++ front ++ [last]) := by
        have prefixed : (before ++ front ++ [last]).Sublist
            (before ++ front ++ last :: later) := by simp
        apply lastApart_snoc (sorted.sublist prefixed)
        intro init row shape
        apply apart init row last later
        · rw [onward, shape]
          simp
        · cases full with
          | inr ended => exact .inr ended
          | inl whole =>
              left
              have lengths := congrArg List.length shape
              simp only [List.length_append, List.length_singleton] at lengths
              have total : init.length + 2 = before.length + size := by omega
              rw [total]
              exact Nat.dvd_add start (Nat.dvd_refl size)
      apply Traverses.more answered
      apply induction (before ++ front ++ [last]) later
      · rw [List.length_append, List.length_cons] at small
        omega
      · rw [onward, List.append_cons]
      · rw [serves.next last (by simp [onward]), onward,
          upFrom_of_apart sorted (alone _ last rfl) rfl]
      · cases full with
        | inr ended => exact .inr ended
        | inl whole =>
            left
            have total : (before ++ front ++ [last]).length =
                before.length + size := by
              simp only [List.length_append, List.length_singleton]
              omega
            rw [total]
            exact Nat.dvd_add start (Nat.dvd_refl size)

theorem traverses (serves : Serves ask cursorOf score size listing)
    (apart : EndsApart score size listing) :
    Traverses ask cursorOf none listing :=
  serves.traverses_from apart listing.length [] listing none (Nat.le_refl _)
    rfl serves.first (.inl (Nat.dvd_zero size))

/-- A page that ends at a row whose score other rows before it have is followed by
a page that repeats some of it. -/
theorem lastApart_of_nodup (serves : Serves ask cursorOf score size listing)
    {before front later rest : List α} {last : α}
    (split : listing = before ++ (front ++ last :: later))
    (fits : front.length + 1 ≤ size) (apart : LastApart score before)
    (continued : Traverses ask cursorOf (some (cursorOf last)) rest)
    (once : (front ++ [last] ++ rest).Nodup) :
    LastApart score (before ++ front ++ [last]) := by
  have sorted := serves.sorted
  intro init other shape row member equal
  obtain ⟨rfl, same⟩ := List.append_inj' shape rfl
  cases same
  obtain ⟨early, first, between, parted, level, above⟩ := exists_first member equal
  have onward : listing = early ++ first :: (between ++ last :: later) := by
    rw [split, ← List.append_assoc, parted, List.append_assoc, List.cons_append]
  have prefixed : (before ++ front ++ [last]).Sublist listing := by
    rw [split]
    simp
  have near := length_between_le (sorted.sublist prefixed) apart parted level
  have answered := serves.next last (by simp [split])
  rw [onward] at sorted answered
  rw [upFrom_of_apart sorted (by rwa [level]) level.symm] at answered
  have again := continued.mem_of_answered answered
    (mem_take_of_length (show between.length + 1 ≤ size by omega))
  exact (List.nodup_append.mp once).2.2 last (by simp) last again rfl

theorem apart_from (serves : Serves ask cursorOf score size listing)
    {cursor : Option κ} {total : List α}
    (traverses : Traverses ask cursorOf cursor total) :
    ∀ before rest, listing = before ++ rest → ask cursor = some (rest.take size) →
      size ∣ before.length ∨ rest = [] → LastApart score before → total.Nodup →
      ∀ front first second later, listing = front ++ first :: second :: later →
        before.length ≤ front.length + 1 →
        size ∣ front.length + 2 ∨ later = [] → score first ≠ score second := by
  have positive := serves.positive
  induction traverses with
  | done nothing =>
      intro before rest split answered _ _ _ front first second later shape beyond
      rw [answered] at nothing
      have lengths := congrArg List.length (split.symm.trans shape)
      rcases List.take_eq_nil_iff.mp (Option.some.inj nothing) with zero | rfl
      · omega
      · simp only [List.append_nil, List.length_append, List.length_cons] at lengths
        omega
  | @more cursor page remaining last received continued induction =>
      intro before rest split answered aligned apart once
      rw [received] at answered
      have nonempty : rest ≠ [] := by
        rintro rfl
        simp at answered
      obtain ⟨front, final, later, taken, rfl, fits, full⟩ :=
        exists_page positive nonempty
      have start := aligned.resolve_right nonempty
      rw [taken, Option.some.injEq] at answered
      obtain ⟨rfl, same⟩ := List.append_inj' answered rfl
      cases same
      have alone := serves.lastApart_of_nodup split fits apart continued once
      have onward : listing = (before ++ page) ++ last :: later := by
        rw [split, List.append_assoc]
      have sorted := serves.sorted
      rw [onward] at sorted
      have next := serves.next last (by simp [split])
      rw [onward, upFrom_of_apart sorted (alone _ last rfl) rfl] at next
      have stop : (before ++ page ++ [last]).length =
          before.length + (page.length + 1) := by simp
      have ahead := induction (before ++ page ++ [last]) later
        (by rw [onward, List.append_cons]) next ?_ alone
        (List.nodup_append.mp once).2.1
      · intro init first second after shape beyond ends
        by_cases far : (before ++ page ++ [last]).length ≤ init.length + 1
        · exact ahead init first second after shape far ends
        have within : (init ++ [first]).length = (before ++ page).length := by
          have lengths := congrArg List.length (onward.symm.trans shape)
          simp only [List.length_append, List.length_cons,
            List.length_nil] at lengths far ⊢
          cases ends with
          | inr ended =>
              rw [ended, List.length_nil] at lengths
              omega
          | inl whole =>
              have gap := Nat.dvd_sub whole start
              have filled := Nat.le_of_dvd (by omega) gap
              omega
        have two := onward.symm.trans (shape.trans (List.append_cons _ _ _))
        obtain ⟨same, tails⟩ := List.append_inj two within.symm
        cases tails
        exact alone _ last rfl first (by simp [same])
      · cases full with
        | inr ended => exact .inr ended
        | inl whole =>
            left
            rw [stop, whole]
            exact Nat.dvd_add start (Nat.dvd_refl size)

/-- The pages of a listing show every row once just when each of them ends apart. -/
theorem traverses_iff (serves : Serves ask cursorOf score size listing) :
    (∃ total, Traverses ask cursorOf none total ∧ total.Perm listing) ↔
      EndsApart score size listing := by
  constructor
  · intro shown
    obtain ⟨total, traverses, same⟩ := shown
    have start : LastApart score ([] : List α) := by
      intro front last shape
      simp at shape
    intro front first second later shape
    exact serves.apart_from traverses [] listing rfl serves.first
      (.inl (Nat.dvd_zero size)) start (same.nodup_iff.mpr serves.distinct) front
      first second later shape (Nat.zero_le _)
  · intro apart
    exact ⟨listing, serves.traverses apart, .refl listing⟩

end Serves

end BudBreeding.Data
