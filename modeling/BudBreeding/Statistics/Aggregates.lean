import BudBreeding.Backend.Runs
import BudBreeding.Statistics.Filling

namespace BudBreeding.Statistics

open Data Backend Program

/-! A snapshot leaves the full outer join of seven aggregates over the base tables. -/

/-- What a query yields for one address, or nothing without a group for it. -/
def perAddress {α : Type} (address : α → Address) (value : List α → Rat)
    (rows : List α) (user : Address) : Option Rat :=
  if user ∈ rows.map address then
    some (value (rows.filter fun row => address row = user))
  else none

def aggregate (db : Db) : Column → Address → Option Rat
  | .totalSuccess, user =>
      perAddress BreedPair.userAddress (fun pairs => pairs.length)
        (db.breedPair.rows.filter fun pair => pair.status = .COMPLETED) user
  | .totalFailure, user =>
      perAddress BreedPair.userAddress (fun pairs => pairs.length)
        (db.breedPair.rows.filter fun pair =>
          pair.status = .FAILED ∧ pair.currentLevel = 5) user
  | .totalCancels, user =>
      perAddress BreedPair.userAddress (fun pairs => pairs.length)
        (db.breedPair.rows.filter fun pair => pair.status = .CANCELED) user
  | .totalHours, user =>
      perAddress BreedPair.userAddress
        (fun pairs => (pairs.map fun pair =>
          pair.currentLevel * hoursPerLevel pair * itemRate pair).sum)
        db.breedPair.rows user
  | .bpForBreeding, user =>
      perAddress BreedPair.userAddress
        (fun pairs => (pairs.map fun pair => (pair.currentLevel * 15 : Rat)).sum)
        db.breedPair.rows user
  | .bpForLandUpgrade, user =>
      perAddress BreedSlot.userAddress (fun slots => slots.length * 69)
        (db.breedSlot.rows.filter fun slot => slot.type = .INDOOR) user
  | .burnedBuds, user =>
      perAddress EventServiceLog.address (fun logs => logs.length * 2)
        (db.eventServiceLog.rows.filter fun log => log.type = .BURN_GEN0) user

def addresses (db : Db) : List Address :=
  db.breedPair.rows.map BreedPair.userAddress ++
    ((db.breedSlot.rows.filter fun slot => slot.type = .INDOOR).map
      BreedSlot.userAddress ++
    (db.eventServiceLog.rows.filter fun log => log.type = .BURN_GEN0).map
      EventServiceLog.address)

/-- Everything a snapshot computes and stores is in the range of its type. -/
structure Storable (db : Db) : Prop where
  short : ∀ user ∈ addresses db, user.length ≤ 42
  products : ∀ pair ∈ db.breedPair.rows,
    (bpSpent pair).isSome ∧ (hoursSpent pair).isSome
  totals : ∀ user ∈ addresses db, ∀ column ∈ Column.all,
    ∀ total ∈ aggregate db column user, (toInteger total).isSome

/-- An aggregate as a column of type `INTEGER` holds it. -/
def stored (db : Db) (column : Column) (user : Address) : Option Int :=
  (aggregate db column user).map roundNumeric

section Group

variable {α : Type} {rows : List α} {address : α → Address}
  {expression : List α → Option Rat} {value : List α → Rat}

theorem perAddress_group {group : Address × List α}
    (grouped : group ∈ groups address rows) :
    perAddress address value rows group.1 = some (value group.2) := by
  obtain ⟨present, selected⟩ := mem_groups.mp grouped
  rw [perAddress, if_pos present, selected]

theorem perAddress_ne_none {user : Address} :
    perAddress address value rows user ≠ none ↔ user ∈ rows.map address := by
  unfold perAddress
  split
  · next present => simp only [ne_eq, reduceCtorEq, not_false_iff, present]
  · next absent => simp only [ne_eq, not_true, absent]

theorem integer_eq_some {number : Int} (fits : (integer number).isSome) :
    integer number = some number := by
  unfold integer at fits ⊢
  split at fits
  · next range => exact if_pos range
  · cases fits

theorem toInteger_eq_some {total : Rat} (fits : (toInteger total).isSome) :
    toInteger total = some (roundNumeric total) :=
  integer_eq_some fits

/-- What a query proposes when nothing leaves the range of its type. -/
theorem proposedRow_eq {user : Address} {total : Rat} (short : user.length ≤ 42)
    (fits : (toInteger total).isSome) :
    proposedRow (user, some total) = some (user, roundNumeric total) := by
  rw [proposedRow, toVarChar, if_pos short, Option.bind_some,
    toInteger_eq_some fits]
  rfl

theorem isSome_of_proposedRow {user : Address} {result : Option Rat}
    (proposed : (proposedRow (user, result)).isSome) :
    ∃ total, result = some total ∧ (toInteger total).isSome := by
  obtain ⟨row, given⟩ := Option.isSome_iff_exists.mp proposed
  obtain ⟨text, -, rest⟩ := Option.bind_eq_some_iff.mp given
  obtain ⟨stored, evaluated, -⟩ := Option.bind_eq_some_iff.mp rest
  obtain ⟨total, same, fits⟩ := Option.bind_eq_some_iff.mp evaluated
  exact ⟨total, same, Option.isSome_of_eq_some fits⟩

theorem stored_of_proposed {db : Db} {column : Column}
    (selects : selection db column = groupBy address expression rows)
    (proposed : ∀ group ∈ groups address rows,
      proposedRow (group.1, expression group.2) =
        some (group.1, roundNumeric (value group.2))) :
    Acceptable db column ∧ ∀ user,
      valueOf db column user = (perAddress address value rows user).map roundNumeric := by
  have entries : entriesOf db column =
      (groups address rows).map fun group =>
        (group.1, roundNumeric (value group.2)) := by
    rw [entriesOf, selects, groupBy, List.filterMap_map, ← List.filterMap_eq_map]
    exact List.filterMap_congr proposed
  have acceptable : Acceptable db column := by
    constructor
    · rw [selects, groupBy]
      intro row member
      obtain ⟨group, grouped, rfl⟩ := List.mem_map.mp member
      rw [proposed group grouped]
      rfl
    · rw [entries, List.map_map]
      exact nodup_groups address rows
  refine ⟨acceptable, ?_⟩
  intro user
  apply Option.ext
  intro total
  rw [← mem_entriesOf acceptable (user, total), entries, List.mem_map]
  constructor
  · intro member
    obtain ⟨group, grouped, same⟩ := member
    cases same
    rw [perAddress_group grouped]
    rfl
  · intro rounded
    obtain ⟨exact, shown, same⟩ := Option.map_eq_some_iff.mp rounded
    unfold perAddress at shown
    split at shown
    · next present =>
        cases shown
        exact ⟨(user, rows.filter fun row => address row = user),
          mem_groups.mpr ⟨present, rfl⟩, Prod.ext rfl same⟩
    · cases shown

end Group

section Sums

theorem sum_eq_some {α : Type} {rows : List α} {expression : α → Option Rat}
    {value : α → Rat} (each : ∀ row ∈ rows, expression row = some (value row)) :
    sum expression rows = some (rows.map value).sum := by
  rw [sum, mapM_eq_some_map each]
  rfl

theorem sum_eq_of_isSome {α : Type} {rows : List α} {expression : α → Option Rat}
    {value : α → Rat}
    (each : ∀ row, (expression row).isSome → expression row = some (value row))
    (computed : (sum expression rows).isSome) :
    sum expression rows = some (rows.map value).sum := by
  rw [sum, Option.isSome_map] at computed
  obtain ⟨values, evaluated⟩ := Option.isSome_iff_exists.mp computed
  apply sum_eq_some
  intro row member
  exact each row (isSome_of_mapM evaluated row member)

theorem isSome_sum {α : Type} {rows : List α} {expression : α → Option Rat}
    (each : ∀ row ∈ rows, (expression row).isSome) : (sum expression rows).isSome := by
  rw [sum, mapM_eq_filterMap each]
  rfl

theorem bpSpent_eq (pair : BreedPair) (fits : (bpSpent pair).isSome) :
    bpSpent pair = some (pair.currentLevel * 15 : Rat) := by
  rw [bpSpent, Option.isSome_map] at fits
  rw [bpSpent, integer_eq_some fits, Option.map_some]
  push_cast
  rfl

theorem hoursSpent_eq (pair : BreedPair) (fits : (hoursSpent pair).isSome) :
    hoursSpent pair =
      some (pair.currentLevel * hoursPerLevel pair * itemRate pair : Rat) := by
  rw [hoursSpent, Option.isSome_map] at fits
  rw [hoursSpent, integer_eq_some fits, Option.map_some]
  push_cast
  rfl

theorem mem_of_group {α : Type} {rows : List α} {address : α → Address}
    {group : Address × List α} (grouped : group ∈ groups address rows)
    {row : α} (member : row ∈ group.2) : row ∈ rows := by
  rw [(mem_groups.mp grouped).2] at member
  exact (List.mem_filter.mp member).1

end Sums

/-- The query of a column, next to the aggregate that it computes. -/
structure Computes (db : Db) (column : Column) {α : Type} (rows : List α)
    (address : α → Address) (expression : List α → Option Rat)
    (value : List α → Rat) : Prop where
  selects : selection db column = groupBy address expression rows
  aggregates : ∀ user, aggregate db column user = perAddress address value rows user
  sound : ∀ group, (expression group).isSome → expression group = some (value group)
  total : (∀ pair ∈ db.breedPair.rows, (bpSpent pair).isSome ∧ (hoursSpent pair).isSome) →
    ∀ group ∈ groups address rows, (expression group.2).isSome

theorem exists_computes (db : Db) (column : Column) :
    ∃ (α : Type) (rows : List α) (address : α → Address)
      (expression : List α → Option Rat) (value : List α → Rat),
      Computes db column rows address expression value := by
  cases column with
  | totalSuccess =>
      exact ⟨BreedPair, _, _, _, fun pairs => pairs.length, rfl, fun _ => rfl,
        fun _ _ => rfl, fun _ _ _ => rfl⟩
  | totalFailure =>
      exact ⟨BreedPair, _, _, _, fun pairs => pairs.length, rfl, fun _ => rfl,
        fun _ _ => rfl, fun _ _ _ => rfl⟩
  | totalCancels =>
      exact ⟨BreedPair, _, _, _, fun pairs => pairs.length, rfl, fun _ => rfl,
        fun _ _ => rfl, fun _ _ _ => rfl⟩
  | totalHours =>
      refine ⟨BreedPair, _, _, _, fun pairs => (pairs.map fun pair =>
        (pair.currentLevel * hoursPerLevel pair * itemRate pair : Rat)).sum, rfl,
        fun _ => rfl, fun _ => sum_eq_of_isSome hoursSpent_eq, ?_⟩
      intro products group grouped
      apply isSome_sum
      intro pair member
      exact (products pair (mem_of_group grouped member)).2
  | bpForBreeding =>
      refine ⟨BreedPair, _, _, _, fun pairs => (pairs.map fun pair =>
        (pair.currentLevel * 15 : Rat)).sum, rfl,
        fun _ => rfl, fun _ => sum_eq_of_isSome bpSpent_eq, ?_⟩
      intro products group grouped
      apply isSome_sum
      intro pair member
      exact (products pair (mem_of_group grouped member)).1
  | bpForLandUpgrade =>
      exact ⟨BreedSlot, _, _, _, fun slots => slots.length * 69, rfl, fun _ => rfl,
        fun _ _ => rfl, fun _ _ _ => rfl⟩
  | burnedBuds =>
      exact ⟨EventServiceLog, _, _, _, fun logs => logs.length * 2, rfl, fun _ => rfl,
        fun _ _ => rfl, fun _ _ _ => rfl⟩

section Storable

variable {db : Db} {column : Column}

theorem mem_addresses {user : Address} :
    user ∈ addresses db ↔ ∃ column, aggregate db column user ≠ none := by
  rw [addresses, List.mem_append, List.mem_append]
  constructor
  · intro occurs
    rcases occurs with pair | slot | log
    · refine ⟨.bpForBreeding, ?_⟩
      rw [aggregate, perAddress_ne_none]
      exact pair
    · refine ⟨.bpForLandUpgrade, ?_⟩
      rw [aggregate, perAddress_ne_none]
      exact slot
    · refine ⟨.burnedBuds, ?_⟩
      rw [aggregate, perAddress_ne_none]
      exact log
  · intro grouped
    obtain ⟨column, some⟩ := grouped
    have filtered {select : BreedPair → Bool}
        (member : user ∈ (db.breedPair.rows.filter select).map BreedPair.userAddress) :
        user ∈ db.breedPair.rows.map BreedPair.userAddress :=
      (List.filter_sublist.map BreedPair.userAddress).subset member
    cases column with
    | bpForLandUpgrade =>
        rw [aggregate, perAddress_ne_none] at some
        exact .inr (.inl some)
    | burnedBuds =>
        rw [aggregate, perAddress_ne_none] at some
        exact .inr (.inr some)
    | totalHours =>
        rw [aggregate, perAddress_ne_none] at some
        exact .inl some
    | bpForBreeding =>
        rw [aggregate, perAddress_ne_none] at some
        exact .inl some
    | _ =>
        rw [aggregate, perAddress_ne_none] at some
        exact .inl (filtered some)

theorem occurs_of_group {α : Type} {rows : List α} {address : α → Address}
    {expression : List α → Option Rat} {value : List α → Rat}
    (computes : Computes db column rows address expression value)
    {group : Address × List α} (grouped : group ∈ groups address rows) :
    group.1 ∈ addresses db ∧ aggregate db column group.1 = some (value group.2) := by
  have shown : aggregate db column group.1 = some (value group.2) := by
    rw [computes.aggregates, perAddress_group grouped]
  refine ⟨mem_addresses.mpr ⟨column, ?_⟩, shown⟩
  rw [shown]
  exact Option.some_ne_none _

theorem stored_of_storable (storable : Storable db) (column : Column) :
    Acceptable db column ∧ ∀ user, valueOf db column user = stored db column user := by
  obtain ⟨α, rows, address, expression, value, computes⟩ := exists_computes db column
  simp only [stored, computes.aggregates]
  apply stored_of_proposed computes.selects
  intro group grouped
  obtain ⟨occurs, shown⟩ := occurs_of_group computes grouped
  rw [computes.sound group.2 (computes.total storable.products group grouped)]
  exact proposedRow_eq (storable.short group.1 occurs)
    (storable.totals group.1 occurs column column.mem_all _ shown)

theorem valueOf_of_acceptable
    (short : ∀ user, aggregate db column user ≠ none → user.length ≤ 42)
    (acceptable : Acceptable db column) (user : Address) :
    valueOf db column user = stored db column user := by
  obtain ⟨α, rows, address, expression, value, computes⟩ := exists_computes db column
  simp only [stored, computes.aggregates]
  revert user
  apply (stored_of_proposed computes.selects _).2
  intro group grouped
  have listed : (group.1, expression group.2) ∈ selection db column := by
    rw [computes.selects, groupBy]
    exact List.mem_map.mpr ⟨group, grouped, rfl⟩
  obtain ⟨total, evaluated, fits⟩ := isSome_of_proposedRow (acceptable.casts _ listed)
  have exact := computes.sound group.2 (Option.isSome_of_eq_some evaluated)
  rw [evaluated] at exact
  cases exact
  have occurs := (occurs_of_group computes grouped).2
  rw [evaluated]
  apply proposedRow_eq (short group.1 _) fits
  rw [occurs]
  exact Option.some_ne_none _

theorem acceptable_of_storable (storable : Storable db) (columns : List Column) :
    ∀ column ∈ columns, Acceptable db column := by
  intro column member
  exact (stored_of_storable storable column).1

theorem outerJoin_valueOf (storable : Storable db) (columns : List Column) :
    Sheet.outerJoin columns (valueOf db) = Sheet.outerJoin columns (stored db) := by
  have same : valueOf db = stored db := by
    funext column user
    exact (stored_of_storable storable column).2 user
  rw [same]

theorem outerJoin_stored_eq_none {user : Address} :
    Sheet.outerJoin Column.all (stored db) user = none ↔ user ∉ addresses db := by
  unfold Sheet.outerJoin
  split
  · next empty =>
      apply iff_of_true rfl
      intro occurs
      obtain ⟨column, grouped⟩ := mem_addresses.mp occurs
      exact grouped (Option.map_eq_none_iff.mp (empty column column.mem_all))
  · next filled =>
      apply iff_of_false (Option.some_ne_none _)
      intro absent
      apply filled
      intro column member
      apply Option.map_eq_none_iff.mpr
      by_contra grouped
      exact absent (mem_addresses.mpr ⟨column, grouped⟩)

theorem get_of_outerJoin {values : Column → Address → Option Int} {table : StatsTable}
    (shown : sheet table = Sheet.outerJoin Column.all values) {row : Stats}
    (member : row ∈ table.rows) (column : Column) :
    row.get column = values column row.address := by
  have found : sheet table row.address = some row.get := by
    rw [sheet_apply, Unique.lookup_eq_some.mpr ⟨member, rfl⟩]
    rfl
  rw [shown, Sheet.outerJoin] at found
  split at found
  · cases found
  · rw [← Option.some.inj found]
    exact if_pos column.mem_all

/-- What a column shows for a user, with 0 for `NULL`. -/
def shown (table : StatsTable) (column : Column) (user : Address) : Int :=
  ((sheet table user).bind fun row => row column).getD 0

theorem shown_of_run
    (short : ∀ user, aggregate db column user ≠ none → user.length ≤ 42)
    {stats table : StatsTable}
    (ran : (statistics db).Runs snapshotBreeding stats (.ok ()) table)
    (user : Address) :
    shown table column user = (stored db column user).getD 0 := by
  rw [snapshotBreeding_eq] at ran
  obtain ⟨succeeds, joined⟩ := ensures_truncated_snapshots Column.nodup_all _ _ ran
  have accepted := succeeds.mp rfl
  rw [filled_eq_self accepted] at joined
  rw [shown, joined, Sheet.bind_outerJoin column.mem_all,
    valueOf_of_acceptable short (accepted column column.mem_all)]

theorem roundNumeric_intCast (value : Int) : roundNumeric value = value := by
  have half : (1 / 2 : Rat).floor = 0 := by decide +kernel
  have floor (other : Int) : (other + 1 / 2 : Rat).floor = other := by
    change ⌊(other + 1 / 2 : Rat)⌋ = other
    rw [Int.floor_intCast_add]
    change other + (1 / 2 : Rat).floor = other
    rw [half, add_zero]
  unfold roundNumeric
  split
  · have negated := floor (-value)
    rw [Int.cast_neg] at negated
    rw [negated, neg_neg]
  · exact floor value

/-- An aggregate of whole numbers is stored as it is, and shown as 0 where there is no
group. -/
theorem getD_perAddress {α : Type} {rows : List α} {address : α → Address}
    {value : List α → Rat} (whole : List α → Int)
    (cast : ∀ group, value group = whole group) (none : whole [] = 0)
    (user : Address) :
    ((perAddress address value rows user).map roundNumeric).getD 0 =
      whole (rows.filter fun row => address row = user) := by
  unfold perAddress
  split
  · rw [Option.map_some, Option.getD_some, cast, roundNumeric_intCast]
  · next absent =>
      have empty : (rows.filter fun row => address row = user) = [] := by
        apply List.filter_eq_nil_iff.mpr
        intro row member same
        exact absent (List.mem_map.mpr ⟨row, member, of_decide_eq_true same⟩)
      rw [Option.map_none, Option.getD_none, empty, none]

/-- A snapshot that runs alone leaves one row for each address, and in it the
aggregates, whatever the order of its statements. -/
theorem snapshot_determined (storable : Storable db) (stats : StatsTable) :
    (statistics db).Ensures snapshotBreeding
      (fun result table =>
        result = .ok () ∧
        (∀ address, table.rows.countP (fun row => row.address = address) =
          if address ∈ addresses db then 1 else 0) ∧
        ∀ row ∈ table.rows, ∀ column,
          row.get column = stored db column row.address) stats ∧
    ∀ order : List Column, order.Perm Column.all → ∀ result table,
      (statistics db).Runs snapshotBreeding stats result table →
      (statistics db).Ensures (execute .truncate >>= fun _ => snapshots order)
        (fun result other =>
          result = .ok () ∧
          (other.rows.map fun row => (row.address, row.get)).Perm
            (table.rows.map fun row => (row.address, row.get))) stats := by
  have joined (order : List Column) (same : order.Perm Column.all) :
      (statistics db).Ensures (execute .truncate >>= fun _ => snapshots order)
        (fun result table => result = .ok () ∧
          sheet table = Sheet.outerJoin Column.all (stored db)) stats := by
    have accepted := acceptable_of_storable storable order
    have ensures := @ensures_truncated_snapshots db order stats
      (same.nodup_iff.mpr Column.nodup_all)
    rw [filled_eq_self accepted, outerJoin_valueOf storable,
      Sheet.outerJoin_congr fun _ => same.mem_iff] at ensures
    refine ensures.mono ?_
    intro result table reached
    exact ⟨reached.1.mpr accepted, reached.2⟩
  have first := joined Column.all (List.Perm.refl _)
  rw [← snapshotBreeding_eq] at first
  constructor
  · refine first.mono ?_
    intro result table reached
    obtain ⟨ended, shown⟩ := reached
    refine ⟨ended, ?_, fun row => get_of_outerJoin shown⟩
    intro address
    have occurs : table.lookup address = none ↔ address ∉ addresses db := by
      rw [← outerJoin_stored_eq_none, ← shown, sheet_apply, Option.map_eq_none_iff]
    rw [Unique.countP_key]
    simp only [occurs, ite_not]
  · intro order same result table ran
    obtain ⟨-, shown⟩ := first result table ran
    refine (joined order same).mono ?_
    intro ended other reached
    refine ⟨reached.1, Unique.perm_of_lookup ?_⟩
    intro address
    rw [← sheet_apply, ← sheet_apply, reached.2, shown]

end Storable

section Farm

def reached (level : Int) (item : Option Int) : BreedPair where
  id := 1
  maleBudId := 1
  femaleBudId := 2
  rate := 10
  createdAt := 1660000000000
  userAddress := "alice"
  currentLevel := level
  status := .PAIRED
  slotId := 1
  gameKeyId := 7
  gameItemId := item

/-- A farm of one pair, in an indoor slot, and a burn that is logged under
`address`. -/
def farm (level : Int) (item : Option Int) (address : Address) : Db where
  user := .empty
  breedPair := ⟨⟨[reached level item], List.nodup_singleton 1⟩, 2,
    List.forall_mem_singleton.mpr (by decide : (1 : Int) < 2)⟩
  breedLevel := .empty
  breedBud := .empty
  breedSlot :=
    ⟨⟨[⟨1, true, true, .INDOOR, some 7, none, "alice", none⟩],
      List.nodup_singleton 1⟩, 2,
      List.forall_mem_singleton.mpr (by decide : (1 : Int) < 2)⟩
  eventServiceLog :=
    ⟨⟨[⟨1, address, "burn", 1, .BURN_GEN0, .burn 3 4 none⟩],
      List.nodup_singleton 1⟩, 2,
      List.forall_mem_singleton.mpr (by decide : (1 : Int) < 2)⟩
  gen1Bud := .empty

theorem snapshot_determined_farm :
    (statistics (farm 3 none "bob")).Ensures snapshotBreeding
      (fun result table =>
        result = .ok () ∧
        (∀ address, table.rows.countP (fun row => row.address = address) =
          if address ∈ addresses (farm 3 none "bob") then 1 else 0) ∧
        ∀ row ∈ table.rows, ∀ column,
          row.get column = stored (farm 3 none "bob") column row.address) .empty :=
  (snapshot_determined ⟨by decide +kernel, by decide +kernel, by decide +kernel⟩
    .empty).1

def snapshotOf (db : Db) : Except Unit Unit × StatsTable :=
  (statistics db).run (fun _ => .agreeable "alice" 0) snapshotBreeding .empty

theorem runs_snapshotOf (db : Db) :
    (statistics db).Runs snapshotBreeding .empty (snapshotOf db).1 (snapshotOf db).2 :=
  World.runs_run (fun _ _ => trivial) snapshotBreeding Unique.empty

/-- The 19.2 hours that a level takes with the third item are stored as 19, and a
product, a sum or an address that its type does not hold stops the snapshot. -/
theorem hours_rounded :
    (¬ (statistics (farm 1 (some 3) "bob")).Ensures snapshotBreeding
      (fun _ table => ∀ row ∈ table.rows, ∀ column,
        (row.get column).map (fun value : Int => (value : Rat)) =
          aggregate (farm 1 (some 3) "bob") column row.address) .empty) ∧
    (¬ (statistics (farm 200000000 none "bob")).Ensures snapshotBreeding
      (fun result _ => result = .ok ()) .empty) ∧
    ¬ (statistics (farm 1 none
        "0123456789012345678901234567890123456789012")).Ensures snapshotBreeding
      (fun result _ => result = .ok ()) .empty := by
  refine ⟨?_, ?_, ?_⟩
  · intro ensures
    have stored := ensures _ _ (runs_snapshotOf _)
    have rounded : ∃ row ∈ (snapshotOf (farm 1 (some 3) "bob")).2.rows,
        (row.get .totalHours).map (fun value : Int => (value : Rat)) ≠
          aggregate (farm 1 (some 3) "bob") .totalHours row.address := by
      decide +kernel
    obtain ⟨row, member, different⟩ := rounded
    exact different (stored row member .totalHours)
  · intro ensures
    have ended := ensures _ _ (runs_snapshotOf _)
    have failed : (snapshotOf (farm 200000000 none "bob")).1 = .error () := by
      decide +kernel
    rw [failed] at ended
    cases ended
  · intro ensures
    have ended := ensures _ _ (runs_snapshotOf _)
    have failed : (snapshotOf (farm 1 none
        "0123456789012345678901234567890123456789012")).1 = .error () := by
      decide +kernel
    rw [failed] at ended
    cases ended

end Farm

end BudBreeding.Statistics
