import BudBreeding.Backend.Views
import BudBreeding.Concurrency.Serial
import BudBreeding.Mediation.Audit
import BudBreeding.Points.Updates

namespace BudBreeding.Mediation

open Data Program Backend Concurrency Points

/-! Every breeding point that a user holds comes from a deposit in the event log. -/

section Deposits

variable {db after : Db} {address : Address}

/-- The points that the deposit history shows for a row of the log. -/
def pointsOf (log : EventServiceLog) : Rat :=
  (StatsService.amountOf log.data).getD 0

def depositsOf (db : Db) (address : Address) : List EventServiceLog :=
  db.eventServiceLog.rows.filter fun log =>
    log.address = address ∧ log.type = .DEPOSIT_BP

def deposited (db : Db) (address : Address) : Rat :=
  ((depositsOf db address).map pointsOf).sum

/-- What the deposit history of a user adds up to. -/
def shownDeposits (oracle : Oracle) (db : Db) (address : Address) : Rat :=
  ((StatsService.getBPDepositHistory oracle db address).map fun deposit =>
    deposit.amount.getD 0).sum

theorem shownDeposits_eq (oracle : Oracle) :
    shownDeposits oracle db address = deposited db address := by
  rw [shownDeposits, StatsService.getBPDepositHistory, List.map_map, deposited]
  exact ((oracle.arrange_perm _).map _).sum_eq

theorem pointsOf_breedingPoint {log : EventServiceLog} {amount : Rat}
    {balance : Int} (data : log.data = .breedingPoint amount balance) :
    pointsOf log = amount / 100 := by
  rw [pointsOf, data, StatsService.amountOf]
  split
  · next zero => exact zero.symm
  · rfl

/-- The logged deposits cover the balances, and at every deposit they covered the
balance that it was added to. -/
structure Backed (db : Db) : Prop where
  positive : ∀ log ∈ db.eventServiceLog.rows, log.type = .DEPOSIT_BP →
    0 ≤ pointsOf log
  credited : ∀ log ∈ db.eventServiceLog.rows, log.type = .DEPOSIT_BP →
    ∀ amount balance, log.data = .breedingPoint amount balance →
      balance + amount / 100 ≤ deposited db log.address
  held : ∀ address balance, book db address = some balance →
    balance ≤ deposited db address

theorem Backed.empty : Backed .empty :=
  ⟨fun _ listed => absurd listed List.not_mem_nil,
    fun _ listed => absurd listed List.not_mem_nil,
    fun _ _ held => by cases held⟩

theorem Backed.deposited_nonneg (backed : Backed db) (address : Address) :
    0 ≤ deposited db address := by
  apply List.sum_nonneg
  intro points member
  obtain ⟨log, selected, rfl⟩ := List.mem_map.mp member
  obtain ⟨listed, deposit⟩ := List.mem_filter.mp selected
  exact backed.positive log listed (of_decide_eq_true deposit).2

/-- The log only grows, and with it what was deposited. -/
theorem deposited_le (kept : db.eventServiceLog.rows ⊆ after.eventServiceLog.rows)
    (positive : ∀ log ∈ after.eventServiceLog.rows, log.type = .DEPOSIT_BP →
      0 ≤ pointsOf log) (address : Address) :
    deposited db address ≤ deposited after address := by
  have persists : Persists Eq db.eventServiceLog.rows after.eventServiceLog.rows :=
    .of_subset (fun _ => rfl) kept
  have distinct : ((depositsOf db address).map EventServiceLog.id).Nodup :=
    List.Nodup.sublist (List.filter_sublist.map EventServiceLog.id)
      db.eventServiceLog.nodup
  refine (persists.filter fun same chosen => same ▸ chosen).sum_le distinct
    (fun same => by rw [same]) (fun same => by rw [same]) ?_
  intro log selected
  obtain ⟨listed, deposit⟩ := List.mem_filter.mp selected
  exact positive log listed (of_decide_eq_true deposit).2

theorem deposited_create {data : EventServiceLogCreate} {block : Int} :
    deposited (db.createEventServiceLog data block) address =
      deposited db address +
        if data.address = address ∧ data.type = .DEPOSIT_BP then
          pointsOf (data.row block db.eventServiceLog.nextId)
        else 0 := by
  refine (sum_filter_concat db.eventServiceLog.rows _).trans ?_
  simp only [decide_eq_true_eq]
  rfl

/-- What a query does to the balances. -/
theorem book_exec {query : Query} {oracle : Oracle} {balance : Int}
    (held : book (exec oracle query db).2 address = some balance) :
    book db address = some balance ∨ balance = 0 ∨
      query = .userUpdate address balance := by
  by_cases written : query.written = some .user
  · cases query with
    | userUpdate account value =>
        simp only [exec] at held
        split at held
        · exact .inl held
        · next column accepted =>
            obtain rfl := toIntColumn_eq_some accepted
            cases found : db.user.find account with
            | none =>
                rw [Db.setBreedingPoint_of_missing found] at held
                exact .inl held
            | some user =>
                by_cases own : address = account
                · rw [own, balance_setBreedingPoint found] at held
                  rw [own, Option.some.inj held]
                  exact .inr (.inr rfl)
                · rw [book_setBreedingPoint found, Book.post,
                    Function.update_of_ne own] at held
                  exact .inl held
    | userUpsert account signature gameKeyId =>
        simp only [exec] at held
        split at held
        · rw [book_find_upsertUser] at held
          split at held
          · next own =>
              cases before : book db account with
              | none =>
                  rw [before] at held
                  exact .inr (.inl (Option.some.inj held).symm)
              | some points =>
                  rw [before] at held
                  rw [own, before]
                  exact .inl held
          · exact .inl held
        · exact .inl held
    | _ => cases written
  · rw [book_congr ((exec_sameBut oracle query db).user written)] at held
    exact .inl held

/-- What a query does to the log. -/
theorem logs_exec (query : Query) (oracle : Oracle) :
    (exec oracle query db).2.eventServiceLog = db.eventServiceLog ∨
      ∃ data block, query = .eventServiceLogCreate data ∧
        (exec oracle query db).2 = db.createEventServiceLog data block := by
  by_cases written : query.written = some .eventServiceLog
  · cases query with
    | eventServiceLogCreate data =>
        simp only [exec]
        split
        · exact .inl rfl
        · next block _ =>
            split
            · exact .inl rfl
            · exact .inr ⟨data, block, rfl, rfl⟩
    | _ => cases written
  · exact .inl ((exec_sameBut oracle query db).eventServiceLog written)

/-- A deposit is logged with the balance it is added to. -/
def LogsBacked (db : Db) (query : Query) : Prop :=
  ∀ data, query = .eventServiceLogCreate data → data.type = .DEPOSIT_BP →
    ∃ amount balance, data.data = .breedingPoint amount balance ∧ 0 ≤ amount ∧
      balance ≤ deposited db data.address

def WritesBacked (db : Db) (query : Query) : Prop :=
  ∀ (address : Address) (balance : Int), query = .userUpdate address balance →
    balance ≤ deposited db address

theorem Backed.create {data : EventServiceLogCreate} {block : Int}
    (backed : Backed db)
    (logs : LogsBacked db (.eventServiceLogCreate data)) :
    Backed (db.createEventServiceLog data block) := by
  have deposit := logs data rfl
  have positive : ∀ log ∈ (db.createEventServiceLog data block).eventServiceLog.rows,
      log.type = .DEPOSIT_BP → 0 ≤ pointsOf log := by
    intro log listed type
    rcases List.mem_append.mp listed with old | new
    · exact backed.positive log old type
    · obtain rfl := List.mem_singleton.mp new
      obtain ⟨amount, balance, logged, gain, -⟩ := deposit type
      rw [pointsOf_breedingPoint logged]
      exact div_nonneg gain (by norm_num)
  have grows := deposited_le (List.subset_append_left _ _) positive
  refine ⟨positive, ?_, fun address balance held =>
    (backed.held address balance held).trans (grows address)⟩
  intro log listed type amount balance logged
  rcases List.mem_append.mp listed with old | new
  · exact (backed.credited log old type amount balance logged).trans
      (grows log.address)
  · obtain rfl := List.mem_singleton.mp new
    obtain ⟨given, base, shown, -, covered⟩ := deposit type
    obtain ⟨rfl, rfl⟩ := EventData.breedingPoint.inj (logged.symm.trans shown)
    rw [deposited_create, if_pos ⟨rfl, type⟩, pointsOf_breedingPoint logged]
    exact add_le_add_left covered _

theorem Backed.step {query : Query} (backed : Backed db)
    (logs : LogsBacked db query) (writes : WritesBacked db query)
    (oracle : Oracle) : Backed (exec oracle query db).2 := by
  rcases logs_exec query oracle with same | ⟨data, block, rfl, made⟩
  · have unmoved : deposited (exec oracle query db).2 = deposited db := by
      funext address
      rw [deposited, depositsOf, same]
      rfl
    constructor
    · rw [same]
      exact backed.positive
    · rw [same, unmoved]
      exact backed.credited
    · intro address balance held
      rw [unmoved]
      rcases book_exec held with before | rfl | update
      · exact backed.held address balance before
      · exact backed.deposited_nonneg address
      · exact writes address balance update
  · rw [made]
    exact backed.create logs

end Deposits

section Interleavings

variable {ι : Type} [DecidableEq ι] {app : App} {admitted : Oracle → Prop}
  {requests : ι → Request} {db : Db} {steps : List (ServerStep ι)}
  {final : Server ι} {thread : ι}

/-- Nothing is paid for by being given points. -/
def Priced (app : App) : Prop :=
  ∀ request address amount, price app request = some (address, amount) →
    0 ≤ amount

theorem priced_liveApp (network : Network) : Priced (liveApp network) := by
  intro request address amount priced
  cases request <;> cases priced <;> simp [liveApp, appConfig]

omit [DecidableEq ι] in
theorem logged_of_created {data : EventServiceLogCreate} {after : Db}
    (oracle : Oracle) (created : exec oracle (.eventServiceLogCreate data) db =
      (.ok (), after)) :
    ∃ block, data.row block db.eventServiceLog.nextId ∈
      after.eventServiceLog.rows := by
  simp only [exec] at created
  split at created
  · cases created
  · next block _ =>
      split at created
      · cases created
      · obtain ⟨-, rfl⟩ := Prod.mk.inj created
        exact ⟨block, List.mem_append_right _ List.mem_cons_self⟩

section Steps

variable (rested : Rested app admitted db)
  (reached : Interleaving app admitted requests db steps final)
  (backed : ∀ server ∈ states (serving app requests db) steps,
    Backed server.store)

include rested reached backed

/-- A balance that was read is covered by the deposits, those to come included. -/
theorem read_le {address : Address} {row : User}
    (found : Knows (asked thread steps) (.userFindUnique address) (some row)) :
    (row.breedingPoint : Rat) ≤ deposited final.store address := by
  obtain ⟨look, looked, -, reader, read⟩ := answered_of_history reached found
  have source := (reached.source_mem_states looked).1
  have stored : look.source.store.user.find address = some row :=
    congrArg Prod.fst read
  have covered := (backed _ source).held address row.breedingPoint
    (book_eq_some.mpr ⟨row, stored, rfl⟩)
  refine covered.trans (deposited_le ?_ ?_ address)
  · exact (evolved_of_steps rested reached look looked).1.eventServiceLog
  · exact (backed _ reached.final_mem_states).positive

theorem logs_backed {query : Query}
    (grounds : Grounded app (requests thread) (asked thread steps) query) :
    LogsBacked final.store query := by
  rintro data rfl deposit
  rcases grounds with ⟨body, type, row, -, positive, -, found, rfl⟩ |
    ⟨body, budId, -, -, rfl⟩
  · exact ⟨body.amount, row.breedingPoint, rfl, zero_le_one.trans positive,
      read_le rested reached backed found⟩
  · cases deposit

theorem writes_backed (priced : Priced app) {query : Query}
    (grounds : Grounded app (requests thread) (asked thread steps) query) :
    WritesBacked final.store query := by
  rintro address balance rfl
  obtain ⟨row, found, ⟨amount, charges, -, value⟩ |
    ⟨body, -, rfl, -, logged, value⟩ | ⟨body, -, rfl, positive, -, value⟩⟩ :=
    grounds
  · have covered := read_le rested reached backed found
    have charge : (0 : Rat) ≤ amount :=
      Int.cast_nonneg (priced _ _ _ charges)
    rw [value]
    exact (sub_le_self _ charge).trans covered
  · -- The deposit was logged with the balance that it is added to.
    obtain ⟨look, looked, -, writer, created⟩ :=
      answered_of_history reached logged
    obtain ⟨block, stored⟩ := logged_of_created writer created
    have kept := (evolved_of_steps rested reached look looked).2.eventServiceLog
      stored
    rw [value]
    exact (backed _ reached.final_mem_states).credited _ kept rfl body.amount
      row.breedingPoint rfl
  · have covered := read_le rested reached backed found
    have withdrawn : (0 : Rat) ≤ body.amount / 100 :=
      div_nonneg (zero_le_one.trans positive) (by norm_num)
    rw [value]
    exact (sub_le_self _ withdrawn).trans covered

end Steps

theorem backed_of_interleaving (rested : Rested app admitted db)
    (priced : Priced app) (start : Backed db)
    (interleaving : Interleaving app admitted requests db steps final) :
    ∀ server ∈ states (serving app requests db) steps, Backed server.store := by
  refine interleaving.forall_states_of_past start ?_
  intro earlier step later split past
  obtain ⟨reached, -, ⟨oracle, made⟩, grounds⟩ :=
    audited_of_interleaving interleaving earlier step later split
  rw [made]
  exact (past _ reached.final_mem_states).step
    (logs_backed rested reached past grounds)
    (writes_backed rested reached past priced grounds) oracle

theorem backed_of_run {exchanges : List (Transition Db Exchange)} {after : Db}
    (rested : Rested app admitted db) (priced : Priced app) (start : Backed db)
    (run : Run app admitted db exchanges after) : Backed after := by
  obtain ⟨calls, final, interleaving, rfl, -⟩ :=
    interleaving_of_run run (.purchaseLand alice)
  exact backed_of_interleaving rested priced start interleaving _
    interleaving.final_mem_states

/-- However the requests are interleaved, no user is ever shown more points than
the deposits in the user's history add up to. -/
theorem points_backed (rested : Rested app admitted db) (priced : Priced app)
    (start : Backed db)
    (interleaving : Interleaving app admitted requests db steps final) :
    ∀ server ∈ states (serving app requests db) steps,
      ∀ (oracle : Oracle) (req : Req) (shown : UserController.UserData),
        UserController.getUser server.store req = .ok shown →
          shown.breedingPoint ≤ shownDeposits oracle server.store req.user := by
  intro server member oracle req shown answered
  have backed := backed_of_interleaving rested priced start interleaving server
    member
  rw [shownDeposits_eq]
  apply backed.held
  rw [UserController.getUser] at answered
  split at answered
  · cases answered
  · next user found =>
      obtain rfl := Except.ok.inj answered
      exact book_eq_some.mpr ⟨user, found, rfl⟩

/-- A charge is overwritten by a deposit, and the deposits still cover the balance. -/
theorem points_backed_rivals :
    ∃ shown, UserController.getUser (interleave (liveApp .goerli) rivalUpdates
        lostSchedule (breedingAfter 2)).2.store alice = .ok shown ∧
      shown.breedingPoint = 1001 ∧
      shown.breedingPoint ≤ shownDeposits (.agreeable "alice" (period 0))
        (interleave (liveApp .goerli) rivalUpdates lostSchedule
          (breedingAfter 2)).2.store "alice" := by
  have answered : ∃ shown, UserController.getUser (interleave (liveApp .goerli)
      rivalUpdates lostSchedule (breedingAfter 2)).2.store alice = .ok shown ∧
        shown.breedingPoint = 1001 := by
    refine ⟨⟨"alice", 1001, some 7⟩, ?_, rfl⟩
    rw [breedingAfter_succ 1]
    decide +kernel
  obtain ⟨shown, found, points⟩ := answered
  have interleaving := interleaving_of_schedule (liveApp .goerli) rivalUpdates
    lostSchedule (breedingAfter 2)
  have run : Run (liveApp .goerli) (fun _ => True) .empty _ (breedingAfter 2) :=
    run_breedingAfter (fun _ => trivial) 2
  have backed := backed_of_run .empty (priced_liveApp .goerli) .empty run
  refine ⟨shown, found, points, ?_⟩
  exact points_backed (rested_breedingAfter 2) (priced_liveApp .goerli) backed
    interleaving _ interleaving.final_mem_states (.agreeable "alice" (period 0))
    alice shown found

end Interleavings

end BudBreeding.Mediation
