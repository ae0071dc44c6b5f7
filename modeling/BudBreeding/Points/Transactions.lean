import Mathlib.Tactic.Linarith
import BudBreeding.Points.Book

namespace BudBreeding.Points

open Data Program Backend

/-! What one deposit or withdrawal leaves in the book and in the event log. -/

section Exact

variable {app : App} {admitted : Oracle → Prop} {db : Db} {body : BreedingPointDto}
  {user : User} {block : Int} {post : Except Failure Response → Db → Prop}

theorem ensures_accepted {valid : Bool} {handler : Handler Response}
    (accepted : valid = true) (handled : (surroundings admitted).Ensures handler post db) :
    (surroundings admitted).Ensures (validated valid handler) post db := by
  subst accepted
  exact (World.returns_throwIf (by decide)).ensures_bind fun _ _ => handled

/-- A deposit is logged first; then the credit succeeds, or it does not. -/
theorem ensures_deposit (accepted : body.valid = true)
    (unhandled : Unhandled app db body.toAdminDtoBase .DEPOSIT_BP)
    (found : db.user.find body.address = some user)
    (logged : LogAccepted db (depositLog .DEPOSIT_BP body user) block)
    (lost : toIntColumn (user.breedingPoint + body.amount / 100) = none →
      post (.ok (.success false))
        (db.createEventServiceLog (depositLog .DEPOSIT_BP body user) block))
    (credited : ∀ column,
      toIntColumn (user.breedingPoint + body.amount / 100) = some column →
      post (.ok (.success true))
        ((db.createEventServiceLog (depositLog .DEPOSIT_BP body user)
          block).setBreedingPoint body.address column)) :
    (surroundings admitted).Ensures (handle app (.addBreedingPoint body)) post db := by
  refine ensures_accepted accepted ?_
  rw [World.ensures_map]
  refine (returns_validateTransaction unhandled).ensures_bind ?_
  intro _ _
  refine (returns_userFindUnique _).ensures_bind ?_
  intro answer same
  rw [same, found, World.ensures_tryCatch]
  apply ensures_eventServiceLogCreate
  · intro rejected
    exact absurd logged (rejected block)
  · intro other taken
    obtain rfl : other = block :=
      Option.some.inj (taken.1.symm.trans logged.1)
    apply ensures_userUpdate
    · intro failed error
      cases failed with
      | inl column => exact World.ensures_pure.mpr (lost column)
      | inr missing => exact absurd (found.symm.trans missing) (Option.some_ne_none _)
    · intro row column present fits
      exact World.ensures_pure.mpr (credited column fits)

theorem ensures_withdrawal (accepted : body.valid = true)
    (unhandled : Unhandled app db body.toAdminDtoBase .WITHDRAW_BP)
    (found : db.user.find body.address = some user)
    (logged : LogAccepted db (depositLog .WITHDRAW_BP body user) block)
    {column : Int}
    (debited : toIntColumn (user.breedingPoint - body.amount / 100) = some column) :
    (surroundings admitted).Ensures (handle app (.withdrawBreedingPoint body))
      (fun response after =>
        response = .ok (.success true) ∧
        after = (db.setBreedingPoint body.address column).createEventServiceLog
          (depositLog .WITHDRAW_BP body user) block) db := by
  refine ensures_accepted accepted ?_
  rw [World.ensures_map]
  refine (returns_validateTransaction unhandled).ensures_bind ?_
  intro _ _
  refine (returns_userFindUnique _).ensures_bind ?_
  intro answer same
  rw [same, found, World.ensures_tryCatch]
  apply ensures_userUpdate
  · intro failed
    cases failed with
    | inl rejected => exact absurd (debited.symm.trans rejected) (Option.some_ne_none _)
    | inr missing => exact absurd (found.symm.trans missing) (Option.some_ne_none _)
  · intro row other present fits
    obtain rfl : other = column := Option.some.inj (fits.symm.trans debited)
    apply ensures_eventServiceLogCreate
    · intro rejected
      exact absurd logged (rejected block)
    · intro number taken
      obtain rfl : number = block := Option.some.inj (taken.1.symm.trans logged.1)
      exact World.ensures_pure.mpr ⟨rfl, rfl⟩

end Exact

section Deposits

variable {app : App} {admitted : Oracle → Prop} {db after : Db}
  {body : BreedingPointDto} {user : User} {response : Except Failure Response}

/-- A deposit that is not credited leaves the book and the log alone, and one that is
logged is credited. -/
structure Lossless (db : Db) (body : BreedingPointDto)
    (response : Except Failure Response) (after : Db) : Prop where
  kept : response ≠ .ok (.success true) →
    book after = book db ∧ after.eventServiceLog = db.eventServiceLog
  credited : ∀ log ∈ after.eventServiceLog.rows, log.txHash = body.txHash →
    log.type = .DEPOSIT_BP →
    ∃ before balance, book db body.address = some before ∧
      book after body.address = some balance ∧
      (balance : Rat) = before + body.amount / 100

theorem lossless_self (fresh : ∀ log ∈ db.eventServiceLog.rows,
    log.txHash ≠ body.txHash) : Lossless db body response db := by
  constructor
  · intro _
    exact ⟨rfl, rfl⟩
  · intro log member same
    exact absurd same (fresh log member)

theorem createEventServiceLog_ne (db : Db) (data : EventServiceLogCreate) (block : Int) :
    (db.createEventServiceLog data block).eventServiceLog ≠ db.eventServiceLog := by
  intro same
  have longer : (db.eventServiceLog.rows ++ [_]).length =
      db.eventServiceLog.rows.length := congrArg (fun table => table.rows.length) same
  rw [List.length_append, List.length_singleton] at longer
  omega

/-- A deposit is lossless just when the new balance fits its column, or nothing is
written at all. -/
theorem deposit_lossless_iff (accepted : body.valid = true)
    (known : db.user.find body.address = some user)
    (fresh : ∀ log ∈ db.eventServiceLog.rows, log.txHash ≠ body.txHash)
    (handled : Handles app admitted db ⟨.addBreedingPoint body, response⟩ after) :
    Lossless db body response after ↔
      (body.network = app.config.network.name → (toIntColumn body.block).isSome →
        (toIntColumn (user.breedingPoint + body.amount / 100)).isSome) := by
  constructor
  · intro lossless network numbered
    obtain ⟨block, column⟩ := Option.isSome_iff_exists.mp numbered
    have unhandled : Unhandled app db body.toAdminDtoBase .DEPOSIT_BP :=
      ⟨network, fun log member handled => fresh log member handled.1⟩
    by_contra unfit
    have rejected := Option.not_isSome_iff_eq_none.mp unfit
    have lost : (surroundings admitted).Ensures (handle app (.addBreedingPoint body))
        (fun response after => response = .ok (.success false) ∧
          after.eventServiceLog ≠ db.eventServiceLog) db := by
      refine ensures_deposit accepted unhandled known ⟨column, fresh⟩ ?_ ?_
      · intro _
        exact ⟨rfl, createEventServiceLog_ne _ _ _⟩
      · intro _ fits
        exact absurd (fits.symm.trans rejected) (Option.some_ne_none _)
    obtain ⟨failed, logged⟩ := lost _ _ handled
    apply logged
    apply (lossless.kept _).2
    intro succeeded
    cases failed.symm.trans succeeded
  · intro fits
    cases outcome_of_handles handled with
    | refused => exact lossless_self fresh
    | nothingInvalidated => exact lossless_self fresh
    | depositRejected => exact lossless_self fresh
    | @depositLogged _ row block unhandled found logged rejected =>
        cases known.symm.trans found
        have some := fits unhandled.network (Option.isSome_of_eq_some logged.1)
        rw [rejected] at some
        cases some
    | @deposited _ row block column valid unhandled found logged credited =>
        cases known.symm.trans found
        constructor
        · intro failed
          exact absurd rfl failed
        · intro log member same type
          have before := book_eq_some.mpr ⟨user, known, rfl⟩
          have present : (db.createEventServiceLog (depositLog .DEPOSIT_BP body user)
              block).user.find body.address = some user := known
          refine ⟨user.breedingPoint, column, before, ?_,
            (toIntColumn_eq_some credited).symm⟩
          exact balance_setBreedingPoint present

def depositOf (amount : Rat) : BreedingPointDto :=
  ⟨⟨"alice", "deposit", 1, "goerli"⟩, amount⟩

def deposited (amount : Rat) : Except Failure Response × Db :=
  (surroundings fun _ => True).run (fun _ => .agreeable "alice" (period 0))
    (handle (liveApp .goerli) (.addBreedingPoint (depositOf amount))) signedUp

theorem handles_deposited (amount : Rat) :
    Handles (liveApp .goerli) (fun _ => True) signedUp
      ⟨.addBreedingPoint (depositOf amount), (deposited amount).1⟩
      (deposited amount).2 :=
  handles_run _ trivial _ _

theorem found_alice :
    signedUp.user.find "alice" = some ⟨"alice", "signed", some 7, 0⟩ := by
  decide +kernel

theorem deposit_lossless_iff_whole :
    Lossless signedUp (depositOf 100000) (deposited 100000).1
      (deposited 100000).2 := by
  apply (deposit_lossless_iff (by decide +kernel) found_alice (by decide +kernel)
    (handles_deposited 100000)).mpr
  decide +kernel

/-- A deposit of one point and a half is logged and not credited. -/
theorem half_point_lost :
    ¬ ∀ (app : App) (admitted : Oracle → Prop) (db after : Db)
        (body : BreedingPointDto) (user : User) (response : Except Failure Response),
      body.valid = true → db.user.find body.address = some user →
        (∀ log ∈ db.eventServiceLog.rows, log.txHash ≠ body.txHash) →
        Handles app admitted db ⟨.addBreedingPoint body, response⟩ after →
        Lossless db body response after := by
  intro lossless
  have same := (lossless _ _ _ _ _ _ _ (by decide +kernel) found_alice
    (by decide +kernel) (handles_deposited 150)).kept (by decide +kernel)
  have logged := congrArg (fun table => table.rows.length) same.2
  exact absurd logged (by decide +kernel)

end Deposits

section Conversions

variable {app : App} {admitted : Oracle → Prop} {db before between after : Db}
  {req : Req} {conversion : ConvertBPDto} {body : BreedingPointDto} {user : User}
  {response : Except Failure Response}

/-- A withdrawal request that redeems a signed amount of hundredths, sent while the
balance of the user, a value of an `INTEGER` column, covers the points. -/
structure Submitted (app : App) (db : Db) (req : Req) (points signed : Rat)
    (user : User) (body : BreedingPointDto) : Prop where
  addressed : body.address = req.user
  filled : body.toAdminDtoBase.valid = true
  network : body.network = app.config.network.name
  block : (toIntColumn body.block).isSome
  fresh : ∀ log ∈ db.eventServiceLog.rows, log.txHash ≠ body.txHash
  carries : body.amount = signed
  found : db.user.find req.user = some user
  covered : points ≤ user.breedingPoint
  bounded : user.breedingPoint ≤ 2147483647

def Redeemed (req : Req) (user : User) (points : Rat)
    (response : Except Failure Response) (after : Db) : Prop :=
  response = .ok (.success true) ∧
    ∃ balance, book after req.user = some balance ∧
      (balance : Rat) = user.breedingPoint - points

theorem signed_of_converted {signature : String} {timestamp : Time} {signed : Rat}
    (converted : Handles app admitted before ⟨.convertBp2High req conversion,
      .ok (.conversion ⟨some signature, timestamp, signed⟩)⟩ between) :
    1 ≤ conversion.amount ∧ signed = conversion.amount * 100 := by
  cases outcome_of_handles converted with
  | converted accepted found covered => exact ⟨of_decide_eq_true accepted, rfl⟩

/-- A signed conversion can be redeemed just when it is a whole number of points, at
most 10000 of them. -/
theorem round_trip_iff {signature : String} {timestamp : Time} {signed : Rat}
    (converted : Handles app admitted before ⟨.convertBp2High req conversion,
      .ok (.conversion ⟨some signature, timestamp, signed⟩)⟩ between)
    (submitted : Submitted app db req conversion.amount signed user body)
    (handled : Handles app admitted db ⟨.withdrawBreedingPoint body, response⟩ after) :
    Redeemed req user conversion.amount response after ↔
      conversion.amount ≤ 10000 ∧ ∃ points : Int, conversion.amount = points := by
  obtain ⟨positive, rfl⟩ := signed_of_converted converted
  have hundredths : body.amount / 100 = conversion.amount := by
    rw [submitted.carries]
    exact mul_div_cancel_right₀ _ (by decide +kernel)
  have found := submitted.found
  rw [← submitted.addressed] at found
  constructor
  · intro redeemed
    obtain ⟨rfl, -⟩ := redeemed
    cases outcome_of_handles handled with
    | @withdrawn _ row block column accepted unhandled present debited logged =>
        cases found.symm.trans present
        constructor
        · have capped := (of_decide_eq_true accepted).2.2
          rw [submitted.carries] at capped
          linarith
        · refine ⟨user.breedingPoint - column, ?_⟩
          have exact := toIntColumn_eq_some debited
          rw [hundredths] at exact
          push_cast
          linarith
  · intro redeemable
    obtain ⟨capped, points, whole⟩ := redeemable
    obtain ⟨block, numbered⟩ := Option.isSome_iff_exists.mp submitted.block
    have accepted : body.valid = true := by
      apply decide_eq_true
      refine ⟨submitted.filled, ?_, ?_⟩
      · rw [submitted.carries]
        linarith
      · rw [submitted.carries]
        linarith
    have unhandled : Unhandled app db body.toAdminDtoBase .WITHDRAW_BP :=
      ⟨submitted.network, fun log member same => submitted.fresh log member same.1⟩
    have covered : points ≤ user.breedingPoint := by
      have enough := submitted.covered
      rw [whole] at enough
      exact_mod_cast enough
    have gained : 1 ≤ points := by
      rw [whole] at positive
      exact_mod_cast positive
    have bounded := submitted.bounded
    have debited : toIntColumn (user.breedingPoint - body.amount / 100) =
        some (user.breedingPoint - points) := by
      rw [hundredths, whole, ← Int.cast_sub]
      apply toIntColumn_intCast
      · omega
      · omega
    obtain ⟨rfl, rfl⟩ := ensures_withdrawal accepted unhandled found
      ⟨numbered, submitted.fresh⟩ debited _ _ handled
    refine ⟨rfl, user.breedingPoint - points, ?_, ?_⟩
    · rw [← submitted.addressed]
      exact balance_setBreedingPoint found
    · rw [whole]
      push_cast
      rfl

def withdrawal : AdminDtoBase :=
  ⟨"alice", "withdrawal", 1, "goerli"⟩

def redemptionOf (signed : Rat) : BreedingPointDto :=
  ⟨withdrawal, signed⟩

def redeeming (signed : Rat) : Except Failure Response × Db :=
  (surroundings fun _ => True).run (fun _ => .agreeable "alice" (period 0))
    (handle (liveApp .goerli) (.withdrawBreedingPoint (redemptionOf signed)))
    (deposited 100000).2

theorem handles_redeeming (signed : Rat) :
    Handles (liveApp .goerli) (fun _ => True) (deposited 100000).2
      ⟨.withdrawBreedingPoint (redemptionOf signed), (redeeming signed).1⟩
      (redeeming signed).2 :=
  handles_run _ trivial _ _

theorem handles_converting {amount signed : Rat}
    (answered : ((surroundings fun _ => True).run
      (fun _ => .agreeable "alice" (period 0))
      (handle (liveApp .goerli) (.convertBp2High alice ⟨amount⟩))
      (deposited 100000).2).1 =
        .ok (.conversion ⟨some "1650000000000", period 0, signed⟩)) :
    ∃ after, Handles (liveApp .goerli) (fun _ => True) (deposited 100000).2
      ⟨.convertBp2High alice ⟨amount⟩,
        .ok (.conversion ⟨some "1650000000000", period 0, signed⟩)⟩ after := by
  rw [← answered]
  exact ⟨_, handles_run _ trivial _ _⟩

theorem submitted_redemptionOf {points : Rat} (signed : Rat) (covered : points ≤ 1000) :
    Submitted (liveApp .goerli) (deposited 100000).2 alice points signed
      ⟨"alice", "signed", some 7, 1000⟩ (redemptionOf signed) where
  addressed := rfl
  filled := (by decide +kernel : withdrawal.valid = true)
  network := rfl
  block := (by decide +kernel : (toIntColumn withdrawal.block).isSome)
  fresh := (by decide +kernel :
    ∀ log ∈ (deposited 100000).2.eventServiceLog.rows, log.txHash ≠ withdrawal.txHash)
  carries := rfl
  found := by decide +kernel
  covered := covered
  bounded := by decide

theorem round_trip_iff_thousand :
    Redeemed alice ⟨"alice", "signed", some 7, 1000⟩ 1000 (redeeming 100000).1
      (redeeming 100000).2 := by
  obtain ⟨after, converted⟩ :=
    @handles_converting 1000 100000 (by decide +kernel)
  exact (round_trip_iff converted (submitted_redemptionOf 100000 (le_refl 1000))
    (handles_redeeming 100000)).mpr ⟨by decide +kernel, 1000, rfl⟩

/-- A conversion of one point and a half is signed, and cannot be redeemed. -/
theorem half_point_signed :
    ¬ ∀ (app : App) (admitted : Oracle → Prop) (db before between after : Db)
        (req : Req) (conversion : ConvertBPDto) (body : BreedingPointDto)
        (user : User) (response : Except Failure Response) (signature : String)
        (timestamp : Time) (signed : Rat),
      Handles app admitted before ⟨.convertBp2High req conversion,
          .ok (.conversion ⟨some signature, timestamp, signed⟩)⟩ between →
        Submitted app db req conversion.amount signed user body →
        Handles app admitted db ⟨.withdrawBreedingPoint body, response⟩ after →
        Redeemed req user conversion.amount response after := by
  intro redeemable
  obtain ⟨after, converted⟩ := @handles_converting (3 / 2) 150 (by decide +kernel)
  have redeemed := redeemable _ _ _ _ _ _ _ _ _ _ _ _ _ _ converted
    (submitted_redemptionOf 150 (by decide +kernel)) (handles_redeeming 150)
  exact absurd redeemed.1 (by decide +kernel)

end Conversions

end BudBreeding.Points
