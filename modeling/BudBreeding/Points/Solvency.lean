import BudBreeding.Points.Book

namespace BudBreeding.Points

open Data Program Backend

/-! Whether breeding points can be spent twice. -/

def Solvent (db : Db) : Prop :=
  ∀ user ∈ db.user.rows, 0 ≤ user.breedingPoint

instance (db : Db) : Decidable (Solvent db) :=
  inferInstanceAs (Decidable (∀ user ∈ db.user.rows, 0 ≤ user.breedingPoint))

theorem solvent_iff_book {db : Db} : Solvent db ↔ (book db).Solvent := by
  constructor
  · intro solvent account balance held
    obtain ⟨user, found, same⟩ := book_eq_some.mp held
    rw [← same]
    exact solvent user (Table.find_eq_some.mp found).1
  · intro solvent user member
    exact solvent user.address user.breedingPoint (book_eq_some.mpr
      ⟨user, Table.find_eq_some.mpr ⟨member, rfl⟩, rfl⟩)

/-- A withdrawal that is carried out although the balance does not cover it:
`withdrawBreedingPoint` only logs that. -/
def Overdraws (app : App) (db : Db) : Request → Prop
  | .withdrawBreedingPoint body =>
      body.valid = true ∧
        Unhandled app db body.toAdminDtoBase .WITHDRAW_BP ∧
        ∃ user column, db.user.find body.address = some user ∧
          (user.breedingPoint : Rat) < body.amount / 100 ∧
          toIntColumn (user.breedingPoint - body.amount / 100) = some column
  | _ => False

section Steps

variable {app : App} {admitted : Oracle → Prop} {db after : Db}

private theorem amount_pos {body : BreedingPointDto}
    (accepted : body.valid = true) : 0 ≤ body.amount / 100 := by
  have bound : 1 ≤ body.amount := (decide_eq_true_iff.mp accepted).2.1
  apply div_nonneg
  · exact le_trans zero_le_one bound
  · norm_num

private theorem step_withdraw {body : BreedingPointDto} {user : User}
    {column : Int} (accepted : body.valid = true)
    (unhandled : Unhandled app db body.toAdminDtoBase .WITHDRAW_BP)
    (found : db.user.find body.address = some user)
    (debited : toIntColumn (user.breedingPoint - body.amount / 100) =
      some column)
    (covered : ¬ Overdraws app db (.withdrawBreedingPoint body)) :
    Book.Step (book db) (book (db.setBreedingPoint body.address column)) := by
  rw [book_setBreedingPoint found]
  have moved : column - user.breedingPoint = -(user.breedingPoint - column) := by
    omega
  rw [moved]
  apply Book.Step.spend
  intro balance held
  obtain ⟨other, present, same⟩ := book_eq_some.mp held
  rw [found] at present
  cases present
  have enough : body.amount / 100 ≤ (user.breedingPoint : Rat) := by
    by_contra short
    exact covered ⟨accepted, unhandled, user, column, found, not_le.mp short,
      debited⟩
  have value : (user.breedingPoint : Rat) - body.amount / 100 = column :=
    toIntColumn_eq_some debited
  have positive : (0 : Rat) ≤ column := by
    rw [← value]
    exact sub_nonneg.mpr enough
  have bound : 0 ≤ column := by exact_mod_cast positive
  omega

private theorem step_deposit {body : BreedingPointDto} {user : User}
    {column : Int} (accepted : body.valid = true)
    (found : db.user.find body.address = some user)
    (credited : toIntColumn (user.breedingPoint + body.amount / 100) =
      some column) :
    Book.Step (book db) (book (db.setBreedingPoint body.address column)) := by
  rw [book_setBreedingPoint found]
  apply Book.Step.credit
  have value : (user.breedingPoint : Rat) + body.amount / 100 = column :=
    toIntColumn_eq_some credited
  have grown : (user.breedingPoint : Rat) ≤ column := by
    rw [← value]
    exact le_add_of_nonneg_right (amount_pos accepted)
  have bound : user.breedingPoint ≤ column := by exact_mod_cast grown
  omega

/-- Handling a request that does not overdraw is a step of the book. -/
theorem step_of_outcome {request : Request}
    {response : Except Failure Response}
    (outcome : Outcome app admitted db request response after)
    (covered : ¬ Overdraws app db request) :
    Book.Step (book db) (book after) := by
  have unmoved {name : Option TableName} {middle last : Db}
      (same : Db.SameBut name middle last) (other : name ≠ some .user)
      (step : Book.Step (book db) (book middle)) :
      Book.Step (book db) (book last) := by
    rw [book_congr (same.user other)]
    exact step
  cases outcome with
  | @loggedIn body =>
      have same := book_congr ((db.sameBut_addSlots
        (LandService.freeLandSlot body.address body.gameKeyId)
        (LandService.newSlots body.address (some body.gameKeyId)
          none)).user (by decide))
      rw [← same]
      exact book_upsertUser _ _ _
  | slotOpened listed own closed charged =>
      have stepped := book_paid charged
      exact stepped
  | slotConverted listed own outdoor charged =>
      have stepped := book_paid charged
      exact stepped
  | landPurchased charged =>
      exact unmoved (Db.sameBut_addSlots _ _ _) (by decide) (book_paid charged)
  | levelCharged granted charged => exact book_paid charged
  | levelEvaluated granted charged evaluable taken samePair sameLevel =>
      have stepped := book_paid charged
      exact stepped
  | leveledUp granted charged evaluable started =>
      have stepped := book_paid charged
      rw [book_congr started.user]
      exact stepped
  | pairRejected granted =>
      exact unmoved (Db.sameBut_upgradeSlot _ _ _) (by decide) .idle
  | @levelClashed _ body slot =>
      have stepped := unmoved (db.sameBut_upgradeSlot body slot) (by decide)
        .idle
      exact stepped
  | @pairCreated _ body slot _ _ _ _ granted started =>
      have stepped := unmoved (db.sameBut_upgradeSlot body slot) (by decide)
        .idle
      rw [book_congr started.user]
      exact stepped
  | finalizeUnsigned granted next =>
      have stepped := unmoved next.sameBut (by decide) .idle
      exact stepped
  | finalizeWon granted next =>
      have stepped := unmoved next.sameBut (by decide) .idle
      exact stepped
  | deposited accepted unhandled found logged credited =>
      exact step_deposit accepted found credited
  | withdrawalUnlogged accepted unhandled found debited unlogged =>
      exact step_withdraw accepted unhandled found debited covered
  | withdrawn accepted unhandled found debited logged =>
      exact step_withdraw accepted unhandled found debited covered
  | _ => exact .idle

private theorem insolvent_setBreedingPoint {address : Address} {user : User}
    {column : Int} (found : db.user.find address = some user)
    (negative : column < 0) : ¬ Solvent (db.setBreedingPoint address column) := by
  intro solvent
  have held : book (db.setBreedingPoint address column) address =
      some column := by
    have balance := book_eq_some.mpr ⟨user, found, rfl⟩
    rw [book_setBreedingPoint found, Book.post, Function.update_self, balance]
    simp
  have bound := solvent_iff_book.mp solvent address column held
  omega

/-- The condition is exact: whatever the log row does, an overdrawn account is
left negative. -/
theorem insolvent_of_overdraws {exchange : Exchange}
    (handles : Handles app admitted db exchange after)
    (overdraws : Overdraws app db exchange.request) : ¬ Solvent after := by
  obtain ⟨request, response⟩ := exchange
  cases request with
  | withdrawBreedingPoint body =>
      obtain ⟨accepted, unhandled, user, column, found, short, debited⟩ :=
        overdraws
      have value : (user.breedingPoint : Rat) - body.amount / 100 = column :=
        toIntColumn_eq_some debited
      have below : (column : Rat) < 0 := by
        rw [← value]
        exact sub_neg.mpr short
      have insolvent := insolvent_setBreedingPoint found
        (show column < 0 by exact_mod_cast below)
      suffices every : (surroundings admitted).Ensures
          (handle app (.withdrawBreedingPoint body))
          (fun _ last => ¬ Solvent last) db from every _ _ handles
      simp only [handle, validated]
      refine (World.returns_throwIf (by simp [accepted])).ensures_bind
        fun _ _ => ?_
      rw [World.ensures_map, AdminController.withdrawBreedingPoint]
      refine (returns_validateTransaction unhandled).ensures_bind
        fun _ _ => ?_
      refine (returns_userFindUnique _).ensures_bind ?_
      rintro present rfl
      rw [found]
      simp only [World.ensures_tryCatch]
      refine ensures_userUpdate ?_ fun same updated _ written => ?_
      · rintro (rejected | missing)
        · exact (Option.some_ne_none column (debited.symm.trans rejected)).elim
        · exact (Option.some_ne_none user (found.symm.trans missing)).elim
      · rw [debited, Option.some.injEq] at written
        subst updated
        refine ensures_eventServiceLogCreate ?_ fun block _ => ?_
        · exact fun _ _ => World.ensures_pure.mpr insolvent
        · exact World.ensures_pure.mpr insolvent
  | _ => exact overdraws.elim

end Steps

section Runs

variable {app : App} {admitted : Oracle → Prop} {start final : Db}
  {steps : List (Transition Db Exchange)}

/-- A run keeps every balance nonnegative exactly as long as it never withdraws
more than an account holds. -/
theorem solvent_iff_covered (solvent : Solvent start)
    (run : Run app admitted start steps final) :
    (∀ state ∈ states start steps, Solvent state) ↔
      ∀ step ∈ steps, ¬ Overdraws app step.source step.label.request := by
  constructor
  · intro every step member overdraws
    obtain ⟨-, reached, handles⟩ := run.source_mem_states member
    exact insolvent_of_overdraws handles overdraws (every _ reached)
  · intro covered
    refine run.forall_states solvent fun step member before handles => ?_
    rw [solvent_iff_book] at before ⊢
    exact (step_of_outcome (outcome_of_handles handles)
      (covered step member)).solvent before

end Runs

def movesPoints : Request → Bool
  | .addBreedingPoint _ => true
  | .levelBreedingUp _ _ => true
  | .openSlot _ _ => true
  | .convertIndoor _ _ => true
  | .purchaseLand _ => true
  | .convertBp2High _ _ => true
  | .withdrawBreedingPoint _ => true
  | _ => false

/-- Runs in which the chain honours the signatures of `convertBp2High`: each
withdrawal reports one that was issued before, for the same address and amount,
and that is not among those `spent`. -/
inductive Redeems : List Exchange → List String → Prop
  | nil : Redeems [] []
  | other {earlier : List Exchange} {spent : List String} {last : Exchange}
      (redeems : Redeems earlier spent)
      (different : ∀ body, last.request ≠ .withdrawBreedingPoint body) :
      Redeems (earlier ++ [last]) spent
  | redeem {earlier : List Exchange} {spent : List String} {req : Req}
      {conversion : ConvertBPDto} {timestamp : Time} {signature : String}
      {body : BreedingPointDto} {response : Except Failure Response}
      (redeems : Redeems earlier spent)
      (issued : ⟨.convertBp2High req conversion,
        .ok (.conversion ⟨some signature, timestamp, body.amount⟩)⟩ ∈ earlier)
      (same : req.user = body.address) (unspent : signature ∉ spent) :
      Redeems (earlier ++ [⟨.withdrawBreedingPoint body, response⟩])
        (signature :: spent)

def withdrawalOf (txHash : String) : BreedingPointDto :=
  ⟨⟨"alice", txHash, 1, "goerli"⟩, 100000⟩

/-- Converting the same 1000 points twice before either signature is redeemed. -/
def conversionScript : List (Request × Oracle) :=
  [(.convertBp2High alice ⟨1000⟩, .agreeable "alice" (period 1)),
    (.convertBp2High alice ⟨1000⟩, .agreeable "alice" (period 2)),
    (.withdrawBreedingPoint (withdrawalOf "first"),
      .agreeable "alice" (period 2)),
    (.withdrawBreedingPoint (withdrawalOf "second"),
      .agreeable "alice" (period 2))]

/-- What a request is answered when its conversion is signed. -/
def signedAt (timestamp : Time) : Exchange :=
  ⟨.convertBp2High alice ⟨1000⟩,
    .ok (.conversion ⟨some (toString timestamp), timestamp, 100000⟩)⟩

theorem Redeems.redeemSigned {earlier : List Exchange} {spent : List String}
    {timestamp : Time} (redeems : Redeems earlier spent) (txHash : String)
    (response : Except Failure Response) (issued : signedAt timestamp ∈ earlier)
    (unspent : toString timestamp ∉ spent) :
    Redeems (earlier ++
      [⟨.withdrawBreedingPoint (withdrawalOf txHash), response⟩])
      (toString timestamp :: spent) :=
  redeems.redeem issued rfl unspent

theorem points_converted_twice :
    Solvent (breedingAfter 2) ∧
      Run (liveApp .goerli) (fun _ => True) (breedingAfter 2)
        (serve (liveApp .goerli) conversionScript (breedingAfter 2)).1
        (serve (liveApp .goerli) conversionScript (breedingAfter 2)).2 ∧
      (∀ step ∈ (serve (liveApp .goerli) conversionScript (breedingAfter 2)).1,
        movesPoints step.label.request = true) ∧
      (∃ spent, Redeems ((serve (liveApp .goerli) conversionScript
        (breedingAfter 2)).1.map Transition.label) spent) ∧
      ¬ ∀ state ∈ states (breedingAfter 2)
        (serve (liveApp .goerli) conversionScript (breedingAfter 2)).1,
          Solvent state := by
  have exchanges : (serve (liveApp .goerli) conversionScript
      (breedingAfter 2)).1.map Transition.label =
        [signedAt (period 1), signedAt (period 2),
          ⟨.withdrawBreedingPoint (withdrawalOf "first"), .ok (.success true)⟩,
          ⟨.withdrawBreedingPoint (withdrawalOf "second"),
            .ok (.success true)⟩] := by
    rw [breedingAfter_succ 1]
    decide +kernel
  refine ⟨?_, run_of_serve _ _ _, ?_, ?_, ?_⟩
  · rw [breedingAfter_succ 1]
    decide +kernel
  · rw [breedingAfter_succ 1]
    decide +kernel
  rotate_left
  · rw [breedingAfter_succ 1]
    decide +kernel
  rw [exchanges]
  have different (timestamp : Time) (body : BreedingPointDto) :
      (signedAt timestamp).request ≠ .withdrawBreedingPoint body := by
    simp [signedAt]
  have conversions : Redeems ([signedAt (period 1)] ++ [signedAt (period 2)])
      [] := .other (.other .nil (different _)) (different _)
  have first := conversions.redeemSigned "first" (.ok (.success true))
    (List.mem_cons_self) List.not_mem_nil
  have second := first.redeemSigned "second" (.ok (.success true))
    (List.mem_cons_of_mem _ List.mem_cons_self)
    (show toString (period 2) ∉ [toString (period 1)] by decide)
  exact ⟨_, second⟩

/-- All points are converted once, and the signature is redeemed. -/
def redemptionScript : List (Request × Oracle) :=
  [(.convertBp2High alice ⟨1000⟩, .agreeable "alice" (period 1)),
    (.withdrawBreedingPoint (withdrawalOf "first"),
      .agreeable "alice" (period 2))]

theorem solvent_iff_covered_redeemed :
    (∀ state ∈ states (breedingAfter 2)
        (serve (liveApp .goerli) redemptionScript (breedingAfter 2)).1,
      Solvent state) ∧
      (serve (liveApp .goerli) redemptionScript
        (breedingAfter 2)).2.user.rows.map User.breedingPoint = [0] := by
  have solvent : Solvent (breedingAfter 2) := by
    rw [breedingAfter_succ 1]
    decide +kernel
  have held : ∀ step ∈ (serve (liveApp .goerli) redemptionScript
      (breedingAfter 2)).1, ∀ user ∈ step.source.user.rows,
        user.breedingPoint = 1000 := by
    rw [breedingAfter_succ 1]
    decide +kernel
  constructor
  · apply (solvent_iff_covered solvent (run_of_serve _ _ _)).mpr
    intro step member overdraws
    obtain ⟨entry, listed, same⟩ := request_of_serve member
    rw [← same] at overdraws
    simp only [redemptionScript, List.mem_cons, List.not_mem_nil, or_false] at listed
    rcases listed with rfl | rfl
    · exact overdraws
    · obtain ⟨-, -, user, column, found, uncovered, -⟩ := overdraws
      rw [held step member user (Table.find_eq_some.mp found).1] at uncovered
      exact absurd uncovered (by norm_num [withdrawalOf])
  · rw [breedingAfter_succ 1]
    decide +kernel

end BudBreeding.Points
