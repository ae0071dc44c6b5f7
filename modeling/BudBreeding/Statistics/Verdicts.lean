import BudBreeding.Data.Totals
import BudBreeding.Statistics.Aggregates

namespace BudBreeding.Statistics

open Data Program Backend

/-! What the snapshot counts as won and lost, next to the dice of the finalize
requests. -/

/-- The dice of a finalize request, with the user who threw it.  A `Gen1Bud` row is
created when the dice is won, and only then. -/
def diceOf (step : Transition Db Exchange) : Option (Address × Bool) :=
  match step.label.request with
  | .finalizeBreeding req _ =>
      if step.label.response = .ok (.reward none) then some (req.user, false)
      else if step.source.gen1Bud.nextId < step.target.gen1Bud.nextId then
        some (req.user, true)
      else none
  | _ => none

/-- What the status and the level of a pair tell the snapshot. -/
def Verdict (won : Bool) (pair : BreedPair) : Prop :=
  if won then pair.status = .COMPLETED
  else pair.status = .FAILED ∧ pair.currentLevel = 5

instance (won : Bool) (pair : BreedPair) : Decidable (Verdict won pair) := by
  unfold Verdict
  infer_instance

def verdicts (won : Bool) (user : Address) (db : Db) : Int :=
  db.breedPair.total fun pair =>
    if pair.userAddress = user ∧ Verdict won pair then 1 else 0

/-- The pairs that a request sets to `FAILED` without a dice. -/
def Invalidates (db : Db) : Request → BreedPair → Prop
  | .invalidatePair req body, pair =>
      BreedController.othersPairs req.user body.maleBudId body.femaleBudId pair = true
  | .invalidateBreedingPairByBudId body, pair =>
      AdminController.ownersPairs body.prevOwner body.budId pair = true
  | .invalidSlotsForGameKey body, pair =>
      ∃ slot ∈ db.breedSlot.rows,
        AdminController.keySlot body.prevOwner body.gameKeyId slot = true ∧
          slot.id = pair.slotId
  | _, _ => False

/-- A request after which the snapshot takes a pair for something else than its dice
shows: an invalidation that fails a completed pair or makes a pair of level 5 look
lost, or a dice that is lost at another level. -/
inductive Misjudges (step : Transition Db Exchange) : Prop
  | invalidates {text : String} {pair : BreedPair}
      (carriedOut : step.label.response = .ok (.invalidated (some text)))
      (listed : pair ∈ step.source.breedPair.rows)
      (selected : Invalidates step.source step.label.request pair)
      (judged : pair.status = .COMPLETED ∨
        pair.status ≠ .FAILED ∧ pair.currentLevel = 5)
  | loses {req : Req} {body : BreedFinalizeDto} {pair : BreedPair}
      (finalizes : step.label.request = .finalizeBreeding req body)
      (lost : step.label.response = .ok (.reward none))
      (listed : pair ∈ step.source.breedPair.rows)
      (own : BreedController.ownPair req.user body.pairId pair = true)
      (elsewhere : pair.currentLevel ≠ 5)

section Steps

variable {app : App} {admitted : Oracle → Prop} {db after : Db} {won : Bool}
  {user : Address} {pair : BreedPair}

theorem not_verdict_of_paired (paired : pair.status = .PAIRED) :
    ¬ Verdict won pair := by
  unfold Verdict
  cases won <;> simp [paired]

theorem not_verdict_of_canceled (canceled : pair.status = .CANCELED) :
    ¬ Verdict won pair := by
  unfold Verdict
  cases won <;> simp [canceled]

theorem verdicts_of_breedPair (same : after.breedPair = db.breedPair) :
    verdicts won user after = verdicts won user db := by
  rw [verdicts, same]
  rfl

theorem verdicts_updatePaired {data : BreedPairUpdate}
    (listed : pair ∈ db.breedPair.rows) (paired : pair.status = .PAIRED)
    (unjudged : ¬ Verdict won (data.apply pair)) :
    verdicts won user
        (db.updateBreedPair (fun other => other.id = pair.id) data) =
      verdicts won user db := by
  apply Serial.total_modify_of_same
  intro other member chosen
  obtain rfl := db.breedPair.eq_of_key_eq member listed (of_decide_eq_true chosen)
  rw [if_neg fun judged => unjudged judged.2,
    if_neg fun judged => not_verdict_of_paired paired judged.2]

theorem verdicts_close {status : BreedPairStatus}
    (listed : pair ∈ db.breedPair.rows) (paired : pair.status = .PAIRED) :
    verdicts won user
        (db.updateBreedPair (fun other => other.id = pair.id) (.status status)) =
      verdicts won user db +
        if pair.userAddress = user ∧ Verdict won { pair with status := status } then 1
        else 0 := by
  have changed := @Serial.total_modify_key _ BreedPair.id db.breedPair
    (fun pair => if pair.userAddress = user ∧ Verdict won pair then 1 else 0)
    (BreedPairUpdate.status status).apply (BreedPairUpdate.status status).apply_id
    pair listed
  have unjudged : ¬ (pair.userAddress = user ∧ Verdict won pair) := fun judged =>
    not_verdict_of_paired paired judged.2
  rw [if_neg unjudged, sub_zero] at changed
  exact changed

theorem verdicts_fail {filter : BreedPair → Bool}
    (spared : ∀ pair ∈ db.breedPair.rows, filter pair = true →
      ¬ (pair.status = .COMPLETED ∨ pair.status ≠ .FAILED ∧ pair.currentLevel = 5)) :
    verdicts won user (db.updateBreedPair filter (.status .FAILED)) =
      verdicts won user db := by
  apply Serial.total_modify_of_same
  intro pair member chosen
  have unjudged := spared pair member chosen
  have same : Verdict won { pair with status := .FAILED } ↔ Verdict won pair := by
    unfold Verdict
    cases status : pair.status <;> cases won <;> simp_all
  change (if pair.userAddress = user ∧ Verdict won { pair with status := .FAILED }
    then 1 else 0) = _
  simp only [same]

theorem diceOf_of_same {request : Request} {response : Except Failure Response}
    (unrewarded : response ≠ .ok (.reward none)) (same : after.gen1Bud = db.gen1Bud) :
    diceOf ⟨db, ⟨request, response⟩, after⟩ = none := by
  unfold diceOf
  split
  · rw [if_neg unrewarded, if_neg]
    change ¬ db.gen1Bud.nextId < after.gen1Bud.nextId
    rw [same]
    exact lt_irrefl _
  · rfl

theorem diceOf_of_created {req : Req} {body : BreedFinalizeDto}
    {response : Except Failure Response}
    (unrewarded : response ≠ .ok (.reward none))
    (created : db.gen1Bud.nextId < after.gen1Bud.nextId) :
    diceOf ⟨db, ⟨.finalizeBreeding req body, response⟩, after⟩ =
      some (req.user, true) :=
  (if_neg unrewarded).trans (if_pos created)

theorem quiet_step {request : Request} {response : Except Failure Response}
    (quiet : diceOf ⟨db, ⟨request, response⟩, after⟩ = none)
    (kept : verdicts won user after = verdicts won user db) :
    verdicts won user after = verdicts won user db +
      if diceOf ⟨db, ⟨request, response⟩, after⟩ = some (user, won) then 1 else 0 := by
  rw [quiet, if_neg (Option.some_ne_none _).symm, add_zero, kept]

theorem verdicts_started {other : BreedPair} (started : LevelStarted app db other after)
    (listed : other ∈ db.breedPair.rows) (paired : other.status = .PAIRED) :
    verdicts won user after = verdicts won user db :=
  (verdicts_of_breedPair started.breedPair).trans
    (verdicts_updatePaired listed paired (not_verdict_of_paired paired))

theorem verdicts_insertPair (req : Req) (body : CreateBreedPairDto) (rate : Rat)
    (now : Time) :
    verdicts won user (db.insertPair (pairData req body rate) now) =
      verdicts won user db := by
  have added := @Serial.total_create _ BreedPair.id db.breedPair
    (fun pair => if pair.userAddress = user ∧ Verdict won pair then 1 else 0)
    ((pairData req body rate).row now) ((pairData req body rate).row_id now)
  rw [if_neg fun judged => not_verdict_of_paired rfl judged.2, add_zero] at added
  exact added

theorem thrown_step {req : Req} {body : BreedFinalizeDto} {verdict : Bool}
    {response : Except Failure Response}
    (listed : pair ∈ db.breedPair.rows)
    (own : BreedController.ownPair req.user body.pairId pair = true)
    (thrown : diceOf ⟨db, ⟨.finalizeBreeding req body, response⟩, after⟩ =
      some (req.user, verdict))
    (judged : Verdict won
      { pair with status := if verdict then .COMPLETED else .FAILED } ↔ verdict = won)
    (closed : after.breedPair = (db.updateBreedPair (fun other => other.id = pair.id)
      (.status (if verdict then .COMPLETED else .FAILED))).breedPair) :
    verdicts won user after = verdicts won user db +
      if diceOf ⟨db, ⟨.finalizeBreeding req body, response⟩, after⟩ = some (user, won)
      then 1 else 0 := by
  rw [verdicts_of_breedPair closed, verdicts_close listed (paired_of_ownPair own), thrown,
    ← (of_decide_eq_true own).2.1]
  simp only [judged, Option.some.injEq, Prod.mk.injEq]

/-- The step lemma: a request adds a verdict just when it throws the dice. -/
theorem verdicts_of_outcome {request : Request} {response : Except Failure Response}
    (outcome : Outcome app admitted db request response after)
    (careful : ¬ Misjudges ⟨db, ⟨request, response⟩, after⟩) :
    verdicts won user after = verdicts won user db +
      if diceOf ⟨db, ⟨request, response⟩, after⟩ = some (user, won) then 1 else 0 := by
  cases outcome with
  | loggedIn =>
      refine quiet_step rfl (verdicts_of_breedPair ?_)
      exact ((Db.sameBut_upsertUser _ _ _ _).breedPair (by decide)).trans
        ((Db.sameBut_addSlots _ _ _).breedPair (by decide))
  | slotOpened listed own closed charged =>
      exact quiet_step rfl (verdicts_of_breedPair charged.breedPair)
  | slotConverted listed own outdoor charged =>
      exact quiet_step rfl (verdicts_of_breedPair charged.breedPair)
  | landPurchased charged =>
      refine quiet_step rfl (verdicts_of_breedPair ?_)
      exact ((Db.sameBut_addSlots _ _ _).breedPair (by decide)).trans
        charged.breedPair
  | othersPairsFailed selected =>
      refine quiet_step rfl (verdicts_fail ?_)
      intro pair listed chosen judged
      have named := (Table.key_mem_selected selected listed).mp (of_decide_eq_true chosen)
      exact careful (.invalidates rfl listed named judged)
  | ownersPairsFailed selected =>
      refine quiet_step rfl (verdicts_fail ?_)
      intro pair listed chosen judged
      have named := (Table.key_mem_selected selected listed).mp (of_decide_eq_true chosen)
      exact careful (.invalidates rfl listed named judged)
  | keySlotsDeleted deletable selected =>
      refine quiet_step rfl (verdicts_fail ?_)
      intro pair listed chosen judged
      obtain ⟨slot, member, same⟩ := List.mem_map.mp (of_decide_eq_true chosen)
      obtain ⟨present, keyed⟩ := List.mem_filter.mp (selected.mem_iff.mp member)
      exact careful (.invalidates rfl listed ⟨slot, present, keyed, same⟩ judged)
  | @pairRejected req body slot =>
      exact quiet_step rfl (verdicts_of_breedPair (db.breedPair_upgradeSlot body slot))
  | @levelClashed req body slot metadatas rate now =>
      refine quiet_step rfl ((verdicts_insertPair _ _ _ _).trans ?_)
      exact verdicts_of_breedPair (db.breedPair_upgradeSlot body slot)
  | @pairCreated req body slot metadatas rate now after granted started =>
      have same := db.breedPair_upgradeSlot body slot
      refine quiet_step rfl ?_
      exact (verdicts_started started (mem_insertPair _ now) rfl).trans
        ((verdicts_insertPair _ _ _ _).trans (verdicts_of_breedPair same))
  | levelCharged granted charged =>
      exact quiet_step rfl (verdicts_of_breedPair charged.breedPair)
  | levelEvaluated granted charged =>
      exact quiet_step rfl (verdicts_of_breedPair charged.breedPair)
  | @leveledUp req body pair paid after level buds granted charged evaluable started =>
      have same := charged.breedPair
      have listed : pair ∈ paid.breedPair.rows := by
        rw [same]
        exact granted.listed
      refine quiet_step rfl ?_
      exact (verdicts_started started listed (paired_of_ownPair granted.own)).trans
        (verdicts_of_breedPair same)
  | pairCanceled listed own answered =>
      exact quiet_step rfl (verdicts_updatePaired listed (paired_of_ownPair own)
        (not_verdict_of_canceled rfl))
  | @finalizeLost req body pair level buds granted =>
      have five : pair.currentLevel = 5 := by
        by_contra elsewhere
        exact careful (.loses rfl rfl granted.listed granted.own elsewhere)
      apply @thrown_step _ _ won user pair req body false _ granted.listed granted.own
        rfl _ rfl
      unfold Verdict
      cases won <;> simp [five]
  | @finalizeUnsigned req body pair level buds opened data now error granted next =>
      have created : db.gen1Bud.nextId < opened.gen1Bud.nextId + 1 := by
        rw [next.gen1Bud]
        exact Int.lt_succ _
      apply @thrown_step _ _ won user pair req body true _ granted.listed granted.own
      · exact diceOf_of_created (by simp) created
      · unfold Verdict
        cases won <;> simp
      · exact next.breedPair
  | @finalizeWon req body pair level buds opened data now signature reward granted next =>
      have created : db.gen1Bud.nextId < opened.gen1Bud.nextId + 1 := by
        rw [next.gen1Bud]
        exact Int.lt_succ _
      apply @thrown_step _ _ won user pair req body true _ granted.listed granted.own
      · exact diceOf_of_created (by simp) created
      · unfold Verdict
        cases won <;> simp
      · exact next.breedPair
  | refused => exact quiet_step (diceOf_of_same (by simp) rfl) rfl
  | nothingInvalidated => exact quiet_step (diceOf_of_same (by simp) rfl) rfl
  | finalizeBlocked => exact quiet_step (diceOf_of_same (by simp) rfl) rfl
  | _ => exact quiet_step rfl rfl

end Steps

section Runs

variable {app : App} {admitted : Oracle → Prop} {final : Db}
  {steps : List (Transition Db Exchange)} {stats table : StatsTable}

/-- The run lemma: the verdicts are those of the dice. -/
theorem verdicts_of_run (run : Run app admitted .empty steps final)
    (careful : ∀ step ∈ steps, ¬ Misjudges step) (won : Bool) (user : Address) :
    verdicts won user final = (steps.filterMap diceOf).count (user, won) := by
  induction run with
  | nil => rfl
  | @snoc steps current target label earlier step induction =>
      have before := induction fun step member =>
        careful step (List.mem_append_left _ member)
      have thrown := @verdicts_of_outcome app admitted current target won user _ _
        (outcome_of_handles step)
        (careful ⟨current, label, target⟩ (List.mem_append_right _ List.mem_cons_self))
      rw [thrown, before, List.filterMap_append, List.count_append, Nat.cast_add]
      congr 1
      cases dice : diceOf ⟨current, label, target⟩ with
      | none =>
          rw [List.filterMap_cons_none dice, if_neg (Option.some_ne_none _).symm]
          rfl
      | some verdict =>
          rw [List.filterMap_cons_some dice, List.filterMap_nil,
            List.count_singleton]
          by_cases same : verdict = (user, won) <;> simp [same]

theorem length_eq_verdicts (won : Bool) (user : Address) (db : Db) :
    (((db.breedPair.rows.filter fun pair => Verdict won pair).filter
      fun pair => pair.userAddress = user).length : Int) = verdicts won user db := by
  rw [verdicts, Serial.total_indicator, List.countP_eq_length_filter, List.filter_filter]
  simp only [Bool.decide_and]

/-- Without a step that misjudges a pair, the snapshot shows how often the dice of each
user was won and lost. -/
theorem verdicts_counted (run : Run app admitted .empty steps final)
    (careful : ∀ step ∈ steps, ¬ Misjudges step)
    (short : ∀ pair ∈ final.breedPair.rows, pair.userAddress.length ≤ 42)
    (ran : (statistics final).Runs snapshotBreeding stats (.ok ()) table)
    (user : Address) :
    shown table .totalSuccess user = (steps.filterMap diceOf).count (user, true) ∧
      shown table .totalFailure user = (steps.filterMap diceOf).count (user, false) := by
  have listed {select : BreedPair → Bool} {user : Address}
      (occurs : user ∈ (final.breedPair.rows.filter select).map BreedPair.userAddress) :
      user.length ≤ 42 := by
    obtain ⟨pair, member, same⟩ := List.mem_map.mp occurs
    rw [← same]
    exact short pair (List.mem_filter.mp member).1
  have successes : shown table .totalSuccess user =
      (stored final .totalSuccess user).getD 0 := by
    apply shown_of_run _ ran
    intro user grouped
    rw [aggregate, perAddress_ne_none] at grouped
    exact listed grouped
  have failures : shown table .totalFailure user =
      (stored final .totalFailure user).getD 0 := by
    apply shown_of_run _ ran
    intro user grouped
    rw [aggregate, perAddress_ne_none] at grouped
    exact listed grouped
  rw [successes, failures, ← verdicts_of_run run careful true user,
    ← verdicts_of_run run careful false user, ← length_eq_verdicts true,
    ← length_eq_verdicts false]
  constructor
  · exact getD_perAddress (fun pairs => pairs.length) (fun _ => rfl) rfl user
  · exact getD_perAddress (fun pairs => pairs.length) (fun _ => rfl) rfl user

end Runs

section Breeding

def winningScript : List (Request × Oracle) :=
  breedingScript ++
    [(.finalizeBreeding alice ⟨1, 17, 18⟩, .agreeable "alice" (period 5))]

/-- A breeding up to level 5, whose male bud then changes hands. -/
def transferScript : List (Request × Oracle) :=
  breedingScript ++
    [(.invalidateBreedingPairByBudId ⟨"alice", "bob", 1⟩, .agreeable "bob" (period 5))]

def servedBy (script : List (Request × Oracle)) : Db :=
  (serve (liveApp .goerli) script .empty).2

theorem run_servedBy (script : List (Request × Oracle)) :
    Run (liveApp .goerli) (fun _ => True) .empty
      (serve (liveApp .goerli) script .empty).1 (servedBy script) :=
  run_of_serve (liveApp .goerli) script .empty

theorem not_misjudges_winningScript :
    ∀ step ∈ (serve (liveApp .goerli) winningScript .empty).1, ¬ Misjudges step := by
  have unlost : ∀ step ∈ (serve (liveApp .goerli) winningScript .empty).1,
      step.label.response ≠ .ok (.reward none) := by
    rw [winningScript, serve_breedingScript]
    decide +kernel
  intro step member misjudges
  cases misjudges with
  | loses finalizes lost => exact unlost step member lost
  | invalidates carriedOut listed selected judged =>
      have plain : ∀ entry ∈ winningScript, ∀ db pair,
          ¬ Invalidates db entry.1 pair := by
        simp [winningScript, breedingScript, Invalidates]
      obtain ⟨entry, present, same⟩ := request_of_serve member
      rw [← same] at selected
      exact plain entry present _ _ selected

theorem verdicts_counted_winningScript :
    shown (snapshotOf (servedBy winningScript)).2 .totalSuccess "alice" = 1 ∧
      shown (snapshotOf (servedBy winningScript)).2 .totalFailure "alice" = 0 := by
  have succeeds : (snapshotOf (servedBy winningScript)).1 = .ok () := by
    rw [servedBy, winningScript, serve_breedingScript]
    decide +kernel
  have short : ∀ pair ∈ (servedBy winningScript).breedPair.rows,
      pair.userAddress.length ≤ 42 := by
    rw [servedBy, winningScript, serve_breedingScript]
    decide +kernel
  have dice : (serve (liveApp .goerli) winningScript .empty).1.filterMap diceOf =
      [("alice", true)] := by
    rw [winningScript, serve_breedingScript]
    decide +kernel
  have ran := runs_snapshotOf (servedBy winningScript)
  rw [succeeds] at ran
  have counted := verdicts_counted (run_servedBy winningScript)
    not_misjudges_winningScript short ran "alice"
  rw [dice] at counted
  exact counted

/-- No dice was thrown, and one was counted as lost. -/
theorem transferred_pair_counted_lost :
    ¬ ∀ (app : App) (admitted : Oracle → Prop) (steps : List (Transition Db Exchange))
        (final : Db) (stats table : StatsTable) (user : Address),
      Run app admitted .empty steps final →
        (∀ pair ∈ final.breedPair.rows, pair.userAddress.length ≤ 42) →
        (statistics final).Runs snapshotBreeding stats (.ok ()) table →
        shown table .totalSuccess user = (steps.filterMap diceOf).count (user, true) ∧
        shown table .totalFailure user =
          (steps.filterMap diceOf).count (user, false) := by
  intro agrees
  have succeeds : (snapshotOf (servedBy transferScript)).1 = .ok () := by
    rw [servedBy, transferScript, serve_breedingScript]
    decide +kernel
  have short : ∀ pair ∈ (servedBy transferScript).breedPair.rows,
      pair.userAddress.length ≤ 42 := by
    rw [servedBy, transferScript, serve_breedingScript]
    decide +kernel
  have dice : (serve (liveApp .goerli) transferScript .empty).1.filterMap diceOf =
      [] := by
    rw [transferScript, serve_breedingScript]
    decide +kernel
  have counted : shown (snapshotOf (servedBy transferScript)).2 .totalFailure "alice" =
      1 := by
    rw [servedBy, transferScript, serve_breedingScript]
    decide +kernel
  have ran := runs_snapshotOf (servedBy transferScript)
  rw [succeeds] at ran
  have none := (agrees _ _ _ _ _ _ "alice" (run_servedBy transferScript) short ran).2
  change shown (snapshotOf (servedBy transferScript)).2 .totalFailure "alice" = _ at none
  rw [counted, dice] at none
  exact absurd none (by decide)

end Breeding

end BudBreeding.Statistics
