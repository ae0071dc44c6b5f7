import BudBreeding.Events.Journal

namespace BudBreeding.Events

open Data Program Backend

/-! Whether a chain event can take effect twice when requests follow each other. -/

/-- The chain event by which a step changed a balance or added a bud. -/
def effect (step : Transition Db Exchange) : Option ChainEvent :=
  match step.label.request with
  | .addBreedingPoint body =>
      if step.target.user.rows = step.source.user.rows then none
      else some (body.txHash, .DEPOSIT_BP)
  | .withdrawBreedingPoint body =>
      if step.target.user.rows = step.source.user.rows then none
      else some (body.txHash, .WITHDRAW_BP)
  | .burnGen0Buds body =>
      if step.target.gen1Bud.rows.length = step.source.gen1Bud.rows.length then
        none
      else
        some (body.txHash, .BURN_GEN0)
  | _ => none

/-- The database refuses a log row for this transaction. -/
def Unloggable (db : Db) (body : AdminDtoBase) : Prop :=
  toIntColumn body.block = none ∨
    ∃ other ∈ db.eventServiceLog.rows, other.txHash = body.txHash

/-- A request that takes effect before it fails to write its log row: a withdrawal that
has debited, or a burn that has passed its checks and thrown the dice. -/
def LosesRecord (app : App) (admitted : Oracle → Prop) (db : Db) :
    Request → Prop
  | .withdrawBreedingPoint body =>
      body.valid = true ∧ Unhandled app db body.toAdminDtoBase .WITHDRAW_BP ∧
        Unloggable db body.toAdminDtoBase ∧
        ∃ user column, db.user.find body.address = some user ∧
          toIntColumn (user.breedingPoint - body.amount / 100) = some column
  | .burnGen0Buds body =>
      BurnGranted app admitted db body ∧
        (Unloggable db body.toAdminDtoBase ∨
          ∃ oracle now, admitted oracle ∧ oracle.signature
            ⟨body.address, .Gen1Bud, db.gen1Bud.nextId, 1, now⟩ = none)
  | _ => False

section Steps

variable {app : App} {admitted : Oracle → Prop} {db after : Db}
  {event : ChainEvent}

private theorem unloggable_of_rejected {body : AdminDtoBase}
    (rejected : ∀ block, ¬ (toIntColumn body.block = some block ∧
      ∀ other ∈ db.eventServiceLog.rows, other.txHash ≠ body.txHash)) :
    Unloggable db body := by
  cases column : toIntColumn body.block with
  | none => exact .inl column
  | some block =>
      apply Or.inr
      by_contra free
      apply rejected block
      refine ⟨column, ?_⟩
      intro other member same
      exact free ⟨other, member, same⟩

private theorem effect_self (exchange : Exchange) :
    effect ⟨db, exchange, db⟩ = none := by
  obtain ⟨request, response⟩ := exchange
  cases request <;> simp [effect]

/-- A step that writes its log row takes effect only when its event was not
logged before, and logs it. -/
theorem logged_of_effect {exchange : Exchange}
    (outcome : Outcome app admitted db exchange.request exchange.response after)
    (recording : ¬ LosesRecord app admitted db exchange.request)
    (happened : effect ⟨db, exchange, after⟩ = some event) :
    ¬ Logged event db ∧ Logged event after := by
  obtain ⟨request, response⟩ := exchange
  simp only at outcome recording
  cases outcome with
  | refused => rw [effect_self] at happened; cases happened
  | nothingInvalidated => rw [effect_self] at happened; cases happened
  | depositRejected => rw [effect_self] at happened; cases happened
  | depositLogged unhandled found logged rejected =>
      simp [effect, Db.createEventServiceLog] at happened
  | deposited accepted unhandled found logged credited =>
      obtain ⟨-, same⟩ := Option.ite_none_left_eq_some.mp happened
      cases same
      exact ⟨not_logged_of_unhandled unhandled,
        logged_setBreedingPoint.mpr (logged_create.mpr (.inr rfl))⟩
  | withdrawalRejected => rw [effect_self] at happened; cases happened
  | withdrawalUnlogged accepted unhandled found debited unlogged =>
      exact absurd ⟨accepted, unhandled, unloggable_of_rejected unlogged, _, _,
        found, debited⟩ recording
  | withdrawn accepted unhandled found debited logged =>
      obtain ⟨-, same⟩ := Option.ite_none_left_eq_some.mp happened
      cases same
      exact ⟨not_logged_of_unhandled unhandled, logged_create.mpr (.inr rfl)⟩
  | burnUnsigned granted allowed unsigned =>
      exact absurd ⟨granted, .inr ⟨_, _, allowed, unsigned⟩⟩ recording
  | burnUnlogged granted unlogged =>
      exact absurd ⟨granted, .inl (unloggable_of_rejected fun block =>
        unlogged block none)⟩ recording
  | burnWon granted logged =>
      obtain ⟨-, same⟩ := Option.ite_none_left_eq_some.mp happened
      cases same
      exact ⟨not_logged_of_unhandled granted.unhandled,
        logged_create.mpr (.inr rfl)⟩
  | burnLost granted logged =>
      simp [effect, Db.createEventServiceLog] at happened
  | _ => simp [effect] at happened

end Steps

/-- Every event takes effect at most once in a run whose effects can be
logged. -/
theorem effects_nodup {app : App} {admitted : Oracle → Prop} {start final : Db}
    {steps : List (Transition Db Exchange)}
    (run : Run app admitted start steps final)
    (recording : ∀ step ∈ steps,
      ¬ LosesRecord app admitted step.source step.label.request) :
    (steps.filterMap effect).Nodup := by
  have once : ∀ step ∈ steps,
      Handles app admitted step.source step.label step.target →
      ∀ event, effect step = some event →
        ¬ Logged event step.source ∧ Logged event step.target :=
    fun step member handles event happened =>
      logged_of_effect (outcome_of_handles handles) (recording step member)
        happened
  apply run.nodup_effects once
  intro event current label target logged handles
  exact logged_of_handles logged handles

def isChainEvent : Request → Bool
  | .addBreedingPoint _ => true
  | .withdrawBreedingPoint _ => true
  | .burnGen0Buds _ => true
  | _ => false

def swapOf (amount : Rat) : BreedingPointDto :=
  ⟨⟨"alice", "swap", 1, "goerli"⟩, amount⟩

/-- One transaction deposits 1000 points and withdraws 1.  The withdrawal answers
that it failed, so it is sent again. -/
def swapScript : List (Request × Oracle) :=
  [(.addBreedingPoint (swapOf 100000), .agreeable "alice" (period 1)),
    (.withdrawBreedingPoint (swapOf 100), .agreeable "alice" (period 1)),
    (.withdrawBreedingPoint (swapOf 100), .agreeable "alice" (period 1))]

theorem withdrawal_debited_twice :
    Run (liveApp .goerli) (fun _ => True) (breedingAfter 1)
        (serve (liveApp .goerli) swapScript (breedingAfter 1)).1
        (serve (liveApp .goerli) swapScript (breedingAfter 1)).2 ∧
      (∀ step ∈ (serve (liveApp .goerli) swapScript (breedingAfter 1)).1,
        isChainEvent step.label.request = true) ∧
      ¬ ((serve (liveApp .goerli) swapScript (breedingAfter 1)).1.filterMap
        effect).Nodup := by
  refine ⟨run_of_serve _ _ _, ?_, ?_⟩
  · rw [breedingAfter_succ 0]
    decide +kernel
  · rw [breedingAfter_succ 0]
    decide +kernel

def withdrawal : BreedingPointDto :=
  ⟨⟨"alice", "withdrawal", 1, "goerli"⟩, 100⟩

def burn : BurnGen0Buds :=
  ⟨⟨"alice", "burn", 1, "goerli"⟩, 1, 2⟩

/-- The withdrawal and the burn are sent twice. -/
def retriedScript : List (Request × Oracle) :=
  [(.login (loginFrom "alice"), .agreeable "alice" (period 0)),
    (.addBreedingPoint ⟨⟨"alice", "deposit", 1, "goerli"⟩, 100000⟩,
      .agreeable "alice" (period 1)),
    (.withdrawBreedingPoint withdrawal, .agreeable "alice" (period 1)),
    (.withdrawBreedingPoint withdrawal, .agreeable "alice" (period 2)),
    (.burnGen0Buds burn, .agreeable (ADDRESSES .goerli).BUD_BURN (period 2)),
    (.burnGen0Buds burn, .agreeable (ADDRESSES .goerli).BUD_BURN (period 3))]

def Agreeable (oracle : Oracle) : Prop :=
  ∃ account now, oracle = .agreeable account now

theorem run_retriedScript :
    Run (liveApp .goerli) Agreeable .empty
      (serve (liveApp .goerli) retriedScript .empty).1
      (serve (liveApp .goerli) retriedScript .empty).2 := by
  refine @run_serve (liveApp .goerli) Agreeable retriedScript ?_ .empty .empty [] .nil
  intro entry member
  simp only [retriedScript, List.mem_cons, List.not_mem_nil, or_false] at member
  rcases member with rfl | rfl | rfl | rfl | rfl | rfl
  all_goals exact ⟨_, _, rfl⟩

theorem not_unloggable {db : Db} {body : AdminDtoBase} {type : EventType}
    (unhandled : Unhandled (liveApp .goerli) db body type) (first : body.block = 1)
    (own : ∀ log ∈ db.eventServiceLog.rows, log.txHash = body.txHash →
      log.type = type) : ¬ Unloggable db body := by
  rintro (blocked | ⟨other, listed, same⟩)
  · rw [first] at blocked
    cases blocked
  · exact unhandled.fresh other listed ⟨same, own other listed same⟩

/-- Their signer answers. -/
theorem not_unrecorded_burn {db : Db}
    (own : ∀ log ∈ db.eventServiceLog.rows, log.txHash = "burn" →
      log.type = .BURN_GEN0) :
    ¬ LosesRecord (liveApp .goerli) Agreeable db (.burnGen0Buds burn) := by
  rintro ⟨granted, unloggable | ⟨oracle, now, ⟨account, clock, rfl⟩, unsigned⟩⟩
  · exact not_unloggable granted.unhandled rfl own unloggable
  · cases unsigned

theorem effects_nodup_retried :
    ((serve (liveApp .goerli) retriedScript .empty).1.filterMap effect).Nodup ∧
      (serve (liveApp .goerli) retriedScript .empty).1.filterMap effect =
        [("deposit", .DEPOSIT_BP), ("withdrawal", .WITHDRAW_BP),
          ("burn", .BURN_GEN0)] := by
  have own : ∀ step ∈ (serve (liveApp .goerli) retriedScript .empty).1,
      ∀ log ∈ step.source.eventServiceLog.rows,
        (log.txHash = "withdrawal" → log.type = .WITHDRAW_BP) ∧
          (log.txHash = "burn" → log.type = .BURN_GEN0) := by
    rw [retriedScript, serve_login (liveApp .goerli) (by decide +kernel) rfl]
    decide +kernel
  constructor
  · refine effects_nodup run_retriedScript ?_
    intro step member loses
    obtain ⟨entry, listed, same⟩ := request_of_serve member
    rw [← same] at loses
    simp only [retriedScript, List.mem_cons, List.not_mem_nil, or_false] at listed
    rcases listed with rfl | rfl | rfl | rfl | rfl | rfl
    · exact loses
    · exact loses
    · exact not_unloggable loses.2.1 rfl
        (fun log listed => (own step member log listed).1) loses.2.2.1
    · exact not_unloggable loses.2.1 rfl
        (fun log listed => (own step member log listed).1) loses.2.2.1
    · exact not_unrecorded_burn (fun log listed => (own step member log listed).2) loses
    · exact not_unrecorded_burn (fun log listed => (own step member log listed).2) loses
  · rw [retriedScript, serve_login (liveApp .goerli) (by decide +kernel) rfl]
    decide +kernel

end BudBreeding.Events
