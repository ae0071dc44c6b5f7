import BudBreeding.Data.Custody
import BudBreeding.Possession.Chain

namespace BudBreeding.Possession

open Data Program Backend

/-! Buds that are transferred while they are in breeding, and the requests that
tell the application of it. -/

/-- The buds the pairs in breeding are bred from. -/
def uses (db : Db) : Set (Use Address Int) :=
  {use | ∃ pair ∈ db.breedPair.rows,
    AdminController.ownersPairs use.user use.thing pair = true}

theorem mem_uses_iff {db : Db} {use : Use Address Int} :
    use ∈ uses db ↔ ∃ entry ∈ commitments db, entry.userAddress = use.user ∧
      (entry.femaleBudId = use.thing ∨ entry.maleBudId = use.thing) := by
  constructor
  · intro used
    obtain ⟨pair, listed, selected⟩ := used
    obtain ⟨user, paired, buds⟩ := decide_eq_true_iff.mp selected
    exact ⟨_, mem_commitments listed paired, user, buds⟩
  · intro used
    obtain ⟨entry, member, user, buds⟩ := used
    obtain ⟨pair, listed, paired, rfl⟩ := exists_of_mem_commitments member
    exact ⟨pair, listed, decide_eq_true ⟨user, paired, buds⟩⟩

theorem uses_empty : uses .empty = ∅ := by
  ext use
  constructor
  · intro used
    obtain ⟨pair, listed, -⟩ := used
    exact absurd listed List.not_mem_nil
  · exact fun impossible => absurd impossible (Set.notMem_empty use)

/-- Whatever comes into use by a request belongs to its user. -/
theorem uses_of_handles {app : App} {admitted : Oracle → Prop} {db after : Db}
    {exchange : Exchange} {budOwner : Int → Address}
    (reported : ∀ oracle, admitted oracle → OwnersReported budOwner oracle)
    (handled : Handles app admitted db exchange after) :
    uses after ⊆ {use | use ∈ uses db ∨ budOwner use.thing = use.user} := by
  intro use used
  obtain ⟨entry, member, user, buds⟩ := mem_uses_iff.mp used
  rcases commitments_of_outcome (outcome_of_handles handled) with
    fewer | ⟨req, body, slot, metadatas, -, granted, added⟩
  · exact .inl (mem_uses_iff.mpr ⟨entry, fewer.subset member, user, buds⟩)
  · rw [added, List.mem_append, List.mem_singleton] at member
    cases member with
    | inl old => exact .inl (mem_uses_iff.mpr ⟨entry, old, user, buds⟩)
    | inr new =>
        subst new
        obtain ⟨male, female⟩ := owner_of_ownsBuds reported granted.owns
        right
        rw [← user]
        cases buds with
        | inl same =>
            rw [← same]
            exact female
        | inr same =>
            rw [← same]
            exact male

/-- The use a request asks to end. -/
def withdrawn (event : InvalidateBreedingDto) : Use Address Int :=
  ⟨event.prevOwner, event.budId⟩

theorem not_used_failPairs {db : Db} {use : Use Address Int}
    {pairs : List BreedPair}
    (selected : pairs.Perm (db.breedPair.rows.filter
      (AdminController.ownersPairs use.user use.thing))) :
    use ∉ uses (db.failPairs pairs) := by
  intro used
  obtain ⟨pair, listed, still⟩ := used
  obtain ⟨user, paired, buds⟩ := decide_eq_true_iff.mp still
  rcases Serial.of_mem_modify listed with ⟨old, present, chosen, rfl⟩ |
    ⟨present, passed⟩
  · cases paired
  · have member : pair ∈ pairs :=
      selected.mem_iff.mpr (List.mem_filter.mpr ⟨present, still⟩)
    exact of_decide_eq_false passed (List.mem_map_of_mem member)

section Delivery

variable {app : App} {admitted : Oracle → Prop} {db : Db}
  {event : InvalidateBreedingDto}

/-- The new owner of the bud is still its owner when the request is handled. -/
def Confirmed (event : InvalidateBreedingDto) (answer : Option Address) : Prop :=
  event.valid = true ∧ answer = some event.owner

/-- A confirmed request ends the use it names, any other one does nothing. -/
theorem ensures_delivered {answer : Option Address}
    (answered : ∀ oracle, admitted oracle →
      oracle.budOwner event.budId = answer) :
    (surroundings admitted).Ensures
      (handle app (.invalidateBreedingPairByBudId event))
      (fun _ after => Confirmed event answer ∧ withdrawn event ∉ uses after ∨
        ¬ Confirmed event answer ∧ after = db) db := by
  unfold handle validated
  rw [World.ensures_bind, World.ensures_throwIf]
  refine ⟨fun invalid => .inr ⟨fun confirmed => ?_, rfl⟩, fun passed => ?_⟩
  · exact Bool.false_ne_true (invalid.symm.trans confirmed.1)
  have valid := Bool.eq_true_of_not_eq_false passed
  change World.Ensures _ (_ <$> _) _ db
  rw [World.ensures_map]
  refine ensures_isGen0BudOwner answered ?_ fun same => ?_
  · exact fun differs _ => .inr ⟨fun confirmed => differs confirmed.2, rfl⟩
  · refine (returns_breedPairFindMany _).ensures_bind fun pairs selected => ?_
    have confirmed : Confirmed event answer := ⟨valid, same⟩
    split
    · next nothing =>
        refine World.ensures_pure.mpr (.inl ⟨confirmed, fun used => ?_⟩)
        obtain ⟨pair, listed, selects⟩ := used
        have member := selected.mem_iff.mpr
          (List.mem_filter.mpr ⟨listed, selects⟩)
        rw [List.eq_nil_of_length_eq_zero nothing] at member
        exact List.not_mem_nil member
    · refine ensures_breedPairUpdateMany (ensures_breedSlotUpdateMany ?_)
      exact World.ensures_pure.mpr
        (.inl ⟨confirmed, not_used_failPairs selected⟩)

end Delivery

/-- The application, the owners of the buds, and the requests that are to come. -/
structure Market where
  db : Db
  budOwner : Int → Address
  pending : List InvalidateBreedingDto

inductive Move
  | transferred (budId : Int) (owner : Address)
  /-- The answer is what the chain names as the owner of the bud of the event. -/
  | delivered (event : InvalidateBreedingDto) (answer : Option Address)
  | handled (exchange : Exchange)

inductive Moves (app : App) : Market → Move → Market → Prop
  | transfer {market : Market} (budId : Int) (owner : Address) :
      Moves app market (.transferred budId owner)
        { market with
          budOwner := Function.update market.budOwner budId owner
          pending := market.pending ++
            [⟨market.budOwner budId, owner, budId⟩] }
  | deliver {market : Market} {event : InvalidateBreedingDto}
      {answer : Option Address} {response : Except Failure Response} {after : Db}
      (waiting : event ∈ market.pending)
      (handled : Handles app
        (fun oracle => OwnersReported market.budOwner oracle ∧
          oracle.budOwner event.budId = answer) market.db
        ⟨.invalidateBreedingPairByBudId event, response⟩ after) :
      Moves app market (.delivered event answer)
        { market with
          db := after
          pending := market.pending.erase event }
  | handle {market : Market} {exchange : Exchange} {after : Db}
      (handled : Handles app (OwnersReported market.budOwner) market.db exchange
        after) :
      Moves app market (.handled exchange) { market with db := after }

/-- What the previous owners are still to be told. -/
def notices (pending : List InvalidateBreedingDto) : Set (Use Address Int) :=
  {use | ∃ event ∈ pending, withdrawn event = use}

theorem notices_nil : notices [] = ∅ := by
  ext use
  simp [notices]

theorem notices_snoc (pending : List InvalidateBreedingDto)
    (event : InvalidateBreedingDto) :
    notices (pending ++ [event]) = insert (withdrawn event) (notices pending) := by
  ext use
  simp [notices, or_and_right, exists_or, or_comm, eq_comm]

theorem notices_erase {pending : List InvalidateBreedingDto}
    {event : InvalidateBreedingDto} (waiting : event ∈ pending) :
    notices pending = insert (withdrawn event) (notices (pending.erase event)) := by
  have same := List.perm_cons_erase waiting
  ext use
  simp [notices, same.mem_iff, eq_comm]

namespace Market

/-- Every pair in breeding belongs to the owner of its buds. -/
def Owned (market : Market) : Prop :=
  ∀ pair ∈ market.db.breedPair.rows, pair.status = .PAIRED →
    market.budOwner pair.maleBudId = pair.userAddress ∧
      market.budOwner pair.femaleBudId = pair.userAddress

def Backed (market : Market) : Prop :=
  Data.Backed market.budOwner (notices market.pending) (uses market.db)

/-- The request would be turned down although the previous owner goes on breeding
the bud, which has another owner by now, and no other request would end that. -/
structure Missed (market : Market) (event : InvalidateBreedingDto)
    (answer : Option Address) : Prop where
  unconfirmed : ¬ Confirmed event answer
  bred : withdrawn event ∈ uses market.db
  sold : market.budOwner event.budId ≠ event.prevOwner
  last : withdrawn event ∉ notices (market.pending.erase event)

theorem Backed.owned {market : Market} (backed : market.Backed)
    (settled : market.pending = []) : market.Owned := by
  unfold Backed at backed
  rw [settled, notices_nil] at backed
  intro pair listed paired
  constructor
  · have used : (⟨pair.userAddress, pair.maleBudId⟩ : Use Address Int) ∈
        uses market.db :=
      ⟨pair, listed, decide_eq_true ⟨rfl, paired, .inr rfl⟩⟩
    exact Data.Backed.owned backed used
  · have used : (⟨pair.userAddress, pair.femaleBudId⟩ : Use Address Int) ∈
        uses market.db :=
      ⟨pair, listed, decide_eq_true ⟨rfl, paired, .inl rfl⟩⟩
    exact Data.Backed.owned backed used

/-- The only step that leaves a pair without its buds and without a request to
come is a delivery that is missed. -/
theorem backed_iff {app : App} {source target : Market} {move : Move}
    (moves : Moves app source move target) (backed : source.Backed) :
    target.Backed ↔ ∀ event answer, move = .delivered event answer →
      ¬ source.Missed event answer := by
  cases moves with
  | transfer budId owner =>
      constructor
      · intro _ event answer impossible
        cases impossible
      · intro _
        have moved := Data.Backed.transfer backed budId owner
        unfold Backed
        rw [notices_snoc]
        exact moved
  | @handle exchange after handled =>
      constructor
      · intro _ event answer impossible
        cases impossible
      · intro _
        exact Data.Backed.acquire backed
          (uses_of_handles (fun _ reported => reported) handled)
  | @deliver event answer response after waiting handled =>
      unfold Backed at backed
      rw [notices_erase waiting] at backed
      have outcome := ensures_delivered (fun _ allowed => allowed.2) _ _ handled
      constructor
      · intro still other given same missed
        cases same
        cases outcome with
        | inl ended => exact missed.unconfirmed ended.1
        | inr ignored =>
            obtain ⟨-, rfl⟩ := ignored
            have needless := (Data.Backed.dispose_iff backed).mp still missed.bred
            cases needless with
            | inl owned => exact missed.sold owned
            | inr noticed => exact missed.last noticed
      · intro kept
        cases outcome with
        | inl ended =>
            have fewer : uses after ⊆ {use | use ∈ uses source.db ∨
                source.budOwner use.thing = use.user} :=
              uses_of_handles (fun _ allowed => allowed.1) handled
            apply (Data.Backed.dispose_iff (backed.acquire fewer)).mpr
            exact fun used => absurd used ended.2
        | inr ignored =>
            obtain ⟨unconfirmed, rfl⟩ := ignored
            apply (Data.Backed.dispose_iff backed).mpr
            intro used
            by_contra needed
            obtain ⟨sold, last⟩ := not_or.mp needed
            exact kept event answer rfl ⟨unconfirmed, used, sold, last⟩

end Market

def MissedAt (step : Transition Market Move) : Prop :=
  ∃ event answer, step.label = .delivered event answer ∧
    step.source.Missed event answer

def Market.opening (budOwner : Int → Address) : Market :=
  ⟨.empty, budOwner, []⟩

section Runs

variable {app : App} {start final : Market} {steps : List (Transition Market Move)}

theorem backed_of_run (run : History (Moves app) start steps final)
    (base : start.Backed) (prompt : ∀ step ∈ steps, ¬ MissedAt step) :
    ∀ market ∈ states start steps, market.Backed := by
  apply run.forall_states base
  intro step member backed moves
  apply (Market.backed_iff moves backed).mpr
  intro event answer delivered missed
  exact prompt step member ⟨event, answer, delivered, missed⟩

theorem not_owned_of_missed {source target : Market}
    {event : InvalidateBreedingDto} {answer : Option Address}
    (moves : Moves app source (.delivered event answer) target)
    (missed : source.Missed event answer) : ¬ target.Owned := by
  cases moves with
  | deliver waiting handled =>
      obtain ⟨confirmed, -⟩ | ⟨-, rfl⟩ :=
        ensures_delivered (fun _ allowed => allowed.2) _ _ handled
      · exact absurd confirmed missed.unconfirmed
      · intro owned
        obtain ⟨pair, listed, selected⟩ := missed.bred
        obtain ⟨user, paired, buds⟩ := decide_eq_true_iff.mp selected
        obtain ⟨male, female⟩ := owned pair listed paired
        apply missed.sold
        cases buds with
        | inl same =>
            rw [same] at female
            exact female.trans user
        | inr same =>
            rw [same] at male
            exact male.trans user

/-- When all the requests a run of transfers has produced are handled, and none of
them was missed, every pair in breeding belongs to the owner of its buds.  Right
after a missed one, some pair does not. -/
theorem transfers_converge {budOwner : Int → Address}
    (run : History (Moves app) (.opening budOwner) steps final) :
    ((∀ step ∈ steps, ¬ MissedAt step) →
      ∀ market ∈ states (.opening budOwner) steps,
        market.pending = [] → market.Owned) ∧
    ∀ step ∈ steps, MissedAt step → ¬ step.target.Owned := by
  have base : (Market.opening budOwner).Backed := by
    unfold Market.Backed Market.opening
    rw [uses_empty]
    exact .of_empty
  constructor
  · intro prompt market reached settled
    exact (backed_of_run run base prompt market reached).owned settled
  · intro step member missed
    obtain ⟨event, answer, delivered, missed⟩ := missed
    obtain ⟨-, -, moves⟩ := run.source_mem_states member
    rw [delivered] at moves
    exact not_owned_of_missed moves missed

end Runs

section Examples

theorem not_missedAt_handled {source target : Market} {exchange : Exchange} :
    ¬ MissedAt ⟨source, .handled exchange, target⟩ := by
  intro missed
  obtain ⟨event, answer, delivered, -⟩ := missed
  cases delivered

theorem not_missedAt_transferred {source target : Market} {budId : Int}
    {owner : Address} : ¬ MissedAt ⟨source, .transferred budId owner, target⟩ := by
  intro missed
  obtain ⟨event, answer, delivered, -⟩ := missed
  cases delivered

theorem not_missedAt_confirmed {source target : Market}
    {event : InvalidateBreedingDto} {answer : Option Address}
    (confirmed : Confirmed event answer) :
    ¬ MissedAt ⟨source, .delivered event answer, target⟩ := by
  intro missed
  obtain ⟨other, given, delivered, missed⟩ := missed
  cases delivered
  exact missed.unconfirmed confirmed

theorem prompt_snoc {steps : List (Transition Market Move)}
    {last : Transition Market Move} (prompt : ∀ step ∈ steps, ¬ MissedAt step)
    (kept : ¬ MissedAt last) : ∀ step ∈ steps ++ [last], ¬ MissedAt step := by
  intro step member
  cases List.mem_append.mp member with
  | inl before => exact prompt step before
  | inr single =>
      rw [List.mem_singleton.mp single]
      exact kept

theorem moves_of_run {app : App} {budOwner : Int → Address} {start final : Db}
    {steps : List (Transition Db Exchange)}
    (run : Run app (OwnersReported budOwner) start steps final) :
    ∃ moves, History (Moves app) ⟨start, budOwner, []⟩ moves
      ⟨final, budOwner, []⟩ ∧ ∀ step ∈ moves, ¬ MissedAt step := by
  induction run with
  | nil => exact ⟨[], .nil, by simp⟩
  | snoc earlier handled induction =>
      obtain ⟨moves, history, prompt⟩ := induction
      exact ⟨_, history.snoc (.handle handled),
        prompt_snoc prompt not_missedAt_handled⟩

theorem moves_breedingAfter :
    ∃ moves, History (Moves (liveApp .goerli)) (.opening allAlices.budOwner) moves
      ⟨breedingAfter 3, allAlices.budOwner, []⟩ ∧ ∀ step ∈ moves, ¬ MissedAt step := by
  apply moves_of_run
  exact run_breedingAfter
    (fun now => (Chain.reported_heldBy "alice" now).owners) 3

def Market.deliver (market : Market) (event : InvalidateBreedingDto) : Market where
  db := ((surroundings fun _ => True).run
    (fun _ => (Chain.mk market.budOwner fun _ _ => 1).oracle
      (.agreeable "alice" (period 2)))
    (handle (liveApp .goerli) (.invalidateBreedingPairByBudId event)) market.db).2
  budOwner := market.budOwner
  pending := market.pending.erase event

theorem moves_deliver {market : Market} {event : InvalidateBreedingDto}
    (waiting : event ∈ market.pending) :
    Moves (liveApp .goerli) market
      (.delivered event (some (market.budOwner event.budId)))
      (market.deliver event) := by
  have reported := (Chain.mk market.budOwner fun _ _ => 1).reported_oracle
    (.agreeable "alice" (period 2))
  exact .deliver waiting (handles_run _ ⟨reported.owners, rfl⟩ _ _)

/-- `alice` gives a bud of her pair away, and the request comes at once. -/
theorem transfers_converge_breeding :
    ∃ steps final, History (Moves (liveApp .goerli)) (.opening allAlices.budOwner) steps
      final ∧ final.pending = [] ∧ final.budOwner 1 = "bob" ∧ final.Owned := by
  obtain ⟨moves, history, prompt⟩ := moves_breedingAfter
  let event : InvalidateBreedingDto := ⟨"alice", "bob", 1⟩
  have waiting : event ∈ [event] := List.mem_cons_self
  have run := (history.snoc (.transfer 1 "bob")).snoc (moves_deliver waiting)
  refine ⟨_, _, run, by decide, rfl, ?_⟩
  refine (transfers_converge run).1 ?_ _ run.final_mem_states (by decide)
  apply prompt_snoc
  · exact prompt_snoc prompt not_missedAt_transferred
  · exact not_missedAt_confirmed ⟨by decide, rfl⟩

/-- `alice` has given a bud of her pair to `bob`, who has passed it on to `carol`,
and both requests are still to come. -/
def resold : Market where
  db := breedingAfter 3
  budOwner := Function.update (Function.update allAlices.budOwner 1 "bob") 1 "carol"
  pending := [⟨"alice", "bob", 1⟩, ⟨"bob", "carol", 1⟩]

theorem overtaken_transfer :
    ∃ steps final, History (Moves (liveApp .goerli)) (.opening allAlices.budOwner) steps
      final ∧ final.pending = [] ∧ ¬ final.Owned := by
  obtain ⟨moves, history, -⟩ := moves_breedingAfter
  have sold : History (Moves (liveApp .goerli)) (.opening allAlices.budOwner) _ resold :=
    (history.snoc (.transfer 1 "bob")).snoc (.transfer 1 "carol")
  have late : ⟨"alice", "bob", 1⟩ ∈ resold.pending := List.mem_cons_self
  have prompt : ⟨"bob", "carol", 1⟩ ∈ (resold.deliver ⟨"alice", "bob", 1⟩).pending :=
    List.mem_cons_self
  have run := (sold.snoc (moves_deliver late)).snoc (moves_deliver prompt)
  refine ⟨_, _, run, by decide, fun owned => ?_⟩
  have bred : ∃ pair ∈ ((resold.deliver ⟨"alice", "bob", 1⟩).deliver
      ⟨"bob", "carol", 1⟩).db.breedPair.rows,
      pair.status = .PAIRED ∧ pair.userAddress = "alice" ∧ pair.maleBudId = 1 := by
    unfold resold
    rw [breedingAfter_succ 2]
    decide +kernel
  obtain ⟨pair, listed, paired, user, male⟩ := bred
  have owner := (owned pair listed paired).1
  rw [user, male] at owner
  exact absurd owner (by decide)

end Examples

end BudBreeding.Possession
