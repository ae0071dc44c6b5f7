import BudBreeding.Backend.Runs

namespace BudBreeding.Occupancy

open Data Program Backend

/-! The game key of a pair, and that of the slot it was created on. -/

/-- What a pair keeps of the request that created it. -/
structure Tie where
  slotId : Int
  gameKeyId : Int
  deriving DecidableEq, Repr

def tie (pair : BreedPair) : Tie :=
  ⟨pair.slotId, pair.gameKeyId⟩

def ties (db : Db) : List Tie :=
  db.breedPair.rows.map tie

def slotKey (db : Db) (slotId : Int) : Option (Option Int) :=
  (db.breedSlot.find slotId).map BreedSlot.gameKeyId

/-- Every pair is on a slot without a game key, or on a slot of its own key. -/
def PairsKeyed (db : Db) : Prop :=
  ∀ pair ∈ db.breedPair.rows, ∃ slot, db.breedSlot.find pair.slotId = some slot ∧
    (slot.gameKeyId = none ∨ slot.gameKeyId = some pair.gameKeyId)

theorem pairsKeyed_iff {db : Db} :
    PairsKeyed db ↔ ∀ tie ∈ ties db, slotKey db tie.slotId = some none ∨
      slotKey db tie.slotId = some (some tie.gameKeyId) := by
  unfold ties
  rw [List.forall_mem_map]
  apply forall₂_congr
  intro pair _
  simp only [slotKey, tie, Option.map_eq_some_iff]
  constructor
  · intro kept
    obtain ⟨slot, stored, keyless | keyed⟩ := kept
    · exact .inl ⟨slot, stored, keyless⟩
    · exact .inr ⟨slot, stored, keyed⟩
  · intro kept
    cases kept with
    | inl keyless =>
        obtain ⟨slot, stored, its⟩ := keyless
        exact ⟨slot, stored, .inl its⟩
    | inr keyed =>
        obtain ⟨slot, stored, its⟩ := keyed
        exact ⟨slot, stored, .inr its⟩

/-- The pairs are tied as before, but for the new ones, and no slot has changed hands
between game keys. -/
structure Tied (db after : Db) (added : List Tie) : Prop where
  ties : ties after = ties db ++ added
  keys : ∀ slotId key, slotKey db slotId = some key → slotKey after slotId = some key

namespace Tied

variable {db middle after : Db} {added more : List Tie}

theorem congr (pairs : after.breedPair = db.breedPair)
    (slots : after.breedSlot = db.breedSlot) : Tied db after [] := by
  constructor
  · rw [List.append_nil, Occupancy.ties, pairs]
    rfl
  · intro slotId key found
    rw [slotKey, slots]
    exact found

theorem of_user (same : Db.SameBut (some .user) db after) : Tied db after [] :=
  congr (same.breedPair (by decide)) (same.breedSlot (by decide))

theorem trans (first : Tied db middle added) (second : Tied middle after more) :
    Tied db after (added ++ more) := by
  constructor
  · rw [second.ties, first.ties, List.append_assoc]
  · intro slotId key found
    exact second.keys slotId key (first.keys slotId key found)

theorem updateBreedPair (db : Db) (filter : BreedPair → Bool) (data : BreedPairUpdate) :
    Tied db (db.updateBreedPair filter data) [] := by
  constructor
  · rw [List.append_nil]
    change (db.breedPair.rows.map _).map tie = db.breedPair.rows.map tie
    rw [List.map_map]
    apply List.map_congr_left
    intro pair _
    simp only [Function.comp_apply]
    split
    · cases data <;> rfl
    · rfl
  · intro slotId key found
    exact found

theorem updateBreedSlot (db : Db) (filter : BreedSlot → Bool) (data : BreedSlotUpdate) :
    Tied db (db.updateBreedSlot filter data) [] := by
  constructor
  · exact (List.append_nil _).symm
  · intro slotId key found
    have rewritten : (db.updateBreedSlot filter data).breedSlot.find slotId =
        (db.breedSlot.find slotId).map
          fun slot => if filter slot then data.apply slot else slot :=
      Serial.find_modify data.apply_id slotId
    rw [slotKey, rewritten, Option.map_map]
    rw [← found, slotKey]
    congr 1
    funext slot
    simp only [Function.comp_apply]
    split
    · exact data.apply_gameKeyId slot
    · rfl

theorem addSlots (db : Db) (existing : BreedSlot → Bool) (slots : List BreedSlotCreate) :
    Tied db (db.addSlots existing slots) [] := by
  unfold Db.addSlots
  split
  · exact congr rfl rfl
  · constructor
    · exact (List.append_nil _).symm
    · intro slotId key found
      obtain ⟨slot, stored, keyed⟩ := Option.map_eq_some_iff.mp found
      obtain ⟨member, named⟩ := Table.find_eq_some.mp stored
      have still : (db.createBreedSlots slots).breedSlot.find slotId = some slot := by
        apply Table.find_eq_some.mpr
        refine ⟨?_, named⟩
        rw [Db.rows_createBreedSlots]
        exact List.mem_append_left _ member
      rw [slotKey, still, Option.map_some, keyed]

theorem createBreedPair (db : Db) (data : BreedPairCreate) (now : Time) :
    Tied db (db.createBreedPair data now) [⟨data.slotId, data.gameKeyId⟩] := by
  constructor
  · exact List.map_append
  · intro slotId key found
    exact found

theorem upgradeSlot (db : Db) (body : CreateBreedPairDto) (slot : BreedSlot) :
    Tied db (db.upgradeSlot body slot) [] := by
  unfold Db.upgradeSlot
  split
  · exact updateBreedSlot db _ _
  · exact congr rfl rfl

theorem insertPair (db : Db) (data : BreedPairCreate) (now : Time) :
    Tied db (db.insertPair data now) [⟨data.slotId, data.gameKeyId⟩] :=
  (createBreedPair db data now).trans (updateBreedSlot _ _ _)

theorem levelStarted {app : App} {pair : BreedPair}
    (started : LevelStarted app db pair after) : Tied db after [] :=
  (updateBreedPair db _ _).trans (congr started.breedPair started.breedSlot)

theorem nextSlotOpened {user : Address} (next : db.NextSlotOpened user after) :
    Tied db after [] := by
  cases next with
  | inl kept =>
      rw [kept.2]
      exact congr rfl rfl
  | inr opened =>
      obtain ⟨slot, -, -, rfl⟩ := opened
      exact updateBreedSlot db _ _

theorem closePair (db : Db) (pair : BreedPair) (status : BreedPairStatus) :
    Tied db (db.closePair pair status) [] :=
  (updateBreedSlot db _ _).trans (updateBreedPair _ _ _)

theorem failPairs (db : Db) (pairs : List BreedPair) : Tied db (db.failPairs pairs) [] :=
  (updateBreedPair db _ _).trans (updateBreedSlot _ _ _)

theorem deleteSlots (db : Db) (slots : List BreedSlot) (deletedAt : Time) :
    Tied db (db.deleteSlots slots deletedAt) [] :=
  (updateBreedSlot db _ _).trans (updateBreedPair _ _ _)

theorem finalized {app : App} {level : BreedLevel} {buds : List BreedBud}
    {male female : Int} {pair : BreedPair} {user : Address}
    (next : ((db.evaluateLevel app level buds male female).closePair pair
      .COMPLETED).NextSlotOpened user after) : Tied db after [] := by
  have evaluated : Tied db (db.evaluateLevel app level buds male female) [] :=
    congr rfl rfl
  exact (evaluated.trans (closePair _ pair .COMPLETED)).trans (nextSlotOpened next)

theorem pairCreated {app : App} {req : Req} {body : CreateBreedPairDto} {slot : BreedSlot}
    {rate : Rat} {now : Time} {pair : BreedPair}
    (started : LevelStarted app
      ((db.upgradeSlot body slot).insertPair (pairData req body rate) now) pair after) :
    Tied db after [⟨body.slotId, req.gameKeyId⟩] := by
  have inserted : Tied db ((db.upgradeSlot body slot).insertPair (pairData req body rate)
      now) [⟨body.slotId, req.gameKeyId⟩] :=
    (upgradeSlot db body slot).trans (insertPair _ _ _)
  exact inserted.trans (levelStarted started)

end Tied

section Steps

variable {app : App} {admitted : Oracle → Prop} {db after : Db} {request : Request}
  {response : Except Failure Response}

/-- Only `createPair` ties pairs, and it has checked the slot. -/
theorem tied_of_outcome (outcome : Outcome app admitted db request response after) :
    Tied db after [] ∨
      ∃ req body slot metadatas, request = .createPair req body ∧
        PairGranted admitted db req body slot metadatas ∧
        Tied db after [⟨body.slotId, req.gameKeyId⟩] := by
  cases outcome with
  | levelClashed granted taken samePair sameLevel =>
      exact .inr ⟨_, _, _, _, rfl, granted,
        (Tied.upgradeSlot db _ _).trans (Tied.insertPair _ _ _)⟩
  | pairCreated granted started =>
      exact .inr ⟨_, _, _, _, rfl, granted, .pairCreated started⟩
  | loggedIn =>
      left
      exact (Tied.addSlots db _ _).trans (.of_user (Db.sameBut_upsertUser _ _ _ _))
  | slotOpened listed own closed charged =>
      left
      exact (Tied.of_user charged.sameBut).trans (.updateBreedSlot _ _ _)
  | slotConverted listed own outdoor charged =>
      left
      exact (Tied.of_user charged.sameBut).trans (.updateBreedSlot _ _ _)
  | landPurchased charged =>
      left
      exact (Tied.of_user charged.sameBut).trans (.addSlots _ _ _)
  | othersPairsFailed selected => exact .inl (.failPairs db _)
  | ownersPairsFailed selected => exact .inl (.failPairs db _)
  | keySlotsDeleted deletable selected => exact .inl (.deleteSlots db _ _)
  | pairRejected granted => exact .inl (.upgradeSlot db _ _)
  | levelCharged granted charged => exact .inl (.of_user charged.sameBut)
  | levelEvaluated granted charged evaluable taken samePair sameLevel =>
      left
      exact (Tied.of_user charged.sameBut).trans (.congr rfl rfl)
  | @leveledUp req body pair paid after level buds granted charged evaluable started =>
      left
      have evaluated : Tied paid (paid.evaluateLevel app level buds body.maleBudId
          body.femaleBudId) [] := .congr rfl rfl
      exact ((Tied.of_user charged.sameBut).trans evaluated).trans (.levelStarted started)
  | pairCanceled listed own answered =>
      left
      exact (Tied.updateBreedPair db _ _).trans (.updateBreedSlot _ _ _)
  | @finalizeLost req body pair level buds granted =>
      left
      have evaluated : Tied db (db.evaluateLevel app level buds body.maleBudId
          body.femaleBudId) [] := .congr rfl rfl
      exact evaluated.trans (.closePair _ pair .FAILED)
  | finalizeUnsigned granted next =>
      left
      exact (Tied.finalized next).trans (.congr rfl rfl)
  | finalizeWon granted next =>
      left
      exact (Tied.finalized next).trans (.congr rfl rfl)
  | _ => exact .inl (.congr rfl rfl)

/-- A request passes the checks of `createPair` for a slot of game key 0, with a token
of another key. -/
def Strays (admitted : Oracle → Prop) (db : Db) : Request → Prop
  | .createPair req body => ∃ slot metadatas,
      PairGranted admitted db req body slot metadatas ∧ slot.gameKeyId = some 0 ∧
        req.gameKeyId ≠ 0
  | _ => False

/-- `otherKeysSlot` takes the key 0 for no key. -/
theorem key_of_granted {req : Req} {body : CreateBreedPairDto} {slot : BreedSlot}
    {metadatas : List BudWithId}
    (granted : PairGranted admitted db req body slot metadatas)
    (careful : ¬ Strays admitted db (.createPair req body)) :
    slotKey db body.slotId = some none ∨
      slotKey db body.slotId = some (some req.gameKeyId) := by
  obtain ⟨-, -, -, identified, -⟩ := of_decide_eq_true granted.free
  have stored : db.breedSlot.find body.slotId = some slot :=
    Table.find_eq_some.mpr ⟨granted.listed, identified⟩
  have passed := granted.keyed
  unfold BreedController.otherKeysSlot at passed
  rw [slotKey, stored, Option.map_some]
  cases keyed : slot.gameKeyId with
  | none => exact .inl rfl
  | some key =>
      right
      rw [keyed] at passed
      by_contra other
      have differs : key ≠ req.gameKeyId := by
        intro same
        rw [same] at other
        exact other rfl
      have zero : key = 0 := by
        by_contra nonzero
        exact of_decide_eq_false passed ⟨nonzero, differs⟩
      rw [zero] at keyed differs
      exact careful ⟨slot, metadatas, granted, keyed, differs.symm⟩

theorem PairsKeyed.outcome (keyed : PairsKeyed db)
    (careful : ¬ Strays admitted db request)
    (outcome : Outcome app admitted db request response after) : PairsKeyed after := by
  rw [pairsKeyed_iff] at keyed ⊢
  have kept : ∀ {added : List Tie}, Tied db after added → ∀ tie : Tie,
      (slotKey db tie.slotId = some none ∨
        slotKey db tie.slotId = some (some tie.gameKeyId)) →
      (slotKey after tie.slotId = some none ∨
        slotKey after tie.slotId = some (some tie.gameKeyId)) := by
    intro added tied tie its
    exact its.imp (tied.keys _ _) (tied.keys _ _)
  cases tied_of_outcome outcome with
  | inl tied =>
      intro tie member
      rw [tied.ties, List.append_nil] at member
      exact kept tied tie (keyed tie member)
  | inr created =>
      obtain ⟨req, body, slot, metadatas, rfl, granted, tied⟩ := created
      intro tie member
      rw [tied.ties] at member
      cases List.mem_append.mp member with
      | inl old => exact kept tied tie (keyed tie old)
      | inr new =>
          rw [List.mem_singleton.mp new]
          exact kept tied _ (key_of_granted granted careful)

theorem not_pairsKeyed {req : Req} {body : CreateBreedPairDto} {slot : BreedSlot}
    {pair : BreedPair} (listed : slot ∈ db.breedSlot.rows) (named : slot.id = body.slotId)
    (zero : slot.gameKeyId = some 0) (other : req.gameKeyId ≠ 0)
    (outcome : Outcome app admitted db (.createPair req body) (.ok (.pair pair)) after) :
    ¬ PairsKeyed after := by
  intro keyed
  cases outcome with
  | pairCreated granted started =>
      have tied := Tied.pairCreated started
      have stored : db.breedSlot.find body.slotId = some slot :=
        Table.find_eq_some.mpr ⟨listed, named⟩
      have before : slotKey db body.slotId = some (some 0) := by
        rw [slotKey, stored, Option.map_some, zero]
      have now := tied.keys _ _ before
      have among : ⟨body.slotId, req.gameKeyId⟩ ∈ ties after := by
        rw [tied.ties]
        exact List.mem_append_right _ List.mem_cons_self
      cases pairsKeyed_iff.mp keyed _ among with
      | inl keyless => cases now.symm.trans keyless
      | inr own =>
          have same := Option.some.inj (Option.some.inj (now.symm.trans own))
          exact other same.symm

end Steps

section Runs

variable {app : App} {admitted : Oracle → Prop} {final : Db}
  {steps : List (Transition Db Exchange)}

/-- Pairs stay on the slots of their game key in every run that creates no pair on a slot
of key 0 with the token of another key, and no longer. -/
theorem pairs_keep_key (run : Run app admitted .empty steps final) :
    ((∀ step ∈ steps, ¬ Strays admitted step.source step.label.request) →
      ∀ db ∈ states .empty steps, PairsKeyed db) ∧
    ∀ step ∈ steps, ∀ req body slot pair,
      step.label.request = .createPair req body →
      step.label.response = .ok (.pair pair) →
      slot ∈ step.source.breedSlot.rows → slot.id = body.slotId →
      slot.gameKeyId = some 0 → req.gameKeyId ≠ 0 → ¬ PairsKeyed step.target := by
  constructor
  · intro careful
    have start : PairsKeyed .empty := by
      intro pair member
      cases member
    refine run.forall_states start ?_
    intro step member keyed handles
    exact keyed.outcome (careful step member) (outcome_of_handles handles)
  · intro step member req body slot pair asked answered listed named zero other
    obtain ⟨-, -, handles⟩ := run.source_mem_states member
    have outcome := outcome_of_handles handles
    rw [asked, answered] at outcome
    exact not_pairsKeyed listed named zero other outcome

theorem pairs_keep_key_breeding :
    PairsKeyed (serve (liveApp .goerli) breedingScript .empty).2 := by
  have run := run_of_serve (liveApp .goerli) breedingScript .empty
  have served := serve_breedingScript []
  rw [List.append_nil, List.append_nil] at served
  have keys : ∀ step ∈ (serve (liveApp .goerli) breedingScript .empty).1,
      ∀ slot ∈ step.source.breedSlot.rows, slot.gameKeyId ≠ some 0 := by
    rw [served]
    decide +kernel
  refine (pairs_keep_key run).1 ?_ _ run.final_mem_states
  intro step member strays
  unfold Strays at strays
  split at strays
  · obtain ⟨slot, metadatas, granted, zero, -⟩ := strays
    exact keys step member slot granted.listed zero
  · exact strays

def zeroLogin : LoginDto :=
  { loginFrom "alice" with
    message := UserService.getLoginMessage 0 "1650000000000"
    gameKeyId := 0 }

theorem genuine_zeroLogin :
    Genuine (fun _ => .agreeable "alice" (period 0)) zeroLogin := by
  have parsed : UserService.bigNumberFrom "1650000000000" = some (period 0) := by
    decide +kernel
  constructor
  · exact messageAccepted_getLoginMessage 0 (by decide +kernel) parsed
  · exact ⟨"alice", rfl, rfl⟩

def bothKeys : Db :=
  signedIn (signedIn .empty zeroLogin) (loginFrom "alice")

/-- `alice` breeds on a slot of key 0 with the token of key 7. -/
def strayPair (db : Db) : Except Failure Response × Db :=
  (surroundings fun _ => True).run (fun _ => .agreeable "alice" (period 0))
    (handle (liveApp .goerli) (.createPair alice ⟨1, 2, 1, none, none⟩)) db

/-- Login accepts the key 0, and pairs of other keys end up on its slots. -/
theorem stray_pair_created :
    ∃ steps final, Run (liveApp .goerli) (fun _ => True) .empty steps final ∧
      ¬ PairsKeyed final := by
  have zero : Handles (liveApp .goerli) (fun _ => True) .empty
      ⟨.login zeroLogin, .ok (.token ⟨"alice", 0⟩)⟩ (signedIn .empty zeroLogin) :=
    handles_login trivial (by decide +kernel) genuine_zeroLogin rfl .empty
  have seven : Handles (liveApp .goerli) (fun _ => True) (signedIn .empty zeroLogin)
      ⟨.login (loginFrom "alice"), .ok (.token ⟨"alice", 7⟩)⟩ bothKeys :=
    handles_login trivial (by decide +kernel) (genuine_loginFrom rfl) rfl _
  have paired : Handles (liveApp .goerli) (fun _ => True) bothKeys
      ⟨.createPair alice ⟨1, 2, 1, none, none⟩, (strayPair bothKeys).1⟩
      (strayPair bothKeys).2 := handles_run _ trivial _ _
  refine ⟨_, _, ((History.nil.snoc zero).snoc seven).snoc paired, ?_⟩
  intro keyed
  have stray : ¬ ∀ tie ∈ ties (strayPair bothKeys).2,
      slotKey (strayPair bothKeys).2 tie.slotId = some none ∨
        slotKey (strayPair bothKeys).2 tie.slotId = some (some tie.gameKeyId) := by
    decide +kernel
  exact stray (pairsKeyed_iff.mp keyed)

end Runs

end BudBreeding.Occupancy
