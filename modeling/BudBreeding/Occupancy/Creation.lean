import BudBreeding.Backend.Interleavings

namespace BudBreeding.Occupancy

open Data Program Backend

/-! `createPair` requests that are handled at the same time. -/

/-- What a pair uses while it is breeding. -/
structure Parts where
  slotId : Int
  maleBudId : Int
  femaleBudId : Int
  deriving DecidableEq

namespace Parts

def SharesBud (first second : Parts) : Prop :=
  first.maleBudId = second.maleBudId ∨ first.femaleBudId = second.femaleBudId

/-- One bud is the male of one pair and the female of the other. -/
def CrossesBud (first second : Parts) : Prop :=
  first.maleBudId = second.femaleBudId ∨ first.femaleBudId = second.maleBudId

def Clash (first second : Parts) : Prop :=
  first.slotId = second.slotId ∨ first.SharesBud second ∨
    first.CrossesBud second

instance (first second : Parts) : Decidable (first.Clash second) :=
  inferInstanceAs (Decidable (_ ∨ (_ ∨ _) ∨ _ ∨ _))

end Parts

def partsOf (pair : BreedPair) : Parts :=
  ⟨pair.slotId, pair.maleBudId, pair.femaleBudId⟩

/-- The parts of the pairs that are breeding, in the order of their rows. -/
def breeding (db : Db) : List Parts :=
  (db.breedPair.rows.filter fun pair => pair.status = .PAIRED).map partsOf

/-- No slot and no bud is used by two pairs that are breeding. -/
def PairsExclusive (db : Db) : Prop :=
  (breeding db).Pairwise fun first second => ¬ first.Clash second

instance (db : Db) : Decidable (PairsExclusive db) :=
  inferInstanceAs (Decidable (List.Pairwise _ _))

/-- How far a request has come. -/
inductive Progress where
  | checking
  | counted
  | found
  | inserted
  | marked
  deriving DecidableEq

namespace Progress

def Inserted (progress : Progress) : Prop :=
  progress = .inserted ∨ progress = .marked

/-- A request counts no conflicting pair, finds its slot, inserts its pair and
marks the slot as used. -/
def advance : Progress → (query : Query) → query.Answer → Progress
  | .checking, .breedPairCount _, 0 => .counted
  | .counted, .breedSlotFindFirst _, some _ => .found
  | .found, .breedPairCreate _, .ok _ => .inserted
  | .inserted, .breedSlotUpdate _ (.isUsed _), _ => .marked
  | progress, _, _ => progress

end Progress

structure CreationStage where
  parts : Parts
  progress : Progress

/-- Queries that neither take part in the checks nor change what a pair or a slot
is used for. -/
def Aside : Query → Prop
  | .breedPairCount _ => False
  | .breedPairCreate _ => False
  | .breedPairUpdate _ (.status _) => False
  | .breedPairUpdateMany _ _ => False
  | .breedSlotFindFirst _ => False
  | .breedSlotCreateMany _ => False
  | .breedSlotUpdate _ (.type _) => True
  | .breedSlotUpdate _ _ => False
  | .breedSlotUpdateMany _ _ => False
  | _ => True

def counts : Query → Bool
  | .breedPairCount _ => true
  | _ => false

def looksUp : Query → Bool
  | .breedSlotFindFirst _ => true
  | _ => false

def inserts : (query : Query) → query.Answer → Bool
  | .breedPairCreate _, .ok _ => true
  | _, _ => false

namespace CreationStage

def legal : CreationStage → Query → Prop
  | ⟨parts, .checking⟩, .breedPairCount filter =>
      filter = BreedService.pairInBreeding parts.maleBudId parts.femaleBudId
  | ⟨parts, .counted⟩, .breedSlotFindFirst filter =>
      ∃ user, filter = LandService.openBreedSlotById user parts.slotId
  | ⟨parts, .found⟩, .breedPairCreate data =>
      data.status = .PAIRED ∧ parts =
        ⟨data.slotId, data.maleBudId, data.femaleBudId⟩
  | ⟨parts, .inserted⟩, .breedSlotUpdate id (.isUsed used) =>
      id = parts.slotId ∧ used = true
  | _, query => Aside query

def protocol : Protocol Query.Answer CreationStage where
  advance stage query answer :=
    ⟨stage.parts, stage.progress.advance query answer⟩
  legal stage query _ := stage.legal query

end CreationStage

open CreationStage

def requested (body : CreateBreedPairDto) : Parts :=
  ⟨body.slotId, body.maleBudId, body.femaleBudId⟩

section Handler

variable {admitted : Oracle → Prop} {progress : Progress}

theorem advance_aside {query : Query} (aside : Aside query)
    (answer : query.Answer) : progress.advance query answer = progress := by
  cases query with
  | breedSlotUpdate id data =>
      cases data with
      | isUsed value => exact aside.elim
      | _ => cases progress <;> rfl
  | _ => first
    | exact aside.elim
    | (cases progress <;> rfl)

theorem inserts_aside {query : Query} (aside : Aside query)
    (answer : query.Answer) : inserts query answer = false := by
  cases query with
  | breedPairCreate data => exact aside.elim
  | _ => rfl

theorem ignores_aside {query : Query} (aside : Aside query) :
    protocol.Ignores query := by
  intro stage answer
  obtain ⟨parts, progress⟩ := stage
  constructor
  · cases query with
    | breedSlotUpdate id data =>
        cases data with
        | isUsed value => exact aside.elim
        | _ => cases progress <;> exact aside
    | _ => first
      | exact aside.elim
      | (cases progress <;> exact aside)
  · exact congrArg (CreationStage.mk parts) (advance_aside aside answer)

theorem uses_aside {α : Type} {program : Handler α} {resources : List Resource}
    (uses : program.Uses (Query.Within resources))
    (apart : .table .breedPair ∉ resources ∧ .table .breedSlot ∉ resources) :
    program.Uses protocol.Ignores := by
  apply uses.mono
  intro query within
  apply ignores_aside
  cases query <;> first
    | exact trivial
    | exact absurd within apart.1
    | exact absurd within apart.2

theorem follows_createPair (app : App) (req : Req) (body : CreateBreedPairDto) :
    protocol.Follows (surroundings admitted) (fun _ _ => True)
      ⟨requested body, .checking⟩
      (BreedController.createPair app req body) := by
  apply Protocol.follows_skip
    (uses_aside (uses_verifyBudPairs _ _ _ _) (by simp)) fun _ => trivial
  intro metadatas
  apply Protocol.follows_skip (uses_aside (uses_checkGameItem _ _) (by simp))
    fun _ => trivial
  intro _
  rw [BreedService.findPairInBreeding, Prisma.breedPairCount,
    Protocol.follows_call_bind]
  intro conflicts _
  refine ⟨rfl, ?_⟩
  cases conflicts with
  | succ count => exact trivial
  | zero =>
      apply Protocol.follows_throwIf_bind (fun _ => trivial)
      intro _
      rw [LandService.findOpenBreedSlotById, Prisma.breedSlotFindFirst,
        Protocol.follows_call_bind]
      intro slot _
      refine ⟨⟨req.user, rfl⟩, ?_⟩
      cases slot with
      | none => exact trivial
      | some slot =>
          apply Protocol.follows_throwIf_bind (fun _ => trivial)
          intro _
          apply Protocol.follows_skip
            (uses_upgradeSlot (fun _ _ => ignores_aside trivial) _ _)
            fun _ => trivial
          intro slot
          apply Protocol.follows_skip
            (uses_aside (uses_getStartSuccessRate _ _ _ _ _) (by simp))
            fun _ => trivial
          intro rate
          rw [Protocol.follows_bind, Prisma.breedPairCreate,
            Protocol.follows_call_bind]
          intro answer _
          refine ⟨⟨rfl, rfl⟩, ?_⟩
          cases answer with
          | error error => exact trivial
          | ok pair =>
              simp only [settle, Protocol.follows_prog_pure]
              rw [Protocol.follows_bind, Prisma.breedSlotUpdate,
                Protocol.follows_call_bind]
              intro used _
              refine ⟨⟨rfl, rfl⟩, ?_⟩
              cases used with
              | error error => exact trivial
              | ok slot =>
                  apply Protocol.follows_skip _ fun _ => trivial
                  · exact fun _ => trivial
                  · apply uses_startBreedLevel
                    · intro query within
                      apply ignores_aside
                      cases query <;> first
                        | exact trivial
                        | simp [Query.Within, Query.resource] at within
                    · exact fun _ _ => ignores_aside trivial

theorem follows_creation (app : App) (req : Req) (body : CreateBreedPairDto) :
    protocol.Follows (surroundings admitted) (fun _ _ => True)
      ⟨requested body, .checking⟩
      (handle app (.createPair req body)) :=
  follows_validated trivial fun _ =>
    Protocol.follows_map.mpr (follows_createPair app req body)

end Handler

section Moves

variable {db after : Db} {parts : Parts} {progress : Progress} {query : Query}

def SlotUsed (db : Db) (slotId : Int) : Prop :=
  ∀ slot ∈ db.breedSlot.rows, slot.id = slotId → slot.isUsed = true

theorem breeding_counter (id value : Int) :
    breeding (db.updateBreedPair (fun pair => pair.id = id)
      (.currentLevel value)) = breeding db := by
  change ((db.breedPair.rows.map _).filter _).map partsOf = _
  rw [List.filter_map, List.map_map]
  have statuses : ((fun pair : BreedPair => decide (pair.status = .PAIRED)) ∘
      fun pair : BreedPair => if decide (pair.id = id) = true then
        (BreedPairUpdate.currentLevel value).apply pair else pair) =
      fun pair => decide (pair.status = .PAIRED) := by
    funext pair
    simp only [Function.comp_apply]
    split <;> rfl
  rw [statuses]
  apply List.map_congr_left
  intro pair _
  simp only [Function.comp_apply]
  split <;> rfl

theorem breeding_create (data : BreedPairCreate) (now : Time)
    (paired : data.status = .PAIRED) :
    breeding (db.createBreedPair data now) =
      breeding db ++ [⟨data.slotId, data.maleBudId, data.femaleBudId⟩] := by
  change ((db.breedPair.rows ++ [data.row now db.breedPair.nextId]).filter
    _).map partsOf = _
  rw [List.filter_append, List.map_append]
  have selected : (data.row now db.breedPair.nextId).status = .PAIRED := paired
  rw [List.filter_cons_of_pos (by simpa using selected)]
  rfl

theorem breeding_aside (oracle : Oracle) (aside : Aside query) :
    breeding (exec oracle query db).2 = breeding db := by
  by_cases written : query.written = some .breedPair
  · cases query with
    | breedPairUpdate id data =>
        cases data with
        | status value => exact aside.elim
        | currentLevel value => exact breeding_counter id value
    | breedPairCreate data => exact aside.elim
    | breedPairUpdateMany filter data => exact aside.elim
    | _ => cases written
  · rw [breeding, (exec_sameBut oracle query db).breedPair written]
    rfl

theorem slotUsed_mark {slotId : Int} :
    SlotUsed (db.updateBreedSlot (fun slot => slot.id = slotId) (.isUsed true))
      slotId := by
  intro slot member same
  rcases Serial.of_mem_modify member with ⟨old, -, -, rfl⟩ | ⟨-, passed⟩
  · rfl
  · exact absurd same (of_decide_eq_false passed)

theorem slotUsed_update {data : BreedSlotUpdate} {id slotId : Int}
    (keeps : ∀ slot : BreedSlot, slot.isUsed = true →
      (data.apply slot).isUsed = true)
    (used : SlotUsed db slotId) :
    SlotUsed (db.updateBreedSlot (fun slot => slot.id = id) data) slotId := by
  intro slot member same
  rcases Serial.of_mem_modify member with ⟨old, present, -, rfl⟩ | ⟨present, -⟩
  · apply keeps
    exact used old present ((data.apply_id old).symm.trans same)
  · exact used slot present same

theorem slotUsed_of_legal (oracle : Oracle)
    (legal : (CreationStage.mk parts progress).legal query) {slotId : Int}
    (used : SlotUsed db slotId) :
    SlotUsed (exec oracle query db).2 slotId := by
  by_cases written : query.written = some .breedSlot
  · cases query with
    | breedSlotUpdate id data =>
        cases data with
        | type value => exact slotUsed_update (fun _ before => before) used
        | isUsed value =>
            cases progress with
            | inserted =>
                obtain ⟨-, rfl⟩ := legal
                exact slotUsed_update (fun _ _ => rfl) used
            | _ => exact legal.elim
        | _ => cases progress <;> exact legal.elim
    | breedSlotCreateMany data => cases progress <;> exact legal.elim
    | breedSlotUpdateMany filter data => cases progress <;> exact legal.elim
    | _ => cases written
  · rw [SlotUsed, (exec_sameBut oracle query db).breedSlot written]
    exact used

/-- What one call of a request does to its progress and to the pairs. -/
inductive Moved (parts : Parts) (db after : Db) (query : Query)
    (answer : query.Answer) : Progress → Progress → Prop
  | still {progress : Progress} (same : breeding after = breeding db)
      (idle : inserts query answer = false) :
      Moved parts db after query answer progress progress
  | counted (same : breeding after = breeding db)
      (asking : counts query = true)
      (unshared : ∀ other ∈ breeding db, ¬ other.SharesBud parts)
      (idle : inserts query answer = false) :
      Moved parts db after query answer .checking .counted
  | found (same : breeding after = breeding db)
      (asking : looksUp query = true) (unused : ¬ SlotUsed db parts.slotId)
      (idle : inserts query answer = false) :
      Moved parts db after query answer .counted .found
  | inserted (added : breeding after = breeding db ++ [parts])
      (inserting : inserts query answer = true) :
      Moved parts db after query answer .found .inserted
  | marked (same : breeding after = breeding db)
      (used : SlotUsed after parts.slotId)
      (idle : inserts query answer = false) :
      Moved parts db after query answer .inserted .marked

theorem unshared_of_count
    (none : db.breedPair.rows.countP
      (BreedService.pairInBreeding parts.maleBudId parts.femaleBudId) = 0) :
    ∀ other ∈ breeding db, ¬ other.SharesBud parts := by
  intro other member shares
  obtain ⟨pair, kept, rfl⟩ := List.mem_map.mp member
  obtain ⟨present, paired⟩ := List.mem_filter.mp kept
  apply List.countP_eq_zero.mp none pair present
  rw [BreedService.pairInBreeding, decide_eq_true_iff]
  exact ⟨by simpa using paired, Or.symm shares⟩

theorem counts_of_legal
    (legal : (CreationStage.mk parts progress).legal query)
    (past : progress ≠ .checking) : counts query = false := by
  cases query with
  | breedPairCount filter =>
      cases progress with
      | checking => exact absurd rfl past
      | _ => exact legal.elim
  | _ => rfl

theorem looksUp_of_legal
    (legal : (CreationStage.mk parts progress).legal query)
    (past : progress ≠ .counted) : looksUp query = false := by
  cases query with
  | breedSlotFindFirst filter =>
      cases progress with
      | counted => exact absurd rfl past
      | _ => exact legal.elim
  | _ => rfl

theorem moved_of_legal (oracle : Oracle)
    (legal : (CreationStage.mk parts progress).legal query) :
    Moved parts db (exec oracle query db).2 query (exec oracle query db).1
      progress (progress.advance query (exec oracle query db).1) := by
  by_cases aside : Aside query
  · rw [advance_aside aside]
    exact .still (breeding_aside oracle aside) (inserts_aside aside _)
  · cases query with
    | breedPairCount filter =>
        cases progress with
        | checking =>
            subst legal
            simp only [exec]
            cases none : db.breedPair.rows.countP _ with
            | zero => exact .counted rfl rfl (unshared_of_count none) rfl
            | succ count => exact .still rfl rfl
        | _ => exact legal.elim
    | breedSlotFindFirst filter =>
        cases progress with
        | counted =>
            obtain ⟨user, rfl⟩ := legal
            simp only [exec]
            cases found : oracle.findFirst db.breedSlot.rows _ with
            | none => exact .still rfl rfl
            | some slot =>
                obtain ⟨present, free⟩ := Oracle.findFirst_eq_some found
                simp only [LandService.openBreedSlotById, decide_eq_true_iff]
                  at free
                refine .found rfl rfl ?_ rfl
                intro used
                have isUsed := used slot present free.2.2.2.1
                rw [free.2.2.1] at isUsed
                cases isUsed
        | _ => exact legal.elim
    | breedPairCreate data =>
        cases progress with
        | found =>
            obtain ⟨paired, rfl⟩ := legal
            simp only [exec]
            split
            · exact .still rfl rfl
            · exact .inserted (breeding_create data oracle.now paired) rfl
        | _ => exact legal.elim
    | breedSlotUpdate id data =>
        cases data with
        | isUsed used =>
            cases progress with
            | inserted =>
                obtain ⟨rfl, rfl⟩ := legal
                exact .marked rfl slotUsed_mark rfl
            | _ => exact legal.elim
        | type value => exact absurd trivial aside
        | _ => cases progress <;> exact legal.elim
    | breedPairUpdate id data =>
        cases data with
        | status value => cases progress <;> exact legal.elim
        | currentLevel value => exact absurd trivial aside
    | breedPairUpdateMany filter data => cases progress <;> exact legal.elim
    | breedSlotCreateMany data => cases progress <;> exact legal.elim
    | breedSlotUpdateMany filter data => cases progress <;> exact legal.elim
    | _ => exact absurd trivial aside

end Moves

section Interleavings

variable {ι : Type} [DecidableEq ι] {app : App} {admitted : Oracle → Prop}
  {requests : ι → Req × CreateBreedPairDto} {db : Db} {final : Server ι}
  {steps : List (ServerStep ι)}

def creating (requests : ι → Req × CreateBreedPairDto) (thread : ι) : Request :=
  .createPair (requests thread).1 (requests thread).2

def asked (requests : ι → Req × CreateBreedPairDto) (thread : ι) : Parts :=
  requested (requests thread).2

def outset (requests : ι → Req × CreateBreedPairDto) (thread : ι) :
    CreationStage :=
  ⟨asked requests thread, .checking⟩

def progressOf (requests : ι → Req × CreateBreedPairDto)
    (steps : List (ServerStep ι)) (thread : ι) : Progress :=
  (protocol.stages (outset requests) steps thread).progress

def asks (kind : Query → Bool) (thread : ι) (step : ServerStep ι) : Bool :=
  step.label.thread = thread && kind step.label.query

/-- A request that inserts its pair has seen all that can stand in its way. -/
structure Undisputed (requests : ι → Req × CreateBreedPairDto) (db : Db)
    (earlier : List (ServerStep ι)) (step : ServerStep ι) : Prop where
  /-- No pair that was breeding at the start uses its slot. -/
  vacant : ∀ other ∈ breeding db,
    other.slotId ≠ (asked requests step.label.thread).slotId
  /-- None of its buds is breeding in the other role. -/
  uncrossed : ∀ other ∈ breeding step.source.store,
    ¬ other.CrossesBud (asked requests step.label.thread)
  /-- Another pair of its buds was inserted before it counted. -/
  counted : ∀ other, (progressOf requests earlier other).Inserted →
    (asked requests other).SharesBud (asked requests step.label.thread) →
    (progressOf requests (upTo (asks counts step.label.thread) earlier)
      other).Inserted
  /-- Another request for its slot marked it before it looked the slot up. -/
  marked : ∀ other, (progressOf requests earlier other).Inserted →
    (asked requests other).slotId = (asked requests step.label.thread).slotId →
    progressOf requests (upTo (asks looksUp step.label.thread) earlier)
      other = .marked

/-- What the requests have done so far, and what their checks have shown. -/
structure Recorded (requests : ι → Req × CreateBreedPairDto) (db : Db)
    (steps : List (ServerStep ι)) (store : Db) : Prop where
  inserted : ∃ threads : List ι,
    breeding store = breeding db ++ threads.map (asked requests) ∧
      ∀ thread, thread ∈ threads ↔ (progressOf requests steps thread).Inserted
  counted : ∀ thread, progressOf requests steps thread ≠ .checking →
    (∀ other ∈ breeding db, ¬ other.SharesBud (asked requests thread)) ∧
      ∀ other,
        (progressOf requests (upTo (asks counts thread) steps) other).Inserted →
        ¬ (asked requests other).SharesBud (asked requests thread)
  found : ∀ thread, progressOf requests steps thread ≠ .checking →
    progressOf requests steps thread ≠ .counted →
    ∀ other, progressOf requests (upTo (asks looksUp thread) steps) other =
        .marked →
      (asked requests other).slotId ≠ (asked requests thread).slotId
  used : ∀ thread, progressOf requests steps thread = .marked →
    SlotUsed store (asked requests thread).slotId

structure Called (requests : ι → Req × CreateBreedPairDto)
    (steps : List (ServerStep ι)) (step : ServerStep ι) : Prop where
  moved : Moved (asked requests step.label.thread) step.source.store
    step.target.store step.label.query step.label.answer
    (progressOf requests steps step.label.thread)
    (progressOf requests (steps ++ [step]) step.label.thread)
  others : ∀ other, other ≠ step.label.thread →
    progressOf requests (steps ++ [step]) other =
      progressOf requests steps other
  counting : progressOf requests steps step.label.thread ≠ .checking →
    counts step.label.query = false
  looking : progressOf requests steps step.label.thread ≠ .counted →
    looksUp step.label.query = false
  kept : ∀ slotId, SlotUsed step.source.store slotId →
    SlotUsed step.target.store slotId

theorem stages_outset (steps : List (ServerStep ι)) (thread : ι) :
    protocol.stages (outset requests) steps thread =
      ⟨asked requests thread, progressOf requests steps thread⟩ := by
  suffices same : (protocol.stages (outset requests) steps thread).parts =
      asked requests thread by
    rw [progressOf, ← same]
  induction steps using List.reverseRecOn with
  | nil => rfl
  | append_singleton steps step induction =>
      rw [Protocol.stages_snoc]
      by_cases here : thread = step.label.thread
      · subst here
        rw [Function.update_self]
        exact induction
      · rw [Function.update_of_ne here]
        exact induction

theorem called_of_legal {current : Server ι} {thread : ι} {query : Query}
    {next : query.Answer → Handler Response} {oracle : Oracle}
    (legal : (protocol.stages (outset requests) steps thread).legal query) :
    Called requests steps
      (current.transition (surroundings admitted) oracle thread query
        next) := by
  rw [stages_outset] at legal
  constructor
  · rw [progressOf, progressOf]
    change Moved _ _ _ _ _ _
      (protocol.stages _ (steps ++ [_]) thread).progress
    rw [Protocol.stages_transition_self]
    exact moved_of_legal oracle legal
  · intro other (different : other ≠ thread)
    rw [progressOf, Protocol.stages_transition_other different]
    rfl
  · exact counts_of_legal legal
  · exact looksUp_of_legal legal
  · exact fun slotId used => slotUsed_of_legal oracle legal used

theorem upTo_asks_other {kind : Query → Bool} {step : ServerStep ι} {other : ι}
    (different : other ≠ step.label.thread) :
    upTo (asks kind other) (steps ++ [step]) = upTo (asks kind other) steps :=
  upTo_snoc_of_passed (by simp [asks, different.symm])

theorem upTo_asks_kind {kind : Query → Bool} {step : ServerStep ι}
    (passed : kind step.label.query = false) (other : ι) :
    upTo (asks kind other) (steps ++ [step]) = upTo (asks kind other) steps :=
  upTo_snoc_of_passed (by simp [asks, passed])

theorem upTo_asks_self {kind : Query → Bool} {step : ServerStep ι}
    (asking : kind step.label.query = true) :
    upTo (asks kind step.label.thread) (steps ++ [step]) = steps ++ [step] :=
  upTo_snoc_of_selected (by simp [asks, asking])

theorem pairsExclusive_snoc {store after : Db} {parts : Parts}
    (added : breeding after = breeding store ++ [parts]) :
    PairsExclusive after ↔
      PairsExclusive store ∧ ∀ other ∈ breeding store, ¬ other.Clash parts := by
  rw [PairsExclusive, added, List.pairwise_append]
  simp [PairsExclusive]

namespace Recorded

variable {store : Db} {step : ServerStep ι}

theorem mem_breeding {other : ι} (recorded : Recorded requests db steps store)
    (inserted : (progressOf requests steps other).Inserted) :
    asked requests other ∈ breeding store := by
  obtain ⟨threads, shape, exactly⟩ := recorded.inserted
  rw [shape]
  apply List.mem_append_right
  exact List.mem_map_of_mem ((exactly other).mpr inserted)

theorem inserted_step (recorded : Recorded requests db steps step.source.store)
    (called : Called requests steps step) :
    ∃ threads : List ι, breeding step.target.store =
        breeding db ++ threads.map (asked requests) ∧
      ∀ thread, thread ∈ threads ↔
        (progressOf requests (steps ++ [step]) thread).Inserted := by
  obtain ⟨threads, shape, exactly⟩ := recorded.inserted
  have moved := called.moved
  have unchanged (same : breeding step.target.store =
        breeding step.source.store)
      (alike : (progressOf requests steps step.label.thread).Inserted ↔
        (progressOf requests (steps ++ [step]) step.label.thread).Inserted) :
      ∃ threads : List ι, breeding step.target.store =
          breeding db ++ threads.map (asked requests) ∧
        ∀ thread, thread ∈ threads ↔
          (progressOf requests (steps ++ [step]) thread).Inserted := by
    refine ⟨threads, same.trans shape, fun other => ?_⟩
    rw [exactly]
    by_cases here : other = step.label.thread
    · rw [here]
      exact alike
    · rw [called.others other here]
  generalize progressOf requests steps step.label.thread = before
    at moved unchanged
  generalize reached : progressOf requests (steps ++ [step]) step.label.thread =
    after at moved unchanged
  cases moved with
  | still same => exact unchanged same Iff.rfl
  | counted same => exact unchanged same (by simp [Progress.Inserted])
  | found same => exact unchanged same (by simp [Progress.Inserted])
  | marked same => exact unchanged same (by simp [Progress.Inserted])
  | inserted added =>
      refine ⟨threads ++ [step.label.thread], ?_, fun other => ?_⟩
      · rw [added, shape, List.map_append, List.append_assoc]
        rfl
      · rw [List.mem_append, List.mem_singleton]
        by_cases here : other = step.label.thread
        · rw [here, reached]
          simp [Progress.Inserted]
        · rw [called.others other here, exactly]
          simp [here]

theorem counted_step (recorded : Recorded requests db steps step.source.store)
    (called : Called requests steps step) (thread : ι)
    (past : progressOf requests (steps ++ [step]) thread ≠ .checking) :
    (∀ other ∈ breeding db, ¬ other.SharesBud (asked requests thread)) ∧
      ∀ other,
        (progressOf requests (upTo (asks counts thread) (steps ++ [step]))
          other).Inserted →
        ¬ (asked requests other).SharesBud (asked requests thread) := by
  by_cases here : thread = step.label.thread
  · subst here
    have moved := called.moved
    by_cases before : progressOf requests steps step.label.thread = .checking
    · rw [before] at moved
      generalize reached : progressOf requests (steps ++ [step])
        step.label.thread = after at moved past
      cases moved with
      | still same => exact absurd rfl past
      | counted same asking unshared =>
          obtain ⟨threads, shape, -⟩ := recorded.inserted
          constructor
          · intro other member
            apply unshared
            rw [shape]
            exact List.mem_append_left _ member
          · intro other inserted
            rw [upTo_asks_self asking] at inserted
            by_cases same : other = step.label.thread
            · rw [same, reached] at inserted
              simp [Progress.Inserted] at inserted
            · rw [called.others other same] at inserted
              exact unshared _ (recorded.mem_breeding inserted)
    · rw [upTo_asks_kind (called.counting before)]
      exact recorded.counted _ before
  · rw [called.others thread here] at past
    rw [upTo_asks_other here]
    exact recorded.counted thread past

theorem found_step (recorded : Recorded requests db steps step.source.store)
    (called : Called requests steps step) (thread : ι)
    (past : progressOf requests (steps ++ [step]) thread ≠ .checking)
    (further : progressOf requests (steps ++ [step]) thread ≠ .counted)
    (other : ι)
    (marked : progressOf requests
      (upTo (asks looksUp thread) (steps ++ [step])) other = .marked) :
    (asked requests other).slotId ≠ (asked requests thread).slotId := by
  by_cases here : thread = step.label.thread
  · subst here
    have moved := called.moved
    by_cases before : progressOf requests steps step.label.thread = .counted
    · rw [before] at moved
      generalize reached : progressOf requests (steps ++ [step])
        step.label.thread = after at moved past further
      cases moved with
      | still same => exact absurd rfl further
      | found same asking unused =>
          rw [upTo_asks_self asking] at marked
          intro sameSlot
          apply unused
          rw [← sameSlot]
          apply recorded.used
          rw [← called.others other, marked]
          rintro rfl
          rw [reached] at marked
          cases marked
    · rw [upTo_asks_kind (called.looking before)] at marked
      refine recorded.found _ (fun checking => ?_) before other marked
      rw [checking] at moved
      generalize progressOf requests (steps ++ [step]) step.label.thread =
        after at moved past further
      cases moved with
      | still same => exact past rfl
      | counted same => exact further rfl
  · rw [called.others thread here] at past further
    rw [upTo_asks_other here] at marked
    exact recorded.found thread past further other marked

theorem used_step (recorded : Recorded requests db steps step.source.store)
    (called : Called requests steps step) (thread : ι)
    (marked : progressOf requests (steps ++ [step]) thread = .marked) :
    SlotUsed step.target.store (asked requests thread).slotId := by
  by_cases here : thread = step.label.thread
  · subst here
    have moved := called.moved
    rw [marked] at moved
    generalize before : progressOf requests steps step.label.thread = progress
      at moved
    cases moved with
    | still same => exact called.kept _ (recorded.used _ before)
    | marked same used => exact used
  · rw [called.others thread here] at marked
    exact called.kept _ (recorded.used thread marked)

theorem snoc (recorded : Recorded requests db steps step.source.store)
    (called : Called requests steps step) :
    Recorded requests db (steps ++ [step]) step.target.store where
  inserted := recorded.inserted_step called
  counted := recorded.counted_step called
  found := recorded.found_step called
  used := recorded.used_step called

/-- The checks of a request let its pair through exactly when no pair that is
breeding clashes with it. -/
theorem undisputed_iff
    (recorded : Recorded requests db steps step.source.store)
    (found : progressOf requests steps step.label.thread = .found) :
    Undisputed requests db steps step ↔
      ∀ other ∈ breeding step.source.store,
        ¬ other.Clash (asked requests step.label.thread) := by
  obtain ⟨threads, shape, exactly⟩ := recorded.inserted
  have counted := recorded.counted step.label.thread (by simp [found])
  have looked := recorded.found step.label.thread (by simp [found])
    (by simp [found])
  constructor
  · intro undisputed other member clash
    rcases clash with sameSlot | shares | crosses
    · rw [shape] at member
      rcases List.mem_append.mp member with first | later
      · exact undisputed.vacant other first sameSlot
      · obtain ⟨thread, inserted, rfl⟩ := List.mem_map.mp later
        have marked := undisputed.marked thread ((exactly thread).mp inserted)
          sameSlot
        exact looked thread marked sameSlot
    · rw [shape] at member
      rcases List.mem_append.mp member with first | later
      · exact counted.1 other first shares
      · obtain ⟨thread, inserted, rfl⟩ := List.mem_map.mp later
        have earlier := undisputed.counted thread ((exactly thread).mp inserted)
          shares
        exact counted.2 thread earlier shares
    · exact undisputed.uncrossed other member crosses
  · intro apart
    constructor
    · intro other member sameSlot
      apply apart other _ (.inl sameSlot)
      rw [shape]
      exact List.mem_append_left _ member
    · intro other member crosses
      exact apart other member (.inr (.inr crosses))
    · intro other inserted shares
      exact absurd (.inr (.inl shares))
        (apart _ (recorded.mem_breeding inserted))
    · intro other inserted sameSlot
      exact absurd (.inl sameSlot) (apart _ (recorded.mem_breeding inserted))

/-- What a call does to the exclusion of the pairs. -/
theorem pairsExclusive_iff
    (recorded : Recorded requests db steps step.source.store)
    (called : Called requests steps step) :
    PairsExclusive step.target.store ↔
      PairsExclusive step.source.store ∧
        (inserts step.label.query step.label.answer = true →
          Undisputed requests db steps step) := by
  have moved := called.moved
  have unchanged
      (same : breeding step.target.store = breeding step.source.store)
      (idle : inserts step.label.query step.label.answer = false) :
      PairsExclusive step.target.store ↔
        PairsExclusive step.source.store ∧
          (inserts step.label.query step.label.answer = true →
            Undisputed requests db steps step) := by
    simp [PairsExclusive, same, idle]
  generalize found : progressOf requests steps step.label.thread = before
    at moved
  generalize progressOf requests (steps ++ [step]) step.label.thread = after
    at moved
  cases moved with
  | still same idle => exact unchanged same idle
  | counted same asking unshared idle => exact unchanged same idle
  | found same asking unused idle => exact unchanged same idle
  | marked same used idle => exact unchanged same idle
  | inserted added inserting =>
      rw [pairsExclusive_snoc added, recorded.undisputed_iff found]
      simp [inserting]

theorem start (requests : ι → Req × CreateBreedPairDto) (db : Db) :
    Recorded requests db [] db where
  inserted := ⟨[], by simp, fun thread => by
    simp [progressOf, outset, Progress.Inserted]⟩
  counted thread past := absurd rfl past
  found thread past := absurd rfl past
  used thread marked := by
    simp [progressOf, outset] at marked

end Recorded

/-- Pairs that are created at the same time exclude each other exactly when no
request inserts its pair past its own checks. -/
theorem exclusive_iff_undisputed
    (history : Interleaving app admitted (creating requests) db steps final)
    (exclusive : PairsExclusive db) :
    PairsExclusive final.store ↔
      Everywhere
        (fun earlier step => inserts step.label.query step.label.answer = true →
          Undisputed requests db earlier step) steps := by
  suffices both : Recorded requests db steps final.store ∧
      (PairsExclusive final.store ↔ Everywhere _ steps) from both.2
  apply Protocol.induct history
    (fun thread => follows_creation app _ (requests thread).2)
    (everywhere_true steps)
  · exact ⟨.start requests db, by simp [exclusive, serving]⟩
  · intro steps current thread query next oracle _ before _ legal _
    obtain ⟨recorded, alike⟩ := before
    have called : Called requests steps (current.transition
        (surroundings admitted) oracle thread query next) :=
      called_of_legal legal
    refine ⟨recorded.snoc called, ?_⟩
    rw [everywhere_snoc, ← alike]
    exact recorded.pairsExclusive_iff called

end Interleavings

/-- One pair of buds, bred twice on one slot. -/
def doubleCreation : Bool → Req × CreateBreedPairDto :=
  fun _ => (alice, ⟨1, 2, 1, none, none⟩)

theorem pairs_created_twice :
    PairsExclusive (breedingAfter 2) ∧
      Interleaving (liveApp .goerli) (fun _ => True) (creating doubleCreation)
        (breedingAfter 2)
        (interleave (liveApp .goerli) (creating doubleCreation)
          (turns 60 (period 0)) (breedingAfter 2)).1
        (interleave (liveApp .goerli) (creating doubleCreation)
          (turns 60 (period 0)) (breedingAfter 2)).2 ∧
      ¬ PairsExclusive (interleave (liveApp .goerli) (creating doubleCreation)
        (turns 60 (period 0)) (breedingAfter 2)).2.store := by
  refine ⟨?_, interleaving_of_schedule _ _ _ _, ?_⟩
  · rw [breedingAfter_succ 1]
    decide +kernel
  · rw [breedingAfter_succ 1]
    decide +kernel

theorem exclusive_iff_undisputed_rivals :
    PairsExclusive (interleave (liveApp .goerli) (creating doubleCreation)
        (turns 60 (period 0)) (breedingAfter 2)).2.store ↔
      Everywhere
        (fun earlier step => inserts step.label.query step.label.answer = true →
          Undisputed doubleCreation (breedingAfter 2) earlier step)
        (interleave (liveApp .goerli) (creating doubleCreation)
          (turns 60 (period 0)) (breedingAfter 2)).1 := by
  apply exclusive_iff_undisputed
    (interleaving_of_schedule (liveApp .goerli) _ _ _)
  rw [breedingAfter_succ 1]
  decide +kernel

end BudBreeding.Occupancy
