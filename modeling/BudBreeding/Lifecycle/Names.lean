import BudBreeding.Backend.Runs
import BudBreeding.Data.Names

namespace BudBreeding.Lifecycle

open Data Program Backend

/-! The names players choose for their Gen1 buds. -/

/-- The bud a rename request names, and its name. -/
def renamed (step : Transition Db Exchange) : Option (Int × String) :=
  match step.label.request, step.label.response with
  | .renameGen1Buds _ body, .ok (.gen1Bud (some _)) =>
      some (body.budId, BudController.trim body.name)
  | _, _ => none

def chosenNames (steps : List (Transition Db Exchange)) : Registry Int String :=
  Registry.record (steps.filterMap renamed)

/-- A rename of the bud has succeeded; nothing else sets the name of a bud that exists. -/
def NameChosen (steps : List (Transition Db Exchange)) (bud : Gen1Bud) : Prop :=
  ∃ step ∈ steps, ∃ name, renamed step = some (bud.id, name)

def nameOf (db : Db) : Registry Int String := fun id =>
  (db.gen1Bud.find id).map fun bud => bud.name

def KeepsNames (db after : Db) : Prop :=
  ∀ id name, nameOf db id = some name → nameOf after id = some name

def Unborne (name : String) (db : Db) : Prop :=
  ∀ bud ∈ db.gen1Bud.rows, BudController.sqlTrim bud.name ≠ BudController.trim name

/-- The buds bear the names that the registry has for them, each trimmed and each for
one bud. -/
structure Registered (registry : Registry Int String) (db : Db) : Prop where
  borne : ∀ id name, registry id = some name → nameOf db id = some name
  trimmed : ∀ id name, registry id = some name → BudController.sqlTrim name = name
  exclusive : registry.Exclusive

theorem isWhiteSpace_of_space (char : Char) (space : decide (char = ' ') = true) :
    BudController.isWhiteSpace char = true := by
  obtain rfl := of_decide_eq_true space
  decide

/-- A name without white space at its ends has no spaces there. -/
theorem sqlTrim_trim (name : String) :
    BudController.sqlTrim (BudController.trim name) = BudController.trim name := by
  change String.ofList (strip _ (String.ofList (strip _ _)).toList) =
    String.ofList (strip _ _)
  rw [String.toList_ofList, strip_strip_of_wider isWhiteSpace_of_space]

section Names

variable {db after : Db} {id : Int} {name : String}

theorem nameOf_of_mem {bud : Gen1Bud} (listed : bud ∈ db.gen1Bud.rows) :
    nameOf db bud.id = some bud.name := by
  rw [nameOf, Table.find_eq_some.mpr ⟨listed, rfl⟩]
  rfl

theorem exists_of_nameOf (named : nameOf db id = some name) :
    ∃ bud ∈ db.gen1Bud.rows, bud.id = id ∧ bud.name = name := by
  obtain ⟨bud, found, same⟩ := Option.map_eq_some_iff.mp named
  obtain ⟨listed, keyed⟩ := Table.find_eq_some.mp found
  exact ⟨bud, listed, keyed, same⟩

theorem nameOf_rename (db : Db) (budId : Int) (name : String) (id : Int) :
    nameOf (db.updateGen1Bud budId (.name name)) id =
      if id = budId then (nameOf db id).map fun _ => name else nameOf db id := by
  rw [nameOf, nameOf, Db.updateGen1Bud, Serial.find_modify, Option.map_map]
  cases found : db.gen1Bud.find id with
  | none => simp
  | some bud =>
      obtain ⟨-, rfl⟩ := Table.find_eq_some.mp found
      by_cases same : bud.id = budId
      · simp [same, Gen1BudUpdate.apply]
      · simp [same]

end Names

namespace KeepsNames

variable {db after : Db}

theorem of_same (same : after.gen1Bud = db.gen1Bud) : KeepsNames db after := by
  intro id name named
  rw [nameOf, same]
  exact named

theorem created (same : after.gen1Bud = db.gen1Bud) (data : Gen1BudCreate) (now : Time) :
    KeepsNames db (after.createGen1Bud data now) := by
  intro id name named
  obtain ⟨bud, listed, rfl, rfl⟩ := exists_of_nameOf named
  rw [← same] at listed
  exact nameOf_of_mem (List.mem_append_left _ listed)

theorem signed (keeps : KeepsNames db after) (budId : Int) (signature : String) :
    KeepsNames db (after.updateGen1Bud budId (.signature signature)) := by
  intro id name named
  obtain ⟨bud, listed, rfl, rfl⟩ := exists_of_nameOf (keeps id name named)
  obtain ⟨row, listed, same, kept⟩ : ∃ row ∈ (after.updateGen1Bud budId
      (.signature signature)).gen1Bud.rows, row.id = bud.id ∧ row.name = bud.name := by
    refine ⟨_, Serial.mem_modify.mpr ⟨bud, listed, rfl⟩, ?_⟩
    split <;> exact ⟨rfl, rfl⟩
  rw [← same, ← kept]
  exact nameOf_of_mem listed

end KeepsNames

section Steps

variable {app : App} {admitted : Oracle → Prop} {db after : Db}
  {registry : Registry Int String}

/-- A rename succeeds only with a name no bud bears. -/
theorem ensures_unborne (req : Req) (body : RenameGen1BudDto) :
    (surroundings admitted).Ensures (handle app (.renameGen1Buds req body))
      (fun result _ => ∀ row, result = .ok (.gen1Bud (some row)) →
        Unborne body.name db) db := by
  unfold handle validated
  refine World.reads_throwIf.ensures_bind ?_ fun _ _ => ?_
  · exact fun _ row impossible => nomatch impossible
  rw [World.ensures_map]
  refine (returns_ask (.gen1BudFindFirst _) rfl).ensures_bind fun found _ => ?_
  cases found with
  | none => exact World.ensures_throw.mpr fun row impossible => nomatch impossible
  | some bud =>
      refine (returns_ask .dateNow rfl).ensures_bind fun now _ => ?_
      refine World.reads_throwIf.ensures_bind ?_ fun _ _ => ?_
      · exact fun _ row impossible => nomatch impossible
      refine (returns_checkBudName _).ensures_bind fun isValid unborne => ?_
      cases isValid with
      | false => exact World.ensures_throw.mpr fun row impossible => nomatch impossible
      | true =>
          intro result final _ row _
          exact unborne rfl

/-- Only a rename changes the names of buds that exist. -/
theorem keepsNames_of_outcome {request : Request} {response : Except Failure Response}
    (outcome : Outcome app admitted db request response after)
    (other : renamed ⟨db, ⟨request, response⟩, after⟩ = none) : KeepsNames db after := by
  cases outcome with
  | gen1Renamed => cases other
  | loggedIn =>
      exact .of_same (((Db.sameBut_upsertUser _ _ _ _).gen1Bud (by decide)).trans
        ((Db.sameBut_addSlots _ _ _).gen1Bud (by decide)))
  | slotOpened listed own closed charged =>
      exact .of_same charged.gen1Bud
  | slotConverted listed own outdoor charged =>
      exact .of_same charged.gen1Bud
  | landPurchased charged =>
      exact .of_same (((Db.sameBut_addSlots _ _ _).gen1Bud (by decide)).trans
        charged.gen1Bud)
  | @pairRejected req body slot =>
      exact .of_same (db.gen1Bud_upgradeSlot body slot)
  | @levelClashed req body slot =>
      exact .of_same (db.gen1Bud_upgradeSlot body slot)
  | @pairCreated req body slot metadatas rate now after granted started =>
      exact .of_same (started.gen1Bud.trans
        (db.gen1Bud_upgradeSlot body slot))
  | levelCharged granted charged =>
      exact .of_same charged.gen1Bud
  | levelEvaluated granted charged =>
      exact .of_same charged.gen1Bud
  | leveledUp granted charged evaluable started =>
      exact .of_same (started.gen1Bud.trans
        charged.gen1Bud)
  | finalizeUnsigned granted next =>
      exact .created next.gen1Bud _ _
  | finalizeWon granted next =>
      exact (KeepsNames.created next.gen1Bud _ _).signed _ _
  | burnUnsigned granted allowed unsigned => exact .created rfl _ _
  | burnUnlogged granted unlogged => exact (KeepsNames.created rfl _ _).signed _ _
  | burnWon granted logged => exact (KeepsNames.created rfl _ _).signed _ _
  | _ => exact .of_same rfl

namespace Registered

theorem kept (registered : Registered registry db) (keeps : KeepsNames db after) :
    Registered registry after where
  borne id name held := keeps id name (registered.borne id name held)
  trimmed := registered.trimmed
  exclusive := registered.exclusive

/-- A name that no bud bears is free in the registry, as both trims leave the names
there alone. -/
theorem free (registered : Registered registry db) {name : String}
    (unborne : Unborne name db) : registry.Free (BudController.trim name) := by
  intro id held
  obtain ⟨bud, listed, -, same⟩ := exists_of_nameOf (registered.borne id _ held)
  apply unborne bud listed
  rw [same]
  exact registered.trimmed id _ held

theorem renamed {budId : Int} {name : String} {bud : Gen1Bud}
    (registered : Registered registry db) (unborne : Unborne name db)
    (listed : bud ∈ db.gen1Bud.rows) (own : bud.id = budId) :
    Registered (registry.claim (budId, BudController.trim name))
      (db.updateGen1Bud budId (.name (BudController.trim name))) where
  borne id chosen held := by
    rw [nameOf_rename]
    rcases Registry.claim_eq_some.mp held with ⟨rfl, rfl⟩ | ⟨other, held⟩
    · rw [if_pos rfl, ← own, nameOf_of_mem listed]
      rfl
    · rw [if_neg other]
      exact registered.borne id chosen held
  trimmed id chosen held := by
    rcases Registry.claim_eq_some.mp held with ⟨-, rfl⟩ | ⟨-, held⟩
    · exact sqlTrim_trim name
    · exact registered.trimmed id chosen held
  exclusive := registered.exclusive.claim (registered.free unborne)

end Registered

end Steps

section Runs

variable {app : App} {admitted : Oracle → Prop} {final : Db}
  {steps : List (Transition Db Exchange)}

theorem chosenNames_snoc (steps : List (Transition Db Exchange))
    (last : Transition Db Exchange) :
    chosenNames (steps ++ [last]) =
      (renamed last).elim (chosenNames steps) (chosenNames steps).claim := by
  rw [chosenNames, List.filterMap_append]
  cases given : renamed last with
  | none => simp [given, chosenNames]
  | some entry => simp [given, chosenNames, Registry.record_concat]

theorem renamed_of_handles {db after : Db} {exchange : Exchange} {entry : Int × String}
    (handled : Handles app admitted db exchange after)
    (success : renamed ⟨db, exchange, after⟩ = some entry) :
    ∃ req body, exchange.request = .renameGen1Buds req body ∧
      entry = (body.budId, BudController.trim body.name) ∧ Unborne body.name db ∧
      (∃ bud ∈ db.gen1Bud.rows, bud.id = body.budId) ∧
      after = db.updateGen1Bud body.budId (.name (BudController.trim body.name)) := by
  obtain ⟨request, response⟩ := exchange
  unfold renamed at success
  split at success
  · next req body row asked answered =>
    dsimp only at asked answered
    subst asked answered
    have unborne := ensures_unborne req body _ _ handled row rfl
    cases outcome_of_handles handled with
    | gen1Renamed listed own =>
        exact ⟨req, body, rfl, (Option.some.inj success).symm, unborne,
          ⟨_, listed, own.1⟩, rfl⟩
  · cases success

/-- The run lemma: the buds bear the names chosen last. -/
theorem registered_of_run (run : Run app admitted .empty steps final) :
    Registered (chosenNames steps) final := by
  induction run with
  | nil =>
      refine ⟨?_, ?_, Registry.exclusive_empty⟩
      · intro id name held
        cases held
      · intro id name held
        cases held
  | @snoc steps current target exchange earlier handled induction =>
      rw [chosenNames_snoc]
      cases given : renamed ⟨current, exchange, target⟩ with
      | none =>
          exact induction.kept
            (keepsNames_of_outcome (outcome_of_handles handled) given)
      | some entry =>
          obtain ⟨req, body, -, rfl, unborne, ⟨bud, listed, own⟩, rfl⟩ :=
            renamed_of_handles handled given
          exact induction.renamed unborne listed own

theorem name_of_chosen (run : Run app admitted .empty steps final) {bud : Gen1Bud}
    (listed : bud ∈ final.gen1Bud.rows) (chosen : NameChosen steps bud) :
    chosenNames steps bud.id = some bud.name := by
  obtain ⟨step, member, name, given⟩ := chosen
  obtain ⟨held, same⟩ := Registry.exists_record (List.mem_filterMap.mpr ⟨step, member, given⟩)
  have borne := (registered_of_run run).borne _ _ same
  rw [nameOf_of_mem listed] at borne
  rw [borne]
  exact same

/-- Chosen names are unique, and a name is chosen only when no other bud bears it. -/
theorem chosen_names_unique (run : Run app admitted .empty steps final) :
    (∀ first ∈ final.gen1Bud.rows, ∀ second ∈ final.gen1Bud.rows, first ≠ second →
      NameChosen steps first → NameChosen steps second → first.name ≠ second.name) ∧
    ∀ step ∈ steps, ∀ req body row,
      step.label = ⟨.renameGen1Buds req body, .ok (.gen1Bud (some row))⟩ →
      ∀ bud, bud ∈ step.source.gen1Bud.rows ∨ bud ∈ step.target.gen1Bud.rows →
        bud.id ≠ body.budId →
          BudController.sqlTrim bud.name ≠ BudController.trim body.name := by
  constructor
  · intro first listed second member apart firstChosen secondChosen same
    have firstHeld := name_of_chosen run listed firstChosen
    have secondHeld := name_of_chosen run member secondChosen
    rw [← same] at secondHeld
    apply apart
    apply final.gen1Bud.eq_of_key_eq listed member
    exact (registered_of_run run).exclusive _ _ _ firstHeld secondHeld
  · intro step member req body row label bud borne other
    obtain ⟨-, -, handled⟩ := run.source_mem_states member
    obtain ⟨source, exchange, target⟩ := step
    dsimp only at label handled borne
    subst label
    have success : renamed ⟨source, ⟨.renameGen1Buds req body, .ok (.gen1Bud (some row))⟩,
        target⟩ = some (body.budId, BudController.trim body.name) := rfl
    obtain ⟨_, _, asked, -, unborne, -, left⟩ := renamed_of_handles handled success
    cases asked
    cases borne with
    | inl before => exact unborne bud before
    | inr after =>
        rw [left] at after
        rcases Serial.of_mem_modify after with ⟨old, -, own, rfl⟩ | ⟨before, -⟩
        · exact absurd (of_decide_eq_true own) other
        · exact unborne bud before

end Runs

section Examples

/-- Two pairs are burnt for `alice`, who names both rewards. -/
def namingScript : List (Request × Oracle) :=
  [(.burnGen0Buds ⟨⟨"alice", "first", 1, "goerli"⟩, 1, 2⟩,
      .agreeable (ADDRESSES .goerli).BUD_BURN (period 0)),
    (.burnGen0Buds ⟨⟨"alice", "second", 2, "goerli"⟩, 3, 4⟩,
      .agreeable (ADDRESSES .goerli).BUD_BURN (period 0)),
    (.renameGen1Buds alice ⟨1, " Kush"⟩, .agreeable "alice" (period 0)),
    (.renameGen1Buds alice ⟨2, "Haze\t"⟩, .agreeable "alice" (period 0))]

def namingSteps : List (Transition Db Exchange) :=
  [loginStep] ++ (serve (liveApp .goerli) namingScript signedUp).1

def namedBuds : Db :=
  (serve (liveApp .goerli) namingScript signedUp).2

theorem run_namingScript :
    Run (liveApp .goerli) (fun _ => True) .empty namingSteps namedBuds :=
  run_serve (fun _ _ => trivial) (run_loginStep trivial)

theorem chosen_names_unique_naming :
    ∃ first ∈ namedBuds.gen1Bud.rows, ∃ second ∈ namedBuds.gen1Bud.rows,
      first.id = 1 ∧ second.id = 2 ∧ first.name ≠ second.name := by
  have kush : ∃ step ∈ namingSteps, renamed step = some (1, "Kush") := by
    decide +kernel
  have haze : ∃ step ∈ namingSteps, renamed step = some (2, "Haze") := by
    decide +kernel
  obtain ⟨first, listed, one⟩ : ∃ first ∈ namedBuds.gen1Bud.rows, first.id = 1 := by
    decide +kernel
  obtain ⟨second, member, two⟩ : ∃ second ∈ namedBuds.gen1Bud.rows, second.id = 2 := by
    decide +kernel
  refine ⟨first, listed, second, member, one, two, ?_⟩
  apply (chosen_names_unique run_namingScript).1 first listed second member
  · rintro rfl
    rw [one] at two
    cases two
  · obtain ⟨step, taken, given⟩ := kush
    rw [← one] at given
    exact ⟨step, taken, "Kush", given⟩
  · obtain ⟨step, taken, given⟩ := haze
    rw [← two] at given
    exact ⟨step, taken, "Haze", given⟩

end Examples

end BudBreeding.Lifecycle
