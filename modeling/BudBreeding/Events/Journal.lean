import BudBreeding.Backend.Runs

namespace BudBreeding.Events

open Data Program Backend

/-! The event log as a journal of the chain events that have been handled. -/

/-- A transaction hash together with the type of its event. -/
abbrev ChainEvent := String × EventType

def Logged (event : ChainEvent) (db : Db) : Prop :=
  ∃ log ∈ db.eventServiceLog.rows, (log.txHash, log.type) = event

variable {db after : Db} {event : ChainEvent}

theorem logged_congr (same : after.eventServiceLog = db.eventServiceLog) :
    Logged event after ↔ Logged event db := by
  unfold Logged
  rw [same]

theorem logged_create {data : EventServiceLogCreate} {block : Int} :
    Logged event (db.createEventServiceLog data block) ↔
      Logged event db ∨ (data.txHash, data.type) = event := by
  constructor
  · intro given
    obtain ⟨log, member, same⟩ := given
    rcases List.mem_append.mp member with old | last
    · exact .inl ⟨log, old, same⟩
    · rw [List.mem_singleton.mp last] at same
      exact .inr same
  · rintro (⟨log, member, same⟩ | same)
    · exact ⟨log, List.mem_append_left _ member, same⟩
    · exact ⟨_, List.mem_append_right _ List.mem_cons_self, same⟩

theorem logged_setBreedingPoint {address : Address} {column : Int} :
    Logged event (db.setBreedingPoint address column) ↔ Logged event db :=
  Iff.rfl

theorem not_logged_of_unhandled {app : App} {body : AdminDtoBase}
    {type : EventType} (unhandled : Unhandled app db body type) :
    ¬ Logged (body.txHash, type) db := by
  intro given
  obtain ⟨log, member, same⟩ := given
  exact unhandled.fresh log member (Prod.mk.inj same)

/-- Log rows are never changed or removed. -/
theorem logged_exec (oracle : Oracle) (query : Query)
    (logged : Logged event db) : Logged event (exec oracle query db).2 := by
  by_cases written : query.written = some .eventServiceLog
  · cases query with
    | eventServiceLogCreate data =>
        simp only [exec]
        split
        · exact logged
        · split
          · exact logged
          · exact logged_create.mpr (.inl logged)
    | _ => simp [Query.written] at written
  · exact (logged_congr ((exec_sameBut oracle query db).eventServiceLog
      written)).mpr logged

theorem logged_of_handles {app : App} {admitted : Oracle → Prop}
    {exchange : Exchange} (logged : Logged event db)
    (handles : Handles app admitted db exchange after) : Logged event after := by
  suffices every : (surroundings admitted).Ensures
      (handle app exchange.request) (fun _ last => Logged event last) db from
    every _ _ handles
  apply World.ensures_of_uses _ (Prog.uses_all _) logged
  intro query _ state oracle _ before
  exact logged_exec oracle query before

end BudBreeding.Events
