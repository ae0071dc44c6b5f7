import BudBreeding.Backend.Runs

namespace BudBreeding.Access

open Data Program Backend

/-! Who receives a token from `login`. -/

/-- The staking contract owns the game key when it should be checked. -/
def Staked (app : App) (oracles : Nat → Oracle) (body : LoginDto) : Prop :=
  (oracles 1).gameKeyOwner body.gameKeyId =
    some (ADDRESSES app.config.network).STAKING

/-- A login that is not entitled to a token ends with an error and leaves the
users and their slots alone. -/
def LoginSound (app : App) (oracles : Nat → Oracle) (db : Db)
    (body : LoginDto) : Prop :=
  Genuine oracles body ∧ Staked app oracles body ∨
    (∃ error, (loginWith app oracles db body).1 = .error error) ∧
      (loginWith app oracles db body).2.user = db.user ∧
      (loginWith app oracles db body).2.breedSlot = db.breedSlot

section Soundness

variable {app : App} {oracles : Nat → Oracle} {db : Db} {body : LoginDto}

theorem unsound_of_unstaked (valid : body.valid = true)
    (genuine : Genuine oracles body) (fits : fitsIntColumn body.gameKeyId = true)
    (unstaked : ¬ Staked app oracles body) :
    ¬ LoginSound app oracles db body := by
  intro sound
  rcases sound with entitled | refused
  · exact unstaked entitled.2
  · obtain ⟨error, failed⟩ := refused.1
    obtain ⟨token, granted⟩ := @login_granted app oracles db body valid genuine fits
    rw [failed] at granted
    cases granted

theorem sound_of_refused {error : Failure}
    (refused : loginWith app oracles db body = (.error error, db)) :
    LoginSound app oracles db body := by
  right
  rw [refused]
  exact ⟨⟨error, rfl⟩, rfl, rfl⟩

/-- `login` is sound but for genuine logins with a key that the column holds and that
is not staked. -/
theorem login_sound_iff :
    LoginSound app oracles db body ↔
      ¬ (body.valid = true ∧ Genuine oracles body ∧
        fitsIntColumn body.gameKeyId = true ∧ ¬ Staked app oracles body) := by
  constructor
  · intro sound request
    obtain ⟨valid, genuine, fits, unstaked⟩ := request
    exact unsound_of_unstaked valid genuine fits unstaked sound
  · intro staked
    by_cases entitled : body.valid = true ∧ Genuine oracles body
    · obtain ⟨valid, genuine⟩ := entitled
      cases fits : fitsIntColumn body.gameKeyId with
      | false =>
          obtain ⟨error, refused⟩ := @login_outside app oracles db body fits valid genuine
          exact sound_of_refused refused
      | true =>
          have owner : Staked app oracles body := by
            by_contra unstaked
            exact staked ⟨valid, genuine, fits, unstaked⟩
          exact .inl ⟨genuine, owner⟩
    · obtain ⟨error, refused⟩ := @login_refused app oracles db body entitled
      exact sound_of_refused refused

end Soundness

/-- `alice` logs in although she holds her game key herself. -/
theorem unstaked_login :
    ¬ LoginSound (liveApp .goerli) (fun _ => .agreeable "alice" (period 0)) .empty
      (loginFrom "alice") := by
  apply unsound_of_unstaked (by decide +kernel) (genuine_loginFrom rfl) rfl
  unfold Staked
  decide +kernel

end BudBreeding.Access
