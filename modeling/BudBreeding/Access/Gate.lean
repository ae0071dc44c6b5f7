import BudBreeding.Access.Middleware
import BudBreeding.Backend.Api

namespace BudBreeding.Access

open Backend

/-! The calls of the API, and what they have to pass before their handler runs:
the `AuthMiddleware` for users (`app.module.ts`, `user.module.ts`) and the
`AdminGuardStrategy` for admins (`admin.controller.ts`). -/

/-- What users do; the body is that of the request. -/
inductive Action where
  | convertBp2High (body : ConvertBPDto)
  | openSlot (body : OpenSlotDto)
  | convertIndoor (body : OpenSlotDto)
  | purchaseLand
  | invalidatePair (body : InvalidBreedPairDto)
  | createPair (body : CreateBreedPairDto)
  | levelBreedingUp (body : BreedUpDto)
  | cancelBreeding (body : BreedCancelDto)
  | finalizeBreeding (body : BreedFinalizeDto)
  | renameGen1Buds (body : RenameGen1BudDto)

def Action.request (req : Req) : Action → Request
  | .convertBp2High body => .convertBp2High req body
  | .openSlot body => .openSlot req body
  | .convertIndoor body => .convertIndoor req body
  | .purchaseLand => .purchaseLand req
  | .invalidatePair body => .invalidatePair req body
  | .createPair body => .createPair req body
  | .levelBreedingUp body => .levelBreedingUp req body
  | .cancelBreeding body => .cancelBreeding req body
  | .finalizeBreeding body => .finalizeBreeding req body
  | .renameGen1Buds body => .renameGen1Buds req body

/-- What admins do. -/
inductive AdminAction where
  | invalidateBreedingPairByBudId (body : InvalidateBreedingDto)
  | invalidSlotsForGameKey (body : InvalidateSlotsDto)
  | addBreedingPoint (body : BreedingPointDto)
  | withdrawBreedingPoint (body : BreedingPointDto)
  | burnGen0Buds (body : BurnGen0Buds)

def AdminAction.request : AdminAction → Request
  | .invalidateBreedingPairByBudId body => .invalidateBreedingPairByBudId body
  | .invalidSlotsForGameKey body => .invalidSlotsForGameKey body
  | .addBreedingPoint body => .addBreedingPoint body
  | .withdrawBreedingPoint body => .withdrawBreedingPoint body
  | .burnGen0Buds body => .burnGen0Buds body

/-- The server with the key that is configured for its admins. -/
structure Gatekeeper extends Server where
  adminKey : String

namespace AdminGuardStrategy

/-- The second call of `done`, which follows the first one when the keys agree, has
no effect any more. -/
def validate (gatekeeper : Gatekeeper) (adminKey : String) :
    Except Failure Unit :=
  if gatekeeper.adminKey = adminKey then .ok ()
  else .error (UnauthorizedError "Unauthorized")

end AdminGuardStrategy

/-- A call with the header that it is let through by. -/
inductive Call where
  | login (body : LoginDto)
  | action (authorization : Option String) (action : Action)
  | admin (adminKey : Option String) (action : AdminAction)

/-- `login` is excluded from the middleware. -/
def Call.pass (gatekeeper : Gatekeeper) : Call → Except Failure Request
  | .login body => .ok (.login body)
  | .action authorization deed =>
      (AuthMiddleware.use gatekeeper.toServer authorization).map
        fun req => deed.request req
  | .admin none _ => .error (UnauthorizedError "Unauthorized")
  | .admin (some adminKey) deed =>
      (AdminGuardStrategy.validate gatekeeper adminKey).map
        fun _ => deed.request

section Admitted

variable {gatekeeper : Gatekeeper} {request : Request}

theorem decoded_of_use {server : Server} {authorization : Option String}
    {req : Req} (used : AuthMiddleware.use server authorization = .ok req) :
    ∃ decoded, server.jwtDecodeUser (AuthMiddleware.tokenOf authorization) =
        some decoded ∧ req.user = server.checksumAddress decoded.address := by
  rw [AuthMiddleware.use] at used
  split at used
  · cases used
  · split at used
    · cases used
    · next decoded valid =>
        obtain rfl := Except.ok.inj used
        exact ⟨decoded, valid, rfl⟩

theorem use_of_pass {authorization : Option String} {deed : Action}
    (admitted : (Call.action authorization deed).pass gatekeeper =
      .ok request) :
    ∃ req, AuthMiddleware.use gatekeeper.toServer authorization = .ok req ∧
      request = deed.request req := by
  rw [Call.pass] at admitted
  cases used : AuthMiddleware.use gatekeeper.toServer authorization with
  | error failure =>
      rw [used] at admitted
      cases admitted
  | ok req =>
      rw [used] at admitted
      exact ⟨req, rfl, (Except.ok.inj admitted).symm⟩

theorem key_of_pass {adminKey : Option String} {deed : AdminAction}
    (admitted : (Call.admin adminKey deed).pass gatekeeper = .ok request) :
    adminKey = some gatekeeper.adminKey ∧ request = deed.request := by
  cases adminKey with
  | none => cases admitted
  | some key =>
      by_cases same : gatekeeper.adminKey = key
      · rw [Call.pass, AdminGuardStrategy.validate, if_pos same] at admitted
        exact ⟨congrArg some same.symm, (Except.ok.inj admitted).symm⟩
      · rw [Call.pass, AdminGuardStrategy.validate, if_neg same] at admitted
        cases admitted

theorem login_of_pass {call : Call} {body : LoginDto}
    (admitted : call.pass gatekeeper = .ok (.login body)) :
    call = .login body := by
  cases call with
  | login other =>
      obtain rfl := Request.login.inj (Except.ok.inj admitted)
      rfl
  | action authorization deed =>
      obtain ⟨req, -, same⟩ := use_of_pass admitted
      cases deed <;> cases same
  | admin adminKey deed =>
      obtain ⟨-, same⟩ := key_of_pass admitted
      cases deed <;> cases same

end Admitted

end BudBreeding.Access
