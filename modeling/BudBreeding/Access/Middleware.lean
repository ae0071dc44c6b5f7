import BudBreeding.Backend.Controllers

namespace BudBreeding.Access

open Backend

/-! Routes and the middleware in front of them (`app.module.ts`,
`middlewares/auth.middleware.ts`). -/

/-- The paths the handler `@Get('')` of `@Controller(controller)` answers. -/
def answers (controller path : String) : Bool :=
  path = "/" ++ controller ∨ path = "/" ++ controller ++ "/"

/-- The paths a middleware registered with `forRoutes(controller + '/*')` runs for. -/
def covers (controller path : String) : Bool :=
  ("/" ++ controller ++ "/").toList.isPrefixOf path.toList

theorem length_route (controller : String) :
    ("/" ++ controller ++ "/").toList.length =
      ("/" ++ controller).toList.length + 1 := by
  rw [String.toList_append, List.length_append]
  rfl

theorem covers_route (controller : String) :
    covers controller ("/" ++ controller ++ "/") = true :=
  List.isPrefixOf_iff_prefix.mpr (List.prefix_refl _)

theorem not_covers_bare (controller : String) :
    covers controller ("/" ++ controller) = false := by
  cases covered : covers controller ("/" ++ controller) with
  | false => rfl
  | true =>
      have shorter := (List.isPrefixOf_iff_prefix.mp covered).length_le
      rw [length_route] at shorter
      omega

theorem route_ne_bare (controller : String) :
    "/" ++ controller ++ "/" ≠ "/" ++ controller := by
  intro same
  have covered := covers_route controller
  rw [same, not_covers_bare] at covered
  cases covered

/-- The middleware misses one of the two paths its controller answers. -/
theorem covers_iff {controller path : String}
    (answered : answers controller path = true) :
    covers controller path = true ↔ path ≠ "/" ++ controller := by
  rcases of_decide_eq_true answered with rfl | rfl
  · rw [not_covers_bare]
    constructor
    · intro covered
      cases covered
    · intro different
      exact absurd rfl different
  · rw [covers_route]
    exact ⟨fun _ => route_ne_bare controller, fun _ => rfl⟩

/-- The library calls of the middleware, `none` where they throw: `jwt.verify`
with the secret of the server, and `getAddress` of `ethers`. -/
structure Server where
  jwtDecodeUser : String → Option AccessToken
  getAddress : String → Option Address

/-- `checksumAddress` of `utils/address.ts`. -/
def Server.checksumAddress (server : Server) (address : Address) : Address :=
  (server.getAddress address.toLower).getD address

/-- `String.prototype.replace` with a text to find and nothing in its place: the
first occurrence goes, the others stay. -/
def removeFirst (found : List Char) : List Char → List Char
  | [] => []
  | char :: rest =>
      if found.isPrefixOf (char :: rest) then (char :: rest).drop found.length
      else char :: removeFirst found rest

def UnauthorizedError (message : String) : Failure :=
  .http ⟨401, "Unauthorized", message⟩

namespace AuthMiddleware

/-- A missing header and an empty token are both falsy. -/
def tokenOf (authorization : Option String) : String :=
  match authorization with
  | none => ""
  | some header =>
      String.ofList (removeFirst "Bearer ".toList header.toList)

def use (server : Server) (authorization : Option String) :
    Except Failure Req := do
  let token := tokenOf authorization
  if token = "" then
    throw (UnauthorizedError "No access token provided")
  else
    match server.jwtDecodeUser token with
    | none => throw (UnauthorizedError "Invalid access token")
    | some decoded =>
        return ⟨server.checksumAddress decoded.address, decoded.gameKeyId⟩

end AuthMiddleware

/-- The address of the valid access token a request carries, if it carries one. -/
def Server.tokenAddress (server : Server) (authorization : Option String) :
    Option Address :=
  match AuthMiddleware.use server authorization with
  | .ok req => some req.user
  | .error _ => none

end BudBreeding.Access
