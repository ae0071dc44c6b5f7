import Mathlib.Data.List.Perm.Lattice
import Mathlib.Data.List.Nodup
import BudBreeding.Access.Middleware
import BudBreeding.Backend.Runs

namespace BudBreeding.Access

open Data Backend

/-! Who sees the gift cards (`gift-card/gift-card.controller.ts`). -/

inductive GiftAmount where
  | USD50
  | USD100
  | USD200
  | USD420
  | USD1000
  | USD5000
  | USD10000
  deriving DecidableEq, Repr

def GiftAmount.name : GiftAmount → String
  | .USD50 => "USD50"
  | .USD100 => "USD100"
  | .USD200 => "USD200"
  | .USD420 => "USD420"
  | .USD1000 => "USD1000"
  | .USD5000 => "USD5000"
  | .USD10000 => "USD10000"

structure GiftCard where
  id : Int
  value : GiftAmount
  createdAt : Time
  updatedAt : Time
  minterAddress : Address
  signature : String
  pairId : Option Int
  deriving DecidableEq, Repr

abbrev GiftCards := Table GiftCard GiftCard.id

/-- The query after its conversion: `id` is what `Number` makes of its text, `none`
for `NaN` and the infinities, and `value` stays a text. -/
structure GiftCardQueryDto where
  id : Option (Option Rat)
  value : Option String
  deriving DecidableEq, Repr

/-- `@IsNumber` refuses `NaN` and the infinities, and it refuses every text, so
that no `value` passes. -/
def GiftCardQueryDto.valid (query : GiftCardQueryDto) : Bool :=
  query.id.all Option.isSome ∧ query.value = none

/-- The filter of the statement; a field that is `undefined` is dropped. -/
structure GiftCardWhere where
  id : Option Rat
  value : Option String
  minterAddress : Option Address

def GiftCardWhere.selects (filter : GiftCardWhere) (card : GiftCard) : Bool :=
  filter.id.all (fun id => (card.id : Rat) = id) ∧
    filter.value.all (fun value => card.value.name = value) ∧
    filter.minterAddress.all (fun address => card.minterAddress = address)

/-- Prisma refuses an `id` that is not the value of an `INTEGER` column. -/
def giftCardFindMany (oracle : Oracle) (filter : GiftCardWhere)
    (cards : GiftCards) : Except Failure (List GiftCard) :=
  if filter.id.all (fun id => (toIntColumn id).isSome) then
    .ok (oracle.arrange (cards.rows.filter filter.selects))
  else
    .error (.prisma .invalidValue)

/-- `user` is `req.user`, `undefined` where no middleware has set it. -/
def GiftCardQueryDto.filter (query : GiftCardQueryDto) (user : Option Address) :
    GiftCardWhere where
  id := query.id.join
  value := query.value
  minterAddress := user

def getGiftCards (oracle : Oracle) (user : Option Address)
    (query : GiftCardQueryDto) (cards : GiftCards) :
    Except Failure (List GiftCard) :=
  giftCardFindMany oracle (query.filter user) cards

/-- A request the router hands to `getGiftCards`. -/
structure GiftCardsRequest where
  path : String
  authorization : Option String
  query : GiftCardQueryDto
  routed : answers "giftCards" path = true

def userOf (server : Server) (request : GiftCardsRequest) :
    Except Failure (Option Address) :=
  if covers "giftCards" request.path then do
    let req ← AuthMiddleware.use server request.authorization
    return some req.user
  else
    return none

def respond (server : Server) (oracle : Oracle) (request : GiftCardsRequest)
    (cards : GiftCards) : Except Failure (List GiftCard) := do
  let user ← userOf server request
  if request.query.valid = false then
    throw .validation
  else
    getGiftCards oracle user request.query cards

/-- Only the owner of a card is shown it. -/
def OwnersOnly (server : Server) (request : GiftCardsRequest) : Prop :=
  ∀ oracle cards shown, respond server oracle request cards = .ok shown →
    ∀ card ∈ shown,
      server.tokenAddress request.authorization = some card.minterAddress

/-- The two tables have the same cards of `address`. -/
def AgreeOn (address : Address) (left right : GiftCards) : Prop :=
  ∀ card, card.minterAddress = address →
    (card ∈ left.rows ↔ card ∈ right.rows)

/-- Without an `ORDER BY` the order of the cards says nothing. -/
def SameResponse : Except Failure (List GiftCard) →
    Except Failure (List GiftCard) → Prop
  | .ok left, .ok right => left.Perm right
  | .error left, .error right => left = right
  | _, _ => False

/-- Without a token of another address, the cards of other addresses do not show
in a response. -/
def Confined (server : Server) (request : GiftCardsRequest) : Prop :=
  ∀ address,
    (∀ other, server.tokenAddress request.authorization = some other →
      other = address) →
    ∀ left right, AgreeOn address left right → ∀ first second,
      SameResponse (respond server first request left)
        (respond server second request right)

def Accepted (query : GiftCardQueryDto) : Prop :=
  query.valid = true ∧
    query.id.join.all (fun id => (toIntColumn id).isSome) = true

section Responses

variable {server : Server} {request : GiftCardsRequest} {oracle : Oracle}
  {cards : GiftCards}

theorem respond_accepted {user : Option Address}
    (passed : userOf server request = .ok user) (accepted : Accepted request.query) :
    respond server oracle request cards =
      .ok (oracle.arrange
        (cards.rows.filter (request.query.filter user).selects)) := by
  unfold respond
  rw [passed]
  change (if request.query.valid = false then throw .validation
    else getGiftCards oracle user request.query cards) = _
  rw [accepted.1, if_neg Bool.false_ne_true.symm, getGiftCards, giftCardFindMany]
  exact if_pos accepted.2

theorem respond_refused
    (refused : (∃ error, userOf server request = .error error) ∨
      ¬ Accepted request.query) :
    ∃ error, ∀ oracle cards, respond server oracle request cards = .error error := by
  cases passed : userOf server request with
  | error error =>
      refine ⟨error, fun oracle cards => ?_⟩
      rw [respond, passed]
      rfl
  | ok user =>
      have query : ¬ Accepted request.query := by
        rcases refused with ⟨error, stopped⟩ | query
        · rw [passed] at stopped
          cases stopped
        · exact query
      cases valid : request.query.valid with
      | false =>
          refine ⟨.validation, fun oracle cards => ?_⟩
          rw [respond, passed]
          change (if request.query.valid = false then throw Failure.validation
            else getGiftCards oracle user request.query cards) = _
          rw [if_pos valid]
          rfl
      | true =>
          refine ⟨.prisma .invalidValue, fun oracle cards => ?_⟩
          rw [respond, passed]
          change (if request.query.valid = false then throw .validation
            else getGiftCards oracle user request.query cards) = _
          rw [valid, if_neg Bool.false_ne_true.symm, getGiftCards,
            giftCardFindMany, if_neg]
          exact fun fits => query ⟨valid, fits⟩

theorem respond_covered (covered : covers "giftCards" request.path = true)
    (accepted : Accepted request.query) :
    (∃ error, ∀ oracle cards,
      respond server oracle request cards = .error error) ∨
    ∃ address, server.tokenAddress request.authorization = some address ∧
      ∀ oracle cards, respond server oracle request cards =
        .ok (oracle.arrange
          (cards.rows.filter (request.query.filter (some address)).selects)) := by
  cases used : AuthMiddleware.use server request.authorization with
  | error error =>
      left
      apply respond_refused
      left
      refine ⟨error, ?_⟩
      rw [userOf, if_pos covered, used]
      rfl
  | ok req =>
      right
      refine ⟨req.user, ?_, fun oracle cards => ?_⟩
      · rw [Server.tokenAddress, used]
      · apply respond_accepted _ accepted
        rw [userOf, if_pos covered, used]
        rfl

theorem respond_bare (bare : request.path = "/giftCards")
    (accepted : Accepted request.query) :
    respond server oracle request cards =
      .ok (oracle.arrange
        (cards.rows.filter (request.query.filter none).selects)) := by
  apply respond_accepted _ accepted
  have missed : covers "giftCards" request.path = false := by
    rw [bare]
    exact not_covers_bare "giftCards"
  rw [userOf, missed, if_neg Bool.false_ne_true]
  rfl

end Responses

section Guarantees

variable {server : Server} {request : GiftCardsRequest}

theorem guarded_of_refused
    (refused : ∃ error, ∀ oracle cards,
      respond server oracle request cards = .error error) :
    OwnersOnly server request ∧ Confined server request := by
  obtain ⟨error, refused⟩ := refused
  constructor
  · intro oracle cards shown answered
    rw [refused] at answered
    cases answered
  · intro address _ left right _ first second
    rw [refused, refused]
    rfl

section Token

variable {address : Address}
  (token : server.tokenAddress request.authorization = some address)
  (found : ∀ oracle cards, respond server oracle request cards =
    .ok (oracle.arrange
      (cards.rows.filter (request.query.filter (some address)).selects)))

include token found

theorem ownersOnly_of_token : OwnersOnly server request := by
  intro oracle cards shown answered card member
  rw [found] at answered
  cases answered
  rw [Oracle.mem_arrange, List.mem_filter] at member
  have owned : card.minterAddress = address :=
    of_decide_eq_true (of_decide_eq_true member.2).2.2
  rw [token, owned]

theorem confined_of_token : Confined server request := by
  intro reader reads left right agree first second
  obtain rfl := reads address token
  rw [found, found]
  apply (first.arrange_perm _).trans
  apply List.Perm.trans _ (second.arrange_perm _).symm
  have distinct : ∀ cards : GiftCards,
      (cards.rows.filter (request.query.filter (some address)).selects).Nodup :=
    fun cards => (List.Nodup.of_map _ cards.nodup).filter _
  apply (List.perm_ext_iff_of_nodup (distinct left) (distinct right)).mpr
  intro card
  rw [List.mem_filter, List.mem_filter]
  apply and_congr_left
  intro selected
  exact agree card (of_decide_eq_true (of_decide_eq_true selected).2.2)

end Token

def stranger (address : Address) : Address :=
  if address = "" then "0" else ""

theorem stranger_ne (address : Address) : stranger address ≠ address := by
  unfold stranger
  split
  · next same =>
      rw [same]
      decide
  · next different => exact fun same => different same.symm

def cardOf (query : GiftCardQueryDto) (minter : Address) : GiftCard where
  id := (query.id.join.bind toIntColumn).getD 1
  value := .USD100
  createdAt := 0
  updatedAt := 0
  minterAddress := minter
  signature := "signed"
  pairId := none

def tableOf (card : GiftCard) : GiftCards :=
  Table.empty.insert card fun _ member => absurd member List.not_mem_nil

theorem selects_cardOf {query : GiftCardQueryDto} (accepted : Accepted query)
    (minter : Address) : (query.filter none).selects (cardOf query minter) = true := by
  have untyped := (of_decide_eq_true accepted.1).2
  have fits := accepted.2
  apply decide_eq_true
  refine ⟨?_, ?_, rfl⟩
  · change query.id.join.all _ = true
    unfold cardOf
    cases asked : query.id.join with
    | none => rfl
    | some number =>
        rw [asked] at fits
        obtain ⟨column, stored⟩ := Option.isSome_iff_exists.mp fits
        simp only [Option.all_some, Option.bind_some, stored, Option.getD_some]
        exact decide_eq_true (toIntColumn_eq_some stored).symm
  · change query.value.all _ = true
    rw [untyped]
    rfl

section Bare

variable (bare : request.path = "/giftCards") (accepted : Accepted request.query)

include bare accepted

theorem not_ownersOnly_of_bare : ¬ OwnersOnly server request := by
  intro owners
  let minter := stranger ((server.tokenAddress request.authorization).getD "")
  have shown := owners (Oracle.agreeable "" 0) (tableOf (cardOf request.query minter)) _
    (respond_bare bare accepted) (cardOf request.query minter)
  rw [Oracle.mem_arrange, List.mem_filter] at shown
  have token := shown ⟨List.mem_singleton.mpr rfl, selects_cardOf accepted minter⟩
  have same : (server.tokenAddress request.authorization).getD "" = minter := by
    rw [token]
    rfl
  exact stranger_ne _ same.symm

theorem not_confined_of_bare : ¬ Confined server request := by
  intro confined
  let reader := (server.tokenAddress request.authorization).getD ""
  let hidden := cardOf request.query (stranger reader)
  have alone : ∀ other, server.tokenAddress request.authorization = some other →
      other = reader := by
    intro other token
    change other = (server.tokenAddress request.authorization).getD ""
    rw [token]
    rfl
  have agree : AgreeOn reader .empty (tableOf hidden) := by
    intro card owned
    constructor
    · intro member
      exact absurd member List.not_mem_nil
    · intro member
      rw [List.mem_singleton.mp member] at owned
      exact absurd owned (stranger_ne reader)
  have same := confined reader alone .empty (tableOf hidden) agree (Oracle.agreeable "" 0)
    (Oracle.agreeable "" 0)
  rw [respond_bare bare accepted, respond_bare bare accepted] at same
  have shown : hidden ∈ (Oracle.agreeable "" 0).arrange
      ((tableOf hidden).rows.filter (request.query.filter none).selects) := by
    rw [Oracle.mem_arrange, List.mem_filter]
    exact ⟨List.mem_singleton.mpr rfl, selects_cardOf accepted _⟩
  have none := same.mem_iff.mpr shown
  rw [Oracle.mem_arrange] at none
  exact absurd none List.not_mem_nil

end Bare

end Guarantees

/-- The cards are private but for a request that the middleware misses. -/
theorem gift_cards_private_iff (server : Server) (request : GiftCardsRequest) :
    (OwnersOnly server request ↔
      ¬ (request.path = "/giftCards" ∧ Accepted request.query)) ∧
    (Confined server request ↔
      ¬ (request.path = "/giftCards" ∧ Accepted request.query)) := by
  have guarded : ¬ (request.path = "/giftCards" ∧ Accepted request.query) →
      OwnersOnly server request ∧ Confined server request := by
    intro covered
    by_cases accepted : Accepted request.query
    · have behind : covers "giftCards" request.path = true :=
        (covers_iff request.routed).mpr fun bare => covered ⟨bare, accepted⟩
      rcases respond_covered behind accepted with refused | found
      · exact guarded_of_refused refused
      · obtain ⟨address, token, found⟩ := found
        exact ⟨ownersOnly_of_token token found, confined_of_token token found⟩
    · exact guarded_of_refused (respond_refused (.inr accepted))
  constructor
  · constructor
    · intro owners missed
      exact not_ownersOnly_of_bare missed.1 missed.2 owners
    · exact fun covered => (guarded covered).1
  · constructor
    · intro confined missed
      exact not_confined_of_bare missed.1 missed.2 confined
    · exact fun covered => (guarded covered).2

def anonymousRequest : GiftCardsRequest where
  path := "/giftCards"
  authorization := none
  query := ⟨none, none⟩
  routed := by decide

def closedServer : Server where
  jwtDecodeUser := fun _ => none
  getAddress := fun _ => none

theorem anonymous_sees_cards :
    ¬ OwnersOnly closedServer anonymousRequest ∧
      ¬ Confined closedServer anonymousRequest := by
  have accepted : Accepted anonymousRequest.query := by
    constructor
    · decide
    · rfl
  exact ⟨not_ownersOnly_of_bare rfl accepted, not_confined_of_bare rfl accepted⟩

end BudBreeding.Access
