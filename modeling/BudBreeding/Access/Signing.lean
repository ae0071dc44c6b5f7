import BudBreeding.Data.Packing
import BudBreeding.Access.Callers

namespace BudBreeding.Access

open Data Program Backend

/-! The bytes that `signMintRequest` hashes. -/

abbrev Bytes := List UInt8

def hexBytes : List Char → Option Bytes
  | [] => some []
  | [_] => none
  | high :: low :: rest => do
      let first ← UserService.digitOf 16 high
      let second ← UserService.digitOf 16 low
      let bytes ← hexBytes rest
      return UInt8.ofNat (16 * first + second) :: bytes

/-- `arrayify` of `ethers`, which throws on what is no hexadecimal string. -/
def arrayify (text : String) : Option Bytes :=
  match text.toList with
  | '0' :: 'x' :: digits => hexBytes digits
  | _ => none

/-- A `uint256` field: 32 bytes, negative numbers in two's complement. -/
def uint256 (value : Rat) : Option Bytes :=
  if value.den = 1 ∧ -2 ^ 256 < value.num ∧ value.num < 2 ^ 256 then
    some (bigEndian 32 (value.num % 2 ^ 256).toNat)
  else
    none

def mintTypeName : MintType → String
  | .Gen1Bud => "Gen1Bud"
  | .Land => "Land"
  | .Ticket => "Ticket"
  | .GameItem => "GameItem"
  | .ConvertBP2HIGH => "ConvertBP2HIGH"

/-- `solidityPack` of the fields, with `id` for `utils.id`. -/
def solidityPack (id : String → Vector UInt8 32) (request : MintRequest) :
    Option Bytes := do
  let address ← arrayify request.address
  let tokenId ← uint256 request.tokenId
  let amount ← uint256 request.amount
  let timestamp ← uint256 request.timestamp
  return [address, (id (mintTypeName request.typeString)).toList, tokenId, amount,
    timestamp].flatten

def Word (value : Rat) : Prop :=
  ∃ number : Nat, number < 2 ^ 256 ∧ value = number

/-- The requests that fit into their fields. -/
structure Packable (request : MintRequest) : Prop where
  address : ∃ bytes, arrayify request.address = some bytes ∧ bytes.length = 20
  tokenId : Word request.tokenId
  amount : Word request.amount
  timestamp : Word request.timestamp

/-- Addresses are the same when they spell the same bytes. -/
structure SameRequest (left right : MintRequest) : Prop where
  address : arrayify left.address = arrayify right.address
  typeString : left.typeString = right.typeString
  tokenId : left.tokenId = right.tokenId
  amount : left.amount = right.amount
  timestamp : left.timestamp = right.timestamp

/-- `utils.id` hashes the names of the types to different words. -/
def DistinctNames (id : String → Vector UInt8 32) : Prop :=
  ∀ type other, id (mintTypeName type) = id (mintTypeName other) → type = other

/-- What a request that fits is packed from. -/
structure Fields where
  address : Bytes
  typeString : MintType
  tokenId : Nat
  amount : Nat
  timestamp : Nat
  address_length : address.length = 20
  tokenId_lt : tokenId < 2 ^ 256
  amount_lt : amount < 2 ^ 256
  timestamp_lt : timestamp < 2 ^ 256

def Fields.parts (id : String → Vector UInt8 32) (fields : Fields) : List Bytes :=
  [fields.address, (id (mintTypeName fields.typeString)).toList,
    bigEndian 32 fields.tokenId, bigEndian 32 fields.amount,
    bigEndian 32 fields.timestamp]

structure Fields.Of (request : MintRequest) (fields : Fields) : Prop where
  address : arrayify request.address = some fields.address
  typeString : request.typeString = fields.typeString
  tokenId : (request.tokenId : Rat) = fields.tokenId
  amount : request.amount = fields.amount
  timestamp : (request.timestamp : Rat) = fields.timestamp

section Packing

variable {id : String → Vector UInt8 32} {left right : MintRequest}

theorem uint256_natCast {number : Nat} (fits : number < 2 ^ 256) :
    uint256 number = some (bigEndian 32 number) := by
  have reduced : ((number : Rat).num % 2 ^ 256).toNat = number := by
    rw [Rat.num_natCast]
    omega
  rw [uint256, if_pos, reduced]
  refine ⟨Rat.den_natCast number, ?_, ?_⟩
  · rw [Rat.num_natCast]
    omega
  · rw [Rat.num_natCast]
    exact_mod_cast fits

private theorem two_pow_256 : 2 ^ 256 = 256 ^ 32 := by
  norm_num

theorem length_word {number : Nat} (fits : number < 2 ^ 256) :
    (bigEndian 32 number).length = 32 :=
  length_bigEndian (two_pow_256 ▸ fits)

theorem word_inj {number other : Nat} (fits : number < 2 ^ 256)
    (fitsToo : other < 2 ^ 256) (same : bigEndian 32 number = bigEndian 32 other) :
    number = other :=
  bigEndian_inj (two_pow_256 ▸ fits) (two_pow_256 ▸ fitsToo) same

theorem Fields.widths (id : String → Vector UInt8 32) (fields : Fields) :
    (fields.parts id).map List.length = [20, 32, 32, 32, 32] := by
  simp only [Fields.parts, List.map_cons, List.map_nil, fields.address_length,
    Vector.length_toList, length_word fields.tokenId_lt, length_word fields.amount_lt,
    length_word fields.timestamp_lt]

theorem Packable.exists_fields (id : String → Vector UInt8 32)
    (packable : Packable left) :
    ∃ fields : Fields, fields.Of left ∧
      solidityPack id left = some (fields.parts id).flatten := by
  obtain ⟨address, read, wide⟩ := packable.address
  obtain ⟨tokenId, tokenFits, token⟩ := packable.tokenId
  obtain ⟨amount, amountFits, count⟩ := packable.amount
  obtain ⟨timestamp, timeFits, time⟩ := packable.timestamp
  refine ⟨⟨address, left.typeString, tokenId, amount, timestamp, wide, tokenFits,
    amountFits, timeFits⟩, ⟨read, rfl, token, count, time⟩, ?_⟩
  rw [solidityPack, read, token, count, time, uint256_natCast tokenFits,
    uint256_natCast amountFits, uint256_natCast timeFits]
  rfl

/-- The widths of the fields separate them. -/
theorem Fields.eq_of_flatten_eq
    (distinct : DistinctNames id) {fields others : Fields}
    (same : (fields.parts id).flatten = (others.parts id).flatten) : fields = others := by
  have parts : fields.parts id = others.parts id :=
    List.eq_iff_flatten_eq.mpr
      ⟨same, (fields.widths id).trans (others.widths id).symm⟩
  simp only [Fields.parts, List.cons.injEq, Vector.toList_inj, and_true] at parts
  obtain ⟨address, type, tokenId, amount, timestamp⟩ := parts
  have token := word_inj fields.tokenId_lt others.tokenId_lt tokenId
  have count := word_inj fields.amount_lt others.amount_lt amount
  have time := word_inj fields.timestamp_lt others.timestamp_lt timestamp
  have name := distinct _ _ type
  cases fields
  cases others
  simp only at address token count time name
  subst address token count time name
  rfl

theorem same_of_packed
    (distinct : DistinctNames id) (packable : Packable left) (packableToo : Packable right)
    (same : solidityPack id left = solidityPack id right) : SameRequest left right := by
  obtain ⟨fields, first, packed⟩ := packable.exists_fields id
  obtain ⟨others, second, packedToo⟩ := packableToo.exists_fields id
  rw [packed, packedToo, Option.some_inj] at same
  obtain rfl := Fields.eq_of_flatten_eq distinct same
  constructor
  · rw [first.address, second.address]
  · rw [first.typeString, second.typeString]
  · exact_mod_cast first.tokenId.trans second.tokenId.symm
  · rw [first.amount, second.amount]
  · exact_mod_cast first.timestamp.trans second.timestamp.symm

end Packing

section Endpoints

/-- The endpoint that a type and a token belong to, by its place in the list. -/
def callerOf (typeString : MintType) (tokenId : Int) : Nat :=
  match typeString with
  | .Gen1Bud => 0
  | .Ticket => 1
  | .GameItem =>
      if tokenId = GameItem.ROLLING_PAPER then 2
      else if tokenId = GameItem.HOODIE then 3
      else if tokenId = GameItem.WEED_DR_PASS then 4
      else if tokenId = GameItem.FARMER_PASS then 5
      else 6
  | .ConvertBP2HIGH => 7
  | .Land => 8

theorem callerOf_request (endpoint : Endpoint) :
    callerOf endpoint.request.typeString endpoint.request.tokenId =
      endpoint.ctorIdx := by
  cases endpoint <;> rfl

/-- Two requests that fit are hashed from the same bytes only when they are the same
request, and only when the same endpoint has them signed, in whatever calls. -/
theorem mint_requests_distinct (id : String → Vector UInt8 32)
    (distinct : DistinctNames id) :
    (∀ left right : MintRequest, Packable left → Packable right →
      solidityPack id left = solidityPack id right → SameRequest left right) ∧
    (∀ first second : Endpoint, Packable first.request → Packable second.request →
      solidityPack id first.request = solidityPack id second.request →
      first.ctorIdx = second.ctorIdx ∧ SameRequest first.request second.request) ∧
    ∀ (first second : Caller) (left right : MintRequest),
      first.HasSigned left → second.HasSigned right →
      Packable left → Packable right →
      solidityPack id left = solidityPack id right →
      first.ctorIdx = second.ctorIdx ∧ SameRequest left right := by
  have told : ∀ first second : Endpoint, Packable first.request →
      Packable second.request →
      solidityPack id first.request = solidityPack id second.request →
      first.ctorIdx = second.ctorIdx ∧ SameRequest first.request second.request := by
    intro first second packable packableToo same
    have alike := same_of_packed distinct packable packableToo same
    refine ⟨?_, alike⟩
    rw [← callerOf_request, ← callerOf_request, alike.typeString, alike.tokenId]
  refine ⟨?_, told, ?_⟩
  · intro left right packable packableToo same
    exact same_of_packed distinct packable packableToo same
  · intro first second left right signs signsToo packable packableToo same
    obtain ⟨endpoint, own, rfl⟩ := Caller.makes_of_hasSigned signs
    obtain ⟨other, ownToo, rfl⟩ := Caller.makes_of_hasSigned signsToo
    rw [← own, ← ownToo]
    exact told endpoint other packable packableToo same

/-- What `utils.id` makes of the names of the types. -/
def keccakOfName (name : String) : Vector UInt8 32 :=
  let digest : Nat :=
    if name = "Gen1Bud" then
      0x78e502701d66f777ae07513fa2a5bea5131db429945452159f2d39824f55df53
    else if name = "Land" then
      0xe00be196005ee459c06fe10b71e524927448e2a0f78b75d6c82d61f5fd9b7907
    else if name = "Ticket" then
      0xadc9ea83d7d69e1f89766083ed31732a556805d45b99c35409751054a912085a
    else if name = "GameItem" then
      0x51b958dd375f8663134c14706470f33acc5af5c390a38836bfdebf4a5baef927
    else if name = "ConvertBP2HIGH" then
      0x5a4357108099264cc500a878a1a19d8b02548b620f09ca8493aceed9e3ea5eb6
    else 0
  Vector.ofFn fun place => UInt8.ofNat (digest / 256 ^ (31 - place.val))

theorem distinctNames_keccakOfName : DistinctNames keccakOfName := by
  intro type other same
  cases type <;> cases other <;>
    first
    | rfl
    | exact absurd same (by decide +kernel)

def conversionOf (user : Address) : Endpoint :=
  .convertBp2High user 10 1650000000000

def mixedCase : Address := "0x8b29E498a4F7e876fc310FE25BEFAb44515244E3"

def lowerCase : Address := "0x8b29e498a4f7e876fc310fe25befab44515244e3"

theorem packable_conversionOf {user : Address}
    (twenty : (arrayify user).map List.length = some 20) :
    Packable (conversionOf user).request := by
  constructor
  · exact Option.map_eq_some_iff.mp twenty
  · exact ⟨0, by norm_num, rfl⟩
  · exact ⟨1000, by norm_num, by norm_num [conversionOf, Endpoint.request]⟩
  · exact ⟨1650000000000, by norm_num, rfl⟩

def convertBy (user : Address) : Caller :=
  .convertBp2High ⟨user, 7⟩ ⟨10⟩

theorem hasSigned_convertBy (user : Address) :
    (convertBy user).HasSigned (conversionOf user).request :=
  .inr ⟨some ⟨user, "", none, 10⟩, .inr ⟨(1650000000000 : Int), .inl rfl⟩⟩

/-- One user's address in two spellings. -/
theorem mint_requests_distinct_spelled :
    (convertBy mixedCase).HasSigned (conversionOf mixedCase).request ∧
      (convertBy lowerCase).HasSigned (conversionOf lowerCase).request ∧
      (convertBy mixedCase).ctorIdx = (convertBy lowerCase).ctorIdx ∧
      SameRequest (conversionOf mixedCase).request (conversionOf lowerCase).request := by
  have spelled : arrayify mixedCase = arrayify lowerCase := by decide +kernel
  refine ⟨hasSigned_convertBy _, hasSigned_convertBy _, ?_⟩
  refine (mint_requests_distinct keccakOfName distinctNames_keccakOfName).2.2 _ _ _ _
    (hasSigned_convertBy _) (hasSigned_convertBy _)
    (packable_conversionOf (by decide +kernel)) (packable_conversionOf (by decide +kernel)) ?_
  rw [solidityPack, solidityPack, conversionOf, conversionOf, Endpoint.request,
    Endpoint.request, spelled]

end Endpoints

end BudBreeding.Access
