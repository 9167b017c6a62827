import WebAuthn.ClientData
import WebAuthn.Cose.Algorithm
import WebAuthn.UserVerification

/-!
# What a relying party accepts

* `Policy` — its id, its origins, and what it asks of users and authenticators;
* `Policy.standard` — the policy of an id and origins with all else left at its default;
* `Policy.ofJson?`, `Policy.toJson` — its JSON form.
-/

namespace WebAuthn

/-- What a relying party accepts. -/
structure Policy where
  rpId : String
  allowedOrigins : List String
  userVerification : UserVerification
  allowCrossOrigin : Bool
  /-- Registered numbers of signature algorithms. -/
  allowedAlgorithms : List Int64
  challengeTimeoutSeconds : UInt64
  deriving DecidableEq

namespace Policy

/-! ### Defaults -/

/-- All supported algorithms, the preferred one first. -/
def defaultAlgorithms : List Int64 :=
  [Cose.Algorithm.es256, .edDsa, .rs256, .ps256].map fun algorithm => Int64.ofInt algorithm.identifier

/-- The seconds for which a challenge can be used by default. -/
def defaultTimeoutSeconds : UInt64 := 300

def standard (rpId : String) (allowedOrigins : List String) : Policy :=
  ⟨rpId, allowedOrigins, .preferred, false, defaultAlgorithms, defaultTimeoutSeconds⟩

/-! ### Questions -/

/-- The part of the policy that is about client data. -/
def origins (policy : Policy) : OriginPolicy :=
  ⟨policy.allowedOrigins, policy.allowCrossOrigin⟩

/-- Whether an algorithm is accepted. -/
def allows (policy : Policy) (algorithm : Int) : Bool :=
  policy.allowedAlgorithms.any fun allowed => allowed.toInt == algorithm

/-! ### JSON -/

/-- The fields in the order of their declaration. -/
def fieldNames : List String :=
  ["rp_id", "allowed_origins", "user_verification", "allow_cross_origin", "allowed_algorithms",
    "challenge_timeout_seconds"]

/-- The level that a text names, alone or as the only member of an object, whose value is null. -/
def userVerificationOfJson? : Json.Value → Option UserVerification
  | .object [(name, .null)] => (Json.Text.toString? name).bind UserVerification.ofName?
  | value => value.text?.bind UserVerification.ofName?

/-- The signed 64-bit integer of a number literal. -/
def int64OfJson? (value : Json.Value) : Option Int64 :=
  (value.integerIn? Int64.minValue.toInt Int64.maxValue.toInt).map Int64.ofInt

/-- The unsigned 64-bit integer of a number literal. -/
def uint64OfJson? (value : Json.Value) : Option UInt64 :=
  (value.integerIn? 0 (UInt64.size - 1)).map fun n => UInt64.ofNat n.toNat

def ofJson? (value : Json.Value) : Option Policy := do
  let fields ← Json.Record.ofValue? fieldNames value
  return {
    rpId := ← fields.required "rp_id" Json.Value.text?
    allowedOrigins := ← fields.required "allowed_origins" (Json.Value.list? Json.Value.text?)
    userVerification := ← fields.withDefault "user_verification" userVerificationOfJson? .preferred
    allowCrossOrigin := ← fields.withDefault "allow_cross_origin" Json.Value.bool? false
    allowedAlgorithms :=
      ← fields.withDefault "allowed_algorithms" (Json.Value.list? int64OfJson?) defaultAlgorithms
    challengeTimeoutSeconds :=
      ← fields.withDefault "challenge_timeout_seconds" uint64OfJson? defaultTimeoutSeconds }

def fields (policy : Policy) : Json.Record :=
  [("rp_id", .ofString policy.rpId),
    ("allowed_origins", .array (policy.allowedOrigins.map Json.Value.ofString)),
    ("user_verification", .ofString policy.userVerification.name),
    ("allow_cross_origin", .bool policy.allowCrossOrigin),
    ("allowed_algorithms", .array (policy.allowedAlgorithms.map fun n => Json.Value.ofInt n.toInt)),
    ("challenge_timeout_seconds", Json.Value.ofInt policy.challengeTimeoutSeconds.toNat)]

def toJson (policy : Policy) : Json.Value :=
  .ofFields policy.fields

end Policy

end WebAuthn
