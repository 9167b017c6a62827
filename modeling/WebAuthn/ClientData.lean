import WebAuthn.Challenge
import WebAuthn.Json.Record

/-!
# Client data

What the browser says about a ceremony: which kind it is, for which challenge and from which origin.

* `Ceremony` — the two kinds, and their names in client data;
* `ClientData`, `ClientData.parse` — the members that matter and their reader; `ClientData.toJson` writes them;
* `OriginPolicy` — which origins a relying party accepts;
* `ClientData.verify` — the four checks in their order, and `ClientData.accept`, which reads and checks.
-/

namespace WebAuthn

inductive Ceremony where
  | registration
  | authentication
  deriving DecidableEq, Repr

def Ceremony.name : Ceremony → String
  | .registration => "webauthn.create"
  | .authentication => "webauthn.get"

/-- The two names differ. -/
theorem Ceremony.name_injective {a b : Ceremony} (h : a.name = b.name) : a = b := by
  revert h
  cases a <;> cases b <;> decide

structure ClientData where
  type : String
  challenge : String
  origin : String
  crossOrigin : Option Bool
  topOrigin : Option String
  deriving DecidableEq, Repr

namespace ClientData

/-! ### Reading and writing -/

/-- The names of the members that matter. -/
def memberNames : List String :=
  ["type", "challenge", "origin", "crossOrigin", "topOrigin"]

def ofJson? (value : Json.Value) : Option ClientData := do
  let fields ← Json.Record.ofValue? memberNames value
  return {
    type := ← fields.required "type" Json.Value.text?
    challenge := ← fields.required "challenge" Json.Value.text?
    origin := ← fields.required "origin" Json.Value.text?
    crossOrigin := ← fields.optional "crossOrigin" Json.Value.bool?
    topOrigin := ← fields.optional "topOrigin" Json.Value.text? }

/-- The members of client data; options that are not set are left out. -/
def fields (data : ClientData) : Json.Record :=
  [("type", .ofString data.type), ("challenge", .ofString data.challenge),
    ("origin", .ofString data.origin)] ++
  data.crossOrigin.toList.map (fun b => ("crossOrigin", .bool b)) ++
  data.topOrigin.toList.map (fun s => ("topOrigin", .ofString s))

def toJson (data : ClientData) : Json.Value :=
  .ofFields data.fields

def parse (json : Bytes) : Audited ClientData :=
  match (Json.parse? json).bind ofJson? with
  | some data => pure data
  | none => .refuseWith (.invalidClientData .json) .debug "client data is not valid json"

/-- Whether the ceremony ran in a frame of another origin. -/
def isCrossOrigin (data : ClientData) : Bool :=
  data.crossOrigin.getD false

end ClientData

/-! ### Checks -/

/-- Which origins a relying party accepts. -/
structure OriginPolicy where
  allowedOrigins : List String
  /-- Whether ceremonies in frames of another origin are accepted. -/
  allowCrossOrigin : Bool
  deriving DecidableEq, Repr

def requireClientData (condition : Bool) (part : ClientDataPart) : Audited Unit :=
  if condition then pure ()
  else .refuseWith (.invalidClientData part) .warn s!"client data validation failed -> {part.name}"

namespace ClientData

def hasChallenge (data : ClientData) (expected : Challenge) : Bool :=
  match Base64Url.decode data.challenge with
  | .ok presented => expected.accepts presented
  | .error _ => false

def verifyType (data : ClientData) (ceremony : Ceremony) : Audited Unit :=
  requireClientData (data.type = ceremony.name) .type

def verifyChallenge (data : ClientData) (expected : Challenge) : Audited Unit :=
  requireClientData (data.hasChallenge expected) .challenge

def verifyOrigin (data : ClientData) (policy : OriginPolicy) : Audited Unit :=
  requireClientData (policy.allowedOrigins.contains data.origin) .origin

/-- Fails if the ceremony ran in a frame of another origin and that is not accepted. -/
def verifyCrossOrigin (data : ClientData) (policy : OriginPolicy) : Audited Unit :=
  requireClientData (!data.isCrossOrigin || policy.allowCrossOrigin) .crossOrigin

def verify (data : ClientData) (policy : OriginPolicy) (ceremony : Ceremony) (expected : Challenge) :
    Audited Unit := do
  data.verifyType ceremony
  data.verifyChallenge expected
  data.verifyOrigin policy
  data.verifyCrossOrigin policy

/-- The client data of a JSON text that passes the four checks. -/
def accept (json : Bytes) (policy : OriginPolicy) (ceremony : Ceremony) (expected : Challenge) :
    Audited ClientData := do
  let data ← parse json
  data.verify policy ceremony expected
  return data

end ClientData

end WebAuthn
