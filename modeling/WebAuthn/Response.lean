import WebAuthn.Audited
import WebAuthn.Base64Url
import WebAuthn.Json.Record
import WebAuthn.Text.Set

/-!
# What the browser posts back

* `RegistrationResponse`, `AuthenticationResponse` — the messages of the two ceremonies, with every binary
  member in base64url;
* `ofJson?` and `toJson` of each — their JSON form;
* the accessors of each — the bytes of a member, or the failure that its encoding amounts to.
-/

namespace WebAuthn

def publicKeyType : String := "public-key"

/-- The bytes of a base64url member, whose faults amount to the given failure. -/
def decodeMember (text : String) (failure : Failure) : Audited Bytes :=
  match Base64Url.decode text with
  | .ok bytes => pure bytes
  | .error error => .refuseWith failure .debug s!"base64url decoding failed -> {error.message}"

/-- The value, if the bytes are the JSON text of one. -/
def ofJsonText? {α : Type} (read : Json.Value → Option α) (text : Bytes) : Option α :=
  (Json.parse? text).bind read

/-! ### Registration -/

/-- The message that ends a registration. -/
structure RegistrationResponse where
  id : String
  rawId : String
  clientDataJson : String
  attestationObject : String
  transports : List String
  type : String
  deriving DecidableEq, Repr

namespace RegistrationResponse

def ofJson? (value : Json.Value) : Option RegistrationResponse := do
  let fields ← Json.Record.ofValue? ["id", "rawId", "response", "type"] value
  let response ← fields.required "response" <|
    Json.Record.ofValue? ["clientDataJSON", "attestationObject", "transports"]
  return {
    id := ← fields.required "id" Json.Value.text?
    rawId := ← fields.required "rawId" Json.Value.text?
    clientDataJson := ← response.required "clientDataJSON" Json.Value.text?
    attestationObject := ← response.required "attestationObject" Json.Value.text?
    transports := ← response.withDefault "transports" (Json.Value.list? Json.Value.text?) []
    type := ← fields.withDefault "type" Json.Value.text? publicKeyType }

/-- The members of the inner object; an empty list of transports is left out. -/
def responseFields (message : RegistrationResponse) : Json.Record :=
  [("clientDataJSON", .ofString message.clientDataJson),
    ("attestationObject", .ofString message.attestationObject)] ++
  if message.transports.isEmpty then []
  else [("transports", .array (message.transports.map Json.Value.ofString))]

def fields (message : RegistrationResponse) : Json.Record :=
  [("id", .ofString message.id), ("rawId", .ofString message.rawId),
    ("response", .ofFields message.responseFields), ("type", .ofString message.type)]

def toJson (message : RegistrationResponse) : Json.Value :=
  .ofFields message.fields

def clientDataBytes (message : RegistrationResponse) : Audited Bytes :=
  decodeMember message.clientDataJson (.invalidClientData .encoding)

def attestationBytes (message : RegistrationResponse) : Audited Bytes :=
  decodeMember message.attestationObject .invalidAttestationObject

/-- The transports, each once. -/
def transportSet (message : RegistrationResponse) : TextSet :=
  .ofList message.transports

end RegistrationResponse

/-! ### Authentication -/

/-- The message that ends an authentication. -/
structure AuthenticationResponse where
  id : String
  rawId : String
  clientDataJson : String
  authenticatorData : String
  signature : String
  userHandle : Option String
  type : String
  deriving DecidableEq, Repr

namespace AuthenticationResponse

def ofJson? (value : Json.Value) : Option AuthenticationResponse := do
  let fields ← Json.Record.ofValue? ["id", "rawId", "response", "type"] value
  let response ← fields.required "response" <|
    Json.Record.ofValue? ["clientDataJSON", "authenticatorData", "signature", "userHandle"]
  return {
    id := ← fields.required "id" Json.Value.text?
    rawId := ← fields.required "rawId" Json.Value.text?
    clientDataJson := ← response.required "clientDataJSON" Json.Value.text?
    authenticatorData := ← response.required "authenticatorData" Json.Value.text?
    signature := ← response.required "signature" Json.Value.text?
    userHandle := ← response.optional "userHandle" Json.Value.text?
    type := ← fields.withDefault "type" Json.Value.text? publicKeyType }

/-- The members of the inner object; a missing user handle is left out. -/
def responseFields (message : AuthenticationResponse) : Json.Record :=
  [("clientDataJSON", .ofString message.clientDataJson),
    ("authenticatorData", .ofString message.authenticatorData),
    ("signature", .ofString message.signature)] ++
  message.userHandle.toList.map fun handle => ("userHandle", .ofString handle)

def fields (message : AuthenticationResponse) : Json.Record :=
  [("id", .ofString message.id), ("rawId", .ofString message.rawId),
    ("response", .ofFields message.responseFields), ("type", .ofString message.type)]

def toJson (message : AuthenticationResponse) : Json.Value :=
  .ofFields message.fields

/-- The id of the credential in use. -/
def credentialIdBytes (message : AuthenticationResponse) : Audited Bytes :=
  decodeMember message.rawId .unknownCredential

def clientDataBytes (message : AuthenticationResponse) : Audited Bytes :=
  decodeMember message.clientDataJson (.invalidClientData .encoding)

def authenticatorDataBytes (message : AuthenticationResponse) : Audited Bytes :=
  decodeMember message.authenticatorData .invalidAttestationObject

def signatureBytes (message : AuthenticationResponse) : Audited Bytes :=
  decodeMember message.signature .signatureVerificationFailed

/-- The user handle; an empty one counts as missing. -/
def userHandleBytes (message : AuthenticationResponse) : Audited (Option Bytes) :=
  match message.userHandle with
  | some handle =>
    if handle = "" then pure none else some <$> decodeMember handle .unknownCredential
  | none => pure none

end AuthenticationResponse

end WebAuthn
