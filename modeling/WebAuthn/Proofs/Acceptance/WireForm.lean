import WebAuthn.Authenticator.Software
import WebAuthn.Policy.Basic
import WebAuthn.Proofs.Acceptance.ClientData
import WebAuthn.Proofs.Json.Values

/-!
# What is sent is what is received

Messages, client data and policies come back from their JSON texts, whatever characters their members have and whichever
of their options are set.

* `RegistrationResponse.ofJson?_reread`, `AuthenticationResponse.ofJson?_reread`, `ClientData.ofJson?_reread`,
  `Policy.ofJson?_reread` — each of the four is read back;
* `outcome_decodeMember_encode` — bytes come back from a base64url member;
* `SoftwareAuthenticator.DeliversRegistration`, `SoftwareAuthenticator.DeliversAssertion` — what a message gives access
  to is what an authenticator made;
* `wire_forms_read_back` — all of it, from the texts.
-/

namespace WebAuthn

open Json

/-! ### Registrations -/

namespace RegistrationResponse

theorem readable_responseFields (message : RegistrationResponse) :
    (Value.ofFields message.responseFields).Readable := by
  refine Value.readable_ofFields (List.forall_mem_append.2 ⟨?_, ?_⟩)
  · simp only [List.forall_mem_cons]
    exact ⟨trivial, trivial, nofun⟩
  · split
    · exact nofun
    · exact List.forall_mem_singleton.2 (Value.readable_array Value.readable_ofString _)

theorem readable_toJson (message : RegistrationResponse) : message.toJson.Readable := by
  unfold toJson
  refine Value.readable_ofFields ?_
  simp only [fields, List.forall_mem_cons]
  exact ⟨trivial, trivial, message.readable_responseFields, trivial, nofun⟩

/-- A list of transports comes back, be it that it was left out. -/
theorem withDefault_transports (message : RegistrationResponse) :
    Record.withDefault message.responseFields.reread "transports"
      (Value.list? Value.text?) [] = some message.transports := by
  obtain ⟨id, rawId, clientDataJson, attestationObject, transports, type⟩ := message
  cases transports with
  | nil => rfl
  | cons first rest => exact Value.list?_reread Value.text?_reread (first :: rest)

theorem distinct_responseFields (message : RegistrationResponse) :
    Record.distinct ["clientDataJSON", "attestationObject", "transports"] message.responseFields = true := by
  unfold responseFields
  split <;> rfl

theorem ofJson?_reread (message : RegistrationResponse) : ofJson? message.toJson.reread = some message := by
  let read : Record := message.fields.reread
  have hfields : Record.ofValue? ["id", "rawId", "response", "type"] message.toJson.reread = some read :=
    Record.ofValue?_ofFields_reread rfl
  have hresponse : read.required "response"
      (Record.ofValue? ["clientDataJSON", "attestationObject", "transports"]) =
        some message.responseFields.reread :=
    Record.ofValue?_ofFields_reread message.distinct_responseFields
  have hid : read.required "id" Value.text? = some message.id := Value.text?_reread _
  have hrawId : read.required "rawId" Value.text? = some message.rawId := Value.text?_reread _
  have htype : read.withDefault "type" Value.text? publicKeyType = some message.type :=
    Value.text?_reread _
  have hclient : Record.required message.responseFields.reread
      "clientDataJSON" Value.text? = some message.clientDataJson := Value.text?_reread _
  have hattestation : Record.required message.responseFields.reread
      "attestationObject" Value.text? = some message.attestationObject := Value.text?_reread _
  rw [ofJson?, hfields, Option.bind_eq_bind, Option.bind_some, hresponse, Option.bind_some, hid, hrawId,
    hclient, hattestation, message.withDefault_transports, htype]
  rfl

end RegistrationResponse

/-! ### Authentications -/

namespace AuthenticationResponse

theorem readable_responseFields (message : AuthenticationResponse) :
    (Value.ofFields message.responseFields).Readable := by
  refine Value.readable_ofFields (List.forall_mem_append.2 ⟨?_, ?_⟩)
  · simp only [List.forall_mem_cons]
    exact ⟨trivial, trivial, trivial, nofun⟩
  · simp only [List.forall_mem_map]
    exact fun _ _ => trivial

theorem readable_toJson (message : AuthenticationResponse) : message.toJson.Readable := by
  unfold toJson
  refine Value.readable_ofFields ?_
  simp only [fields, List.forall_mem_cons]
  exact ⟨trivial, trivial, message.readable_responseFields, trivial, nofun⟩

/-- A user handle comes back, and so does a missing one. -/
theorem optional_userHandle (message : AuthenticationResponse) :
    Record.optional message.responseFields.reread "userHandle"
      Value.text? = some message.userHandle := by
  obtain ⟨id, rawId, clientDataJson, authenticatorData, signature, userHandle, type⟩ := message
  cases userHandle with
  | none => rfl
  | some handle => exact congrArg (Option.map some) (Value.text?_reread handle)

theorem distinct_responseFields (message : AuthenticationResponse) :
    Record.distinct ["clientDataJSON", "authenticatorData", "signature", "userHandle"]
      message.responseFields = true := by
  unfold responseFields
  cases message.userHandle <;> rfl

theorem ofJson?_reread (message : AuthenticationResponse) :
    ofJson? message.toJson.reread = some message := by
  let read : Record := message.fields.reread
  have hfields : Record.ofValue? ["id", "rawId", "response", "type"] message.toJson.reread = some read :=
    Record.ofValue?_ofFields_reread rfl
  have hresponse : read.required "response"
      (Record.ofValue? ["clientDataJSON", "authenticatorData", "signature", "userHandle"]) =
        some message.responseFields.reread :=
    Record.ofValue?_ofFields_reread message.distinct_responseFields
  have hid : read.required "id" Value.text? = some message.id := Value.text?_reread _
  have hrawId : read.required "rawId" Value.text? = some message.rawId := Value.text?_reread _
  have htype : read.withDefault "type" Value.text? publicKeyType = some message.type :=
    Value.text?_reread _
  have hclient : Record.required message.responseFields.reread
      "clientDataJSON" Value.text? = some message.clientDataJson := Value.text?_reread _
  have hdata : Record.required message.responseFields.reread
      "authenticatorData" Value.text? = some message.authenticatorData := Value.text?_reread _
  have hsignature : Record.required message.responseFields.reread
      "signature" Value.text? = some message.signature := Value.text?_reread _
  rw [ofJson?, hfields, Option.bind_eq_bind, Option.bind_some, hresponse, Option.bind_some, hid, hrawId,
    hclient, hdata, hsignature, message.optional_userHandle, htype]
  rfl

end AuthenticationResponse

/-! ### Client data -/

namespace ClientData

theorem readable_toJson (data : ClientData) : data.toJson.Readable := by
  unfold toJson
  refine Value.readable_ofFields ?_
  unfold fields
  simp only [List.forall_mem_append, List.forall_mem_cons, List.forall_mem_map]
  exact ⟨⟨⟨trivial, trivial, trivial, nofun⟩, fun _ _ => trivial⟩, fun _ _ => trivial⟩

theorem distinct_fields (data : ClientData) :
    Record.distinct memberNames data.fields = true := by
  unfold fields
  cases data.crossOrigin <;> cases data.topOrigin <;> rfl

theorem optional_crossOrigin (data : ClientData) :
    Record.optional data.fields.reread "crossOrigin"
      Value.bool? = some data.crossOrigin := by
  obtain ⟨type, challenge, origin, crossOrigin, topOrigin⟩ := data
  cases crossOrigin <;> cases topOrigin <;> rfl

theorem optional_topOrigin (data : ClientData) :
    Record.optional data.fields.reread "topOrigin"
      Value.text? = some data.topOrigin := by
  obtain ⟨type, challenge, origin, crossOrigin, topOrigin⟩ := data
  cases topOrigin with
  | none => cases crossOrigin <;> rfl
  | some text =>
    have htext := congrArg (Option.map some) (Value.text?_reread text)
    cases crossOrigin <;> exact htext

theorem ofJson?_reread (data : ClientData) : ofJson? data.toJson.reread = some data := by
  let read : Record := data.fields.reread
  have hfields : Record.ofValue? memberNames data.toJson.reread = some read :=
    Record.ofValue?_ofFields_reread data.distinct_fields
  have htype : read.required "type" Value.text? = some data.type := Value.text?_reread _
  have hchallenge : read.required "challenge" Value.text? = some data.challenge := Value.text?_reread _
  have horigin : read.required "origin" Value.text? = some data.origin := Value.text?_reread _
  rw [ofJson?, hfields, Option.bind_eq_bind, Option.bind_some, htype, hchallenge, horigin,
    data.optional_crossOrigin, data.optional_topOrigin]
  rfl

end ClientData

/-! ### Policies -/

namespace Policy

theorem readable_toJson (policy : Policy) : policy.toJson.Readable := by
  have horigins : (Value.array (policy.allowedOrigins.map Value.ofString)).Readable :=
    Value.readable_array Value.readable_ofString _
  have halgorithms : (Value.array (policy.allowedAlgorithms.map fun n => Value.ofInt n.toInt)).Readable :=
    @Value.readable_array _ (fun n : Int64 => Value.ofInt n.toInt) (fun _ => Value.readable_ofInt _) _
  unfold toJson
  refine Value.readable_ofFields ?_
  simp only [fields, List.forall_mem_cons]
  exact ⟨trivial, horigins, trivial, trivial, halgorithms, Value.readable_ofInt _, nofun⟩

theorem int64OfJson?_ofInt (n : Int64) : int64OfJson? (Value.ofInt n.toInt) = some n := by
  have hlow : Int64.minValue.toInt ≤ n.toInt := Int64.toInt_minValue ▸ n.le_toInt
  have hhigh : n.toInt ≤ Int64.maxValue.toInt := Int64.toInt_maxValue ▸ Int.le_sub_one_of_lt n.toInt_lt
  rw [int64OfJson?, Value.integerIn?_ofInt hlow hhigh, Option.map_some, Int64.ofInt_toInt]

theorem uint64OfJson?_ofInt (n : UInt64) : uint64OfJson? (Value.ofInt n.toNat) = some n := by
  have hhigh : (n.toNat : Int) ≤ UInt64.size - 1 := by
    have hlt : n.toNat < UInt64.size := n.toNat_lt
    omega
  rw [uint64OfJson?, Value.integerIn?_ofInt (Int.natCast_nonneg _) hhigh, Option.map_some, Int.toNat_natCast,
    UInt64.ofNat_toNat]

theorem userVerificationOfJson?_name (level : UserVerification) :
    userVerificationOfJson? (Value.ofString level.name).reread = some level := by
  show (Value.ofString level.name).reread.text?.bind UserVerification.ofName? = _
  rw [Value.text?_reread, Option.bind_some, UserVerification.ofName?_name]

theorem ofJson?_reread (policy : Policy) : ofJson? policy.toJson.reread = some policy := by
  let read : Record := policy.fields.reread
  have hfields : Record.ofValue? fieldNames policy.toJson.reread = some read :=
    Record.ofValue?_ofFields_reread rfl
  have hrpId : read.required "rp_id" Value.text? = some policy.rpId := Value.text?_reread _
  have horigins : read.required "allowed_origins" (Value.list? Value.text?) = some policy.allowedOrigins :=
    Value.list?_reread Value.text?_reread _
  have hlevel : read.withDefault "user_verification" userVerificationOfJson? .preferred =
      some policy.userVerification := userVerificationOfJson?_name _
  have hcross : read.withDefault "allow_cross_origin" Value.bool? false = some policy.allowCrossOrigin := rfl
  have halgorithms : read.withDefault "allowed_algorithms" (Value.list? int64OfJson?) defaultAlgorithms =
      some policy.allowedAlgorithms := Value.list?_reread int64OfJson?_ofInt _
  have htimeout : read.withDefault "challenge_timeout_seconds" uint64OfJson? defaultTimeoutSeconds =
      some policy.challengeTimeoutSeconds := uint64OfJson?_ofInt _
  rw [ofJson?, hfields, Option.bind_eq_bind, Option.bind_some, hrpId, horigins, hlevel, hcross,
    halgorithms, htimeout]
  rfl

end Policy

/-! ### Binary members -/

/-- Bytes come back from a base64url member. -/
theorem outcome_decodeMember_encode (bytes : Bytes) (failure : Failure) :
    (decodeMember (Base64Url.encode bytes) failure).outcome = .ok bytes := by
  rw [decodeMember, Base64Url.decode_encode]
  rfl

namespace SoftwareAuthenticator

variable (authenticator : SoftwareAuthenticator) (challenge : Challenge)

/-- The message gives access to the registration. -/
structure DeliversRegistration (message : RegistrationResponse) : Prop where
  clientData : message.clientDataBytes.outcome = .ok (authenticator.register challenge).clientDataJson
  attestation :
    message.attestationBytes.outcome = .ok (authenticator.register challenge).attestationObject

/-- The message gives access to the assertion; an empty user handle counts as missing. -/
structure DeliversAssertion (salt : FixedBytes 32) (signCount : UInt32)
    (message : AuthenticationResponse) : Prop where
  credentialId : message.credentialIdBytes.outcome = .ok authenticator.credentialId
  clientData : message.clientDataBytes.outcome =
    .ok (authenticator.assert salt challenge signCount).clientDataJson
  authenticatorData : message.authenticatorDataBytes.outcome =
    .ok (authenticator.assert salt challenge signCount).authenticatorData
  signature : message.signatureBytes.outcome =
    .ok (authenticator.assert salt challenge signCount).signature
  userHandle : message.userHandleBytes.outcome =
    .ok (authenticator.userHandle.filter fun handle => !handle.isEmpty)

theorem deliversRegistration :
    authenticator.DeliversRegistration challenge (authenticator.registrationResponse challenge) :=
  ⟨outcome_decodeMember_encode _ _, outcome_decodeMember_encode _ _⟩

/-- Only no bytes at all are written as the empty text. -/
theorem encode_eq_empty_iff {bytes : Bytes} : Base64Url.encode bytes = "" ↔ bytes = [] := by
  have hempty : Base64Url.encode [] = "" := by decide +kernel
  constructor
  · intro h
    have hread := Base64Url.decode_encode bytes
    rw [h, ← hempty, Base64Url.decode_encode] at hread
    exact (Except.ok.inj hread).symm
  · rintro rfl
    exact hempty

theorem outcome_userHandleBytes (salt : FixedBytes 32) (signCount : UInt32) :
    (authenticator.authenticationResponse salt challenge signCount).userHandleBytes.outcome =
      .ok (authenticator.userHandle.filter fun handle => !handle.isEmpty) := by
  show (AuthenticationResponse.userHandleBytes
    ⟨_, _, _, _, _, authenticator.userHandle.map Base64Url.encode, _⟩).outcome = _
  cases authenticator.userHandle with
  | none => rfl
  | some handle =>
    show (if Base64Url.encode handle = "" then pure none
      else some <$> decodeMember (Base64Url.encode handle) .unknownCredential : Audited _).outcome = _
    by_cases h : handle = []
    · rw [if_pos (encode_eq_empty_iff.2 h), h]
      rfl
    · rw [if_neg (encode_eq_empty_iff.not.2 h), decodeMember, Base64Url.decode_encode]
      have hkeep : (!handle.isEmpty) = true := by
        rw [Bool.not_eq_true', List.isEmpty_eq_false_iff]
        exact h
      rw [Option.filter_some, hkeep]
      rfl

theorem deliversAssertion (salt : FixedBytes 32) (signCount : UInt32) :
    authenticator.DeliversAssertion challenge salt signCount
      (authenticator.authenticationResponse salt challenge signCount) :=
  ⟨outcome_decodeMember_encode _ _, outcome_decodeMember_encode _ _, outcome_decodeMember_encode _ _,
    outcome_decodeMember_encode _ _, authenticator.outcome_userHandleBytes challenge salt signCount⟩

end SoftwareAuthenticator

/-! ### Texts -/

theorem ofJsonText?_render {α : Type} {value : Value} (h : value.Readable) (read : Value → Option α) :
    ofJsonText? read (render value) = read value.reread := by
  rw [ofJsonText?, parse?_render h, Option.bind_some]

/-- Messages, client data and policies come back from their texts, and so do the binary members of what software
authenticators send. -/
theorem wire_forms_read_back :
    (∀ message : RegistrationResponse,
        ofJsonText? RegistrationResponse.ofJson? (render message.toJson) = some message) ∧
      (∀ message : AuthenticationResponse,
        ofJsonText? AuthenticationResponse.ofJson? (render message.toJson) = some message) ∧
      (∀ data : ClientData, (ClientData.parse (render data.toJson)).outcome = .ok data) ∧
      (∀ policy : Policy, ofJsonText? Policy.ofJson? (render policy.toJson) = some policy) ∧
      (∀ (authenticator : SoftwareAuthenticator) (challenge : Challenge), ∃ message,
        ofJsonText? RegistrationResponse.ofJson?
            (render (authenticator.registrationResponse challenge).toJson) = some message ∧
          authenticator.DeliversRegistration challenge message) ∧
      ∀ (authenticator : SoftwareAuthenticator) (salt : FixedBytes 32) (challenge : Challenge)
        (signCount : UInt32), ∃ message,
        ofJsonText? AuthenticationResponse.ofJson?
            (render (authenticator.authenticationResponse salt challenge signCount).toJson) = some message ∧
          authenticator.DeliversAssertion challenge salt signCount message := by
  have hregistration : ∀ message : RegistrationResponse,
      ofJsonText? RegistrationResponse.ofJson? (render message.toJson) = some message := fun message => by
    rw [ofJsonText?_render message.readable_toJson, RegistrationResponse.ofJson?_reread]
  have hauthentication : ∀ message : AuthenticationResponse,
      ofJsonText? AuthenticationResponse.ofJson? (render message.toJson) = some message := fun message => by
    rw [ofJsonText?_render message.readable_toJson, AuthenticationResponse.ofJson?_reread]
  refine ⟨hregistration, hauthentication, fun data => ?_, fun policy => ?_,
    fun authenticator challenge => ?_, fun authenticator salt challenge signCount => ?_⟩
  · rw [ClientData.outcome_parse_ok, ClientData.read?, parse?_render data.readable_toJson, Option.bind_some,
      ClientData.ofJson?_reread]
  · rw [ofJsonText?_render policy.readable_toJson, Policy.ofJson?_reread]
  · exact ⟨_, hregistration _, authenticator.deliversRegistration challenge⟩
  · exact ⟨_, hauthentication _, authenticator.deliversAssertion challenge salt signCount⟩

end WebAuthn
