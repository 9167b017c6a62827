import WebAuthn.Authenticator.Software
import WebAuthn.Proofs.Acceptance.ClientData
import WebAuthn.Proofs.Authenticator.KeyPair
import WebAuthn.Proofs.Json.Rendering
import WebAuthn.Proofs.Layout.Written

/-!
# What the software authenticator sends can be read

* `ClientData.read?_clientDataText` — its client data says the ceremony, the challenge and the origin, whatever
  characters the origin has;
* `SoftwareAuthenticator.Suits` — authenticators that can serve under a policy;
* `Suits.laidOut_registrationDraft`, `laidOut_assertionDraft` — their authenticator data is laid out;
* `Suits.laidOut_attestationObject` — and so is the attestation object of their registrations.
-/

namespace WebAuthn

/-! ### Client data -/

namespace ClientData

open Json

/-- The client data that the page of an authenticator sends is read as what it sends, whatever the origin is. -/
theorem read?_clientDataText (type : String) (challenge : Bytes) (origin : String) :
    read? (clientDataText type challenge origin) =
      some ⟨type, Base64Url.encode challenge, origin, some false, none⟩ := by
  have hreadable : (Value.ofFields (clientDataFields type challenge origin)).Readable :=
    ⟨trivial, trivial, trivial, trivial, trivial⟩
  have hparse : parse? (clientDataText type challenge origin) =
      some (Value.ofFields (clientDataFields type challenge origin)).reread :=
    parse?_render hreadable
  let fields : Record := (clientDataFields type challenge origin).map fun field => (field.1, field.2.reread)
  have hfields : Record.ofValue? memberNames (Value.ofFields (clientDataFields type challenge origin)).reread =
      some fields := Record.ofValue?_reread rfl
  have htype : fields.required "type" Value.text? = some type := Value.text?_reread type
  have hchallenge : fields.required "challenge" Value.text? = some (Base64Url.encode challenge) :=
    Value.text?_reread _
  have horigin : fields.required "origin" Value.text? = some origin := Value.text?_reread origin
  have hcross : fields.optional "crossOrigin" Value.bool? = some (some false) := rfl
  have htop : fields.optional "topOrigin" Value.text? = some none := rfl
  rw [read?, hparse, Option.bind_some, ofJson?, hfields, Option.bind_eq_bind, Option.bind_some, htype,
    hchallenge, horigin, hcross, htop]
  rfl

end ClientData

/-! ### Authenticator data -/

namespace SoftwareAuthenticator

/-- The authenticator can serve under the policy. -/
structure Suits (authenticator : SoftwareAuthenticator) (policy : Policy) : Prop where
  rpId : authenticator.rpId = policy.rpId
  origin : authenticator.origin ∈ policy.allowedOrigins
  credentialId : 1 ≤ authenticator.credentialId.length ∧
    authenticator.credentialId.length ≤ AttestedCredential.maximumIdLength
  usable : authenticator.keyPair.Usable
  allowed : policy.allows authenticator.keyPair.algorithm.identifier = true
  userPresent : (Flags.mk authenticator.flags).userPresent = true
  userVerified : policy.userVerification = .required →
    (Flags.mk authenticator.flags).userVerified = true
  attestedClear : (Flags.mk authenticator.flags).hasAttested = false
  extensionsClear : (Flags.mk authenticator.flags).hasExtensions = false
  backup : (Flags.mk authenticator.flags).backupState = true →
    (Flags.mk authenticator.flags).backupEligible = true

variable {authenticator : SoftwareAuthenticator} {policy : Policy}

theorem Suits.wellFormed_registrationDraft (h : authenticator.Suits policy) :
    authenticator.registrationDraft.WellFormed where
  backup := h.backup
  attestedFlag := fun _ => rfl
  extensionsFlag := fun hset => absurd (hset.symm.trans h.extensionsClear) (by decide)
  attested := fun id key hattested => by
    cases hattested
    exact ⟨h.credentialId, h.usable.wellFormed⟩
  extensions := nofun

theorem Suits.wellFormed_assertionDraft (h : authenticator.Suits policy) (signCount : UInt32) :
    (authenticator.assertionDraft signCount).WellFormed where
  backup := h.backup
  attestedFlag := fun hset => absurd (hset.symm.trans h.attestedClear) (by decide)
  extensionsFlag := fun hset => absurd (hset.symm.trans h.extensionsClear) (by decide)
  attested := nofun
  extensions := nofun

/-- The authenticator data of a registration is far below the limit. -/
theorem Suits.length_registrationDraft_le (h : authenticator.Suits policy) :
    authenticator.registrationDraft.encode.length ≤ 4000 := by
  have hid : authenticator.credentialId.length ≤ 1023 := h.credentialId.2
  have hkey := authenticator.keyPair.publicKey.length_encode_le
  have hmaterial := h.usable.wellFormed.materialLength_le
  have hattested := AttestedCredential.length_encode
    ⟨.zeros, authenticator.credentialId, authenticator.keyPair.publicKey⟩
  have hbytes : authenticator.registrationDraft.attestedBytes = AttestedCredential.encode
    ⟨.zeros, authenticator.credentialId, authenticator.keyPair.publicKey⟩ := rfl
  have hnone : authenticator.registrationDraft.extensionBytes = [] := rfl
  rw [AuthenticatorDraft.length_encode, hbytes, hnone, hattested, List.length_nil]
  show 37 + (18 + (authenticator.credentialId.length + authenticator.keyPair.publicKey.encode.length) + 0) ≤ _
  omega

theorem Suits.laidOut_registrationDraft (h : authenticator.Suits policy) :
    authenticator.registrationDraft.written.LaidOut authenticator.registrationDraft.encode := by
  have hlong : authenticator.registrationDraft.encode.length ≤ AuthenticatorData.maximumLength :=
    Nat.le_trans h.length_registrationDraft_le (by decide)
  exact AuthenticatorData.laidOut_iff_concatenation.2 (h.wellFormed_registrationDraft.concatenation hlong)

theorem Suits.laidOut_assertionDraft (h : authenticator.Suits policy) (signCount : UInt32) :
    (authenticator.assertionDraft signCount).written.LaidOut
      (authenticator.assertionDraft signCount).encode := by
  have hlength : (authenticator.assertionDraft signCount).encode.length = 37 :=
    AuthenticatorDraft.length_encode _
  have hlong : (authenticator.assertionDraft signCount).encode.length ≤
      AuthenticatorData.maximumLength := by
    rw [hlength]
    decide
  exact AuthenticatorData.laidOut_iff_concatenation.2
    ((h.wellFormed_assertionDraft signCount).concatenation hlong)

/-! ### Attestation objects -/

def attestationObject (authenticator : SoftwareAuthenticator) : AttestationObject :=
  ⟨StatementVerifier.noneName, authenticator.registrationDraft.encode,
    authenticator.registrationDraft.written, some (.map [])⟩

theorem Suits.laidOut_attestationObject (h : authenticator.Suits policy) (challenge : Challenge) :
    authenticator.attestationObject.LaidOut (authenticator.register challenge).attestationObject := by
  have hdata := h.length_registrationDraft_le
  have hformat : (Utf8.encode StatementVerifier.noneName).length = 4 := by decide
  have hstatement : (Cbor.encode (.map [])).length = 1 := by decide
  have hlength := AttestationObject.length_encode_le StatementVerifier.noneName
    authenticator.registrationDraft.encode (.map [])
  have hlong : (AttestationObject.encode StatementVerifier.noneName
      authenticator.registrationDraft.encode (.map [])).length ≤ AuthenticatorData.maximumLength := by
    have hmaximum : AuthenticatorData.maximumLength = 65536 := rfl
    omega
  have hnamed : StatementVerifier.noneName ≠ "" := by decide
  have hempty : (Cbor.Value.map []).Within {} 7 :=
    Cbor.Value.within_map.2 ⟨⟨Nat.zero_le _, List.nodup_nil⟩, List.forall_mem_nil _⟩
  exact AttestationObject.laidOut_encode hnamed h.laidOut_registrationDraft rfl trivial hempty hlong

end SoftwareAuthenticator

end WebAuthn
