import WebAuthn.Proofs.Acceptance.Registration
import WebAuthn.Proofs.Layout.KeyEntries

/-!
# Keys that were registered can be used

A key is checked once, when it is read. From then on verifying a signature with it is the test of its algorithm on its
material: nothing is refused because of the key.

* `Cose.Key.SignatureTest` — the test of signatures that algorithm and material of a key make up;
* `Cose.Key.WellFormed.exists_signatureTest`, `SignatureTest.outcome_verify` — well-formed keys have one, and verifying
  is this test;
* `Registration.wellFormed_of_credential` — keys of registered credentials are well formed;
* `Cose.Key.reading_exact_and_usable` — which data items are read as a key, and what a registered key is good for.
-/

namespace WebAuthn

open Audited

namespace Cose.Key

variable {key : Key} {test : (signature message : Bytes) → Bool}

/-- The test of signatures of messages that the algorithm and the material of the key make up. -/
inductive SignatureTest : Key → ((signature message : Bytes) → Bool) → Prop where
  | es256 {key : Ec2Key} {point : P256.Point} :
      key.algorithm = .es256 → key.point.outcome = .ok point →
      SignatureTest (.ec2 key) fun signature message =>
        (Ecdsa.Signature.ofDer? signature).any fun found => Ecdsa.verify point message found
  | edDsa {key : OkpKey} {point : Edwards25519.Point} :
      key.algorithm = .edDsa → key.point.outcome = .ok point →
      SignatureTest (.okp key) fun signature message =>
        (Eddsa.Signature.ofBytes? signature).any fun found => Eddsa.verify key.x.bytes point message found
  | rs256 {key : RsaKey} {publicKey : Rsa.PublicKey} :
      key.algorithm = .rs256 → key.publicKey.outcome = .ok publicKey →
      SignatureTest (.rsa key) fun signature message => Rsa.Pkcs1.verify publicKey message signature
  | ps256 {key : RsaKey} {publicKey : Rsa.PublicKey} :
      key.algorithm = .ps256 → key.publicKey.outcome = .ok publicKey →
      SignatureTest (.rsa key) fun signature message => Rsa.Pss.verify publicKey message signature

/-- Whether a signature belongs to the key is what the test says. -/
theorem SignatureTest.outcome_verifies (h : key.SignatureTest test) (signature message : Bytes) :
    (key.verifies signature message).outcome = .ok (test signature message) := by
  cases h with
  | @es256 key point _ hpoint =>
    simp only [verifies, Ec2Key.verifies]
    rw [outcome_bind_of_ok hpoint]
    cases Ecdsa.Signature.ofDer? signature with
    | none => rfl
    | some found =>
      -- comparing the two sides as they are would run the verification
      rw [Option.any_some]
      rfl
  | @edDsa key point _ hpoint =>
    simp only [verifies, OkpKey.verifies]
    rw [outcome_bind_of_ok hpoint]
    cases Eddsa.Signature.ofBytes? signature with
    | none => rfl
    | some found =>
      rw [Option.any_some]
      rfl
  | @rs256 key publicKey halgorithm hpublic =>
    simp only [verifies, RsaKey.verifies]
    rw [outcome_bind_of_ok hpublic, halgorithm]
    rfl
  | @ps256 key publicKey halgorithm hpublic =>
    simp only [verifies, RsaKey.verifies]
    rw [outcome_bind_of_ok hpublic, halgorithm]
    rfl

/-- Verifying fails only where the test does. -/
theorem SignatureTest.outcome_verify (h : key.SignatureTest test)
    (signature authenticatorData clientDataHash : Bytes) :
    (key.verify signature authenticatorData clientDataHash).outcome =
      if test signature (authenticatorData ++ clientDataHash) then .ok ()
      else .error .signatureVerificationFailed := by
  have hverifies : ((key.verifies signature (authenticatorData ++ clientDataHash)).failingWith
      .signatureVerificationFailed).outcome = .ok (test signature (authenticatorData ++ clientDataHash)) :=
    outcome_failingWith_ok.2 (h.outcome_verifies _ _)
  unfold verify
  rw [outcome_bind_of_ok hverifies]
  split <;> rfl

theorem WellFormed.exists_signatureTest (h : key.WellFormed) : ∃ test, key.SignatureTest test := by
  cases key with
  | ec2 key =>
    obtain ⟨halgorithm, _, point, hpoint⟩ := h
    exact ⟨_, .es256 halgorithm hpoint⟩
  | okp key =>
    obtain ⟨halgorithm, _, point, hpoint⟩ := h
    exact ⟨_, .edDsa halgorithm hpoint⟩
  | rsa key =>
    obtain ⟨hkeyType, _, _, publicKey, hpublic⟩ := h
    obtain ⟨_, halgorithm⟩ | ⟨_, halgorithm⟩ := Algorithm.keyType_eq_rsa.1 hkeyType
    · exact ⟨_, .rs256 halgorithm hpublic⟩
    · exact ⟨_, .ps256 halgorithm hpublic⟩

theorem WellFormed.usable (h : key.WellFormed) : key.usable.outcome = .ok () := by
  cases key with
  | ec2 key =>
    obtain ⟨_, _, point, hpoint⟩ := h
    exact outcome_bind_ok.2 ⟨point, hpoint, rfl⟩
  | okp key =>
    obtain ⟨_, _, point, hpoint⟩ := h
    exact outcome_bind_ok.2 ⟨point, hpoint, rfl⟩
  | rsa key =>
    obtain ⟨_, _, _, publicKey, hpublic⟩ := h
    exact outcome_bind_ok.2 ⟨publicKey, hpublic, rfl⟩

/-- What is read as a key is well formed. -/
theorem wellFormed_of_ofCbor {value : Cbor.Value} (h : (ofCbor value).outcome = .ok key) :
    key.WellFormed := by
  cases value with
  | map entries =>
    obtain ⟨_, _, _, _, hwell⟩ := outcome_ofParameters.1 h
    exact hwell
  | _ => cases h

end Cose.Key

/-! ### Registered credentials -/

/-- The key of an attested credential is well formed. -/
theorem AuthenticatorData.LaidOut.wellFormed {data : AuthenticatorData} {bytes : Bytes}
    (h : data.LaidOut bytes) {attested : AttestedCredential} (hattested : data.attested = some attested) :
    attested.publicKey.WellFormed := by
  obtain ⟨_, _, ⟨_, _, hsection, _⟩, _⟩ := h
  rw [hattested] at hsection
  obtain ⟨_, _, _, _, _, _, _, hkey⟩ := hsection
  exact Cose.Key.wellFormed_of_ofCbor hkey

namespace Registration

variable {registration : Registration} {policy : Policy} {registry : StatementRegistry}
  {challenge : Challenge} {transports : TextSet} {owner : Uuid} {credential : Credential}

/-- The key of a registered credential is well formed, whatever formats are known. -/
theorem wellFormed_of_credential
    (h : (registration.credential policy registry challenge transports owner).outcome = .ok credential) :
    credential.publicKey.WellFormed := by
  obtain ⟨attestation, hvalid, h⟩ := outcome_bind_ok.1 h
  obtain ⟨_, _, h⟩ := outcome_bind_ok.1 h
  cases h
  obtain ⟨_, _, hvalid⟩ := outcome_bind_ok.1 hvalid
  obtain ⟨object, hparse, hvalid⟩ := outcome_bind_ok.1 hvalid
  obtain ⟨_, _, hvalid⟩ := outcome_bind_ok.1 hvalid
  obtain ⟨_, _, hvalid⟩ := outcome_bind_ok.1 hvalid
  obtain ⟨_, _, hvalid⟩ := outcome_bind_ok.1 hvalid
  obtain ⟨attested, hattested, hvalid⟩ := outcome_bind_ok.1 hvalid
  obtain ⟨_, _, hvalid⟩ := outcome_bind_ok.1 hvalid
  obtain ⟨_, _, hvalid⟩ := outcome_bind_ok.1 hvalid
  cases hvalid
  obtain ⟨_, _, hmembers⟩ := AttestationObject.parse_eq_ok.1 hparse
  exact hmembers.data.wellFormed (attested_eq_ok.1 hattested)

end Registration

/-! ### Reading and using -/

/-- Which data items are read as which key, and that nothing is amiss with a key that was registered: its material is
usable, and verifying with it is the test of its algorithm. -/
theorem Cose.Key.reading_exact_and_usable (value : Cbor.Value) (key : Cose.Key)
    (h : ∀ entries, value = .map entries → (entries.map Prod.fst).Nodup) :
    ((Cose.Key.ofCbor value).outcome = .ok key ↔
      ∃ entries, value = .map entries ∧ (∀ entry ∈ entries, ∃ n, entry.1 = .int n) ∧
        key.StandsIn entries) ∧
    ∀ (registration : Registration) policy registry challenge transports owner credential,
      (registration.credential policy registry challenge transports owner).outcome =
        .ok credential →
      credential.publicKey.usable.outcome = .ok () ∧
      ∃ test, credential.publicKey.SignatureTest test ∧
        (∀ signature message,
          (credential.publicKey.verifies signature message).outcome = .ok (test signature message)) ∧
        ∀ signature authenticatorData clientDataHash,
          (credential.publicKey.verify signature authenticatorData clientDataHash).outcome =
            if test signature (authenticatorData ++ clientDataHash) then .ok ()
            else .error .signatureVerificationFailed := by
  refine ⟨Cose.Key.outcome_ofCbor_iff h, ?_⟩
  intro registration policy registry challenge transports owner credential hcredential
  have hwell := Registration.wellFormed_of_credential hcredential
  obtain ⟨test, htest⟩ := hwell.exists_signatureTest
  exact ⟨hwell.usable, test, htest, htest.outcome_verifies, htest.outcome_verify⟩

namespace Registration

/-- The key of the authenticator with its parameters in another order, and one that no type of key has. -/
def sampleKeyItem : Cbor.Value :=
  match sampleAuthenticator.keyPair.publicKey.toCbor with
  | .map entries => .map ((.int 99, .bool true) :: entries.reverse)
  | item => item

set_option maxRecDepth 100000 in
/-- The authenticator's key is read from the item and stands in its entries, and the credential that is registered with
it takes a signature of the authenticator. -/
theorem sample_key_usable :
    (∃ entries, sampleKeyItem = .map entries ∧ (entries.map Prod.fst).Nodup ∧
      sampleAuthenticator.keyPair.publicKey.StandsIn entries) ∧
    ∃ credential test,
      ((sampleAuthenticator.register sampleChallenge).credential samplePolicy .standard
        sampleChallenge (.ofList []) ⟨.zeros⟩).outcome = .ok credential ∧
      credential.publicKey.SignatureTest test ∧
      test (sampleAuthenticator.keyPair.sign .zeros [1, 2, 3]) [1, 2, 3] = true := by
  have hentries : ∃ entries, sampleKeyItem = .map entries ∧ (entries.map Prod.fst).Nodup :=
    ⟨_, rfl, by decide +kernel⟩
  obtain ⟨entries, hitem, hdistinct⟩ := hentries
  have hread : (Cose.Key.ofCbor sampleKeyItem).outcome = .ok sampleAuthenticator.keyPair.publicKey :=
    toOption_outcome_iff.1 (by decide +kernel)
  have hregistered : (((sampleAuthenticator.register sampleChallenge).credential samplePolicy .standard
      sampleChallenge (.ofList []) ⟨.zeros⟩).outcome.toOption.map Credential.publicKey) =
        some sampleAuthenticator.keyPair.publicKey := by
    decide +kernel
  have hverifies : (sampleAuthenticator.keyPair.publicKey.verifies
      (sampleAuthenticator.keyPair.sign .zeros [1, 2, 3]) [1, 2, 3]).outcome = .ok true :=
    toOption_outcome_iff.1 (by decide +kernel)
  obtain ⟨hexact, hused⟩ := Cose.Key.reading_exact_and_usable sampleKeyItem
    sampleAuthenticator.keyPair.publicKey (by rintro _ h; cases hitem.symm.trans h; exact hdistinct)
  obtain ⟨found, hfound, _, hstands⟩ := hexact.1 hread
  obtain ⟨credential, hcredential, hkey⟩ := Option.map_eq_some_iff.1 hregistered
  obtain ⟨_, test, htest, htests, _⟩ := hused _ _ _ _ _ _ credential
    (toOption_outcome_iff.1 hcredential)
  refine ⟨⟨entries, hitem, hdistinct, ?_⟩, credential, test, toOption_outcome_iff.1 hcredential, htest, ?_⟩
  · cases hitem.symm.trans hfound
    exact hstands
  · rw [← hkey] at hverifies
    exact Except.ok.inj ((htests _ _).symm.trans hverifies)

end Registration

end WebAuthn
