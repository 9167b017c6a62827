import WebAuthn.Proofs.Acceptance.Assertion
import WebAuthn.Proofs.Acceptance.Registration

/-!
# What one ceremony accepts the other one refuses

Both ceremonies sign authenticator data followed by a hash of client data, and the two messages are told apart by their
contents alone: by the type in the client data, and by the flag in the authenticator data that says whether a credential
follows. The parameters of the two ceremonies have nothing to do with each other here.

* `Registration.Accepted`, `Assertion.Accepted` — something is accepted under some parameters;
* `Registration.type_of_accepted`, `Assertion.type_of_accepted` — what its client data says about the ceremony;
* `Registration.attested_of_accepted`, `Assertion.unattested_of_accepted` — what its authenticator data says about it;
* `ceremonies_share_nothing` — neither the client data, nor the authenticator data, nor the signed message of what one
  ceremony accepts is accepted in the other one.
-/

namespace WebAuthn

open Audited

/-! ### Client data -/

theorem requireClientData_eq_ok {condition : Bool} {part : ClientDataPart} :
    (requireClientData condition part).outcome = .ok () ↔ condition = true := by
  cases condition <;> simp [requireClientData]

/-- Accepted client data is for the ceremony. -/
theorem ClientData.type_of_accept {json : Bytes} {policy : OriginPolicy} {ceremony : Ceremony}
    {challenge : Challenge} {data : ClientData}
    (h : (accept json policy ceremony challenge).outcome = .ok data) :
    Spells json fun data => data.type = ceremony.name := by
  obtain ⟨found, hparse, h⟩ := outcome_bind_ok.1 h
  obtain ⟨⟨⟩, hverify, _⟩ := outcome_bind_ok.1 h
  obtain ⟨⟨⟩, htype, _⟩ := outcome_bind_ok.1 hverify
  have hname : found.type = ceremony.name := of_decide_eq_true (requireClientData_eq_ok.1 htype)
  exact ⟨found, outcome_parse_ok.1 hparse, hname⟩

/-- Client data is for one ceremony at most. -/
theorem ClientData.ceremony_unique {json : Bytes} {a b : Ceremony}
    (ha : Spells json fun data => data.type = a.name)
    (hb : Spells json fun data => data.type = b.name) : a = b := by
  obtain ⟨data, hread, htype⟩ := ha
  have hother : data.type = b.name := (spells_iff hread _).2 hb
  exact Ceremony.name_injective (htype.symm.trans hother)

/-! ### Registrations -/

namespace Registration

variable {registration : Registration}

/-- The registration is accepted under some policy, by some registry, for some challenge. -/
def Accepted (registration : Registration) : Prop :=
  ∃ policy registry challenge attestation,
    (registration.validate policy registry challenge).outcome = .ok attestation

/-- The registration carries the authenticator data. -/
def CarriesData (registration : Registration) (bytes : Bytes) : Prop :=
  Carries registration.attestationObject fun object => object.rawData = bytes

theorem type_of_accepted (h : registration.Accepted) :
    ClientData.Spells registration.clientDataJson fun data =>
      data.type = Ceremony.registration.name := by
  obtain ⟨policy, registry, challenge, attestation, h⟩ := h
  obtain ⟨data, haccept, _⟩ := outcome_bind_ok.1 h
  exact ClientData.type_of_accept haccept

/-- The authenticator data of an accepted registration says that a credential follows. -/
theorem attested_of_accepted (h : registration.Accepted) {bytes : Bytes}
    (hcarries : registration.CarriesData bytes) :
    ∃ data : AuthenticatorData, data.LaidOut bytes ∧ data.flags.hasAttested = true := by
  obtain ⟨policy, registry, challenge, attestation, h⟩ := h
  obtain ⟨_, _, h⟩ := outcome_bind_ok.1 h
  obtain ⟨object, hparse, h⟩ := outcome_bind_ok.1 h
  obtain ⟨_, _, h⟩ := outcome_bind_ok.1 h
  obtain ⟨_, _, h⟩ := outcome_bind_ok.1 h
  obtain ⟨_, _, h⟩ := outcome_bind_ok.1 h
  obtain ⟨attested, hattested, _⟩ := outcome_bind_ok.1 h
  have hobject : object.LaidOut registration.attestationObject :=
    AttestationObject.parse_eq_ok.1 hparse
  have hraw : object.rawData = bytes := (carries_iff hobject _).2 hcarries
  obtain ⟨_, _, hmembers⟩ := hobject
  have hlaid : object.data.LaidOut bytes := by
    rw [← hraw]
    exact hmembers.data
  have hsections := hlaid.fields.sections
  obtain ⟨_, _, hsection, _⟩ := hsections
  rw [attested_eq_ok.1 hattested] at hsection
  exact ⟨object.data, hlaid, hsection.1⟩

end Registration

/-! ### Assertions -/

namespace Assertion

variable {assertion : Assertion}

/-- The assertion is accepted under some policy, for some credential and some challenge. -/
def Accepted (assertion : Assertion) : Prop :=
  ∃ policy credential challenge signCount,
    (assertion.validate policy credential challenge).outcome = .ok signCount

theorem type_of_accepted (h : assertion.Accepted) :
    ClientData.Spells assertion.clientDataJson fun data =>
      data.type = Ceremony.authentication.name := by
  obtain ⟨policy, credential, challenge, signCount, h⟩ := h
  obtain ⟨_, _, h⟩ := outcome_bind_ok.1 h
  obtain ⟨data, haccept, _⟩ := outcome_bind_ok.1 h
  exact ClientData.type_of_accept haccept

/-- The authenticator data of an accepted assertion says that no credential follows. -/
theorem unattested_of_accepted (h : assertion.Accepted) :
    ∃ data : AuthenticatorData,
      data.LaidOut assertion.authenticatorData ∧ data.flags.hasAttested = false := by
  obtain ⟨policy, credential, challenge, signCount, h⟩ := h
  obtain ⟨_, _, h⟩ := outcome_bind_ok.1 h
  obtain ⟨_, _, h⟩ := outcome_bind_ok.1 h
  obtain ⟨data, hparse, h⟩ := outcome_bind_ok.1 h
  obtain ⟨⟨⟩, hrefuse, _⟩ := outcome_bind_ok.1 h
  exact ⟨data, AuthenticatorData.parse_eq_ok.1 hparse, refuseAttested_eq_ok.1 hrefuse⟩

end Assertion

/-! ### Both ceremonies -/

section Separation

variable {registration : Registration} {assertion : Assertion}

/-- What is accepted in one ceremony and in the other one has different client data. -/
theorem clientDataJson_ne_of_accepted (hr : registration.Accepted) (ha : assertion.Accepted) :
    assertion.clientDataJson ≠ registration.clientDataJson := by
  intro hsame
  have htype := Assertion.type_of_accepted ha
  rw [hsame] at htype
  have hceremony := ClientData.ceremony_unique (Registration.type_of_accepted hr) htype
  cases hceremony

/-- What is accepted in one ceremony and in the other one has different authenticator data. -/
theorem not_carriesData_of_accepted (hr : registration.Accepted) (ha : assertion.Accepted) :
    ¬ registration.CarriesData assertion.authenticatorData := by
  intro hcarries
  obtain ⟨data, hlaid, hset⟩ := Registration.attested_of_accepted hr hcarries
  obtain ⟨other, hother, hclear⟩ := Assertion.unattested_of_accepted ha
  have hflags : data.flags = other.flags := hlaid.fields.flags.trans hother.fields.flags.symm
  rw [hflags, hclear] at hset
  cases hset

/-- Messages that end in digests are equal only if what stands before the digests is equal. -/
theorem eq_of_append_sha256 {a b json other : Bytes}
    (h : a ++ sha256 json = b ++ sha256 other) : a = b := by
  have hlen : (sha256 json).length = (sha256 other).length := by
    rw [sha256_length, sha256_length]
  exact (List.append_inj' h hlen).1

/-- The client data and the authenticator data of an accepted registration are refused in every assertion, and those of
an accepted assertion in every registration, whatever the other parameters are. Nor is there an accepted assertion that
signs what an accepted registration signs, so that a signature made for one of them serves for no other. -/
theorem ceremonies_share_nothing :
    (∀ registration : Registration, registration.Accepted →
      ∀ assertion : Assertion,
        assertion.clientDataJson = registration.clientDataJson ∨
          registration.CarriesData assertion.authenticatorData →
        ∀ policy credential challenge, ∃ failure,
          (assertion.validate policy credential challenge).outcome = .error failure) ∧
    (∀ assertion : Assertion, assertion.Accepted →
      ∀ registration : Registration,
        registration.clientDataJson = assertion.clientDataJson ∨
          registration.CarriesData assertion.authenticatorData →
        ∀ policy registry challenge, ∃ failure,
          (registration.validate policy registry challenge).outcome = .error failure) ∧
    (∀ (registration : Registration) (assertion : Assertion),
      registration.Accepted → assertion.Accepted →
        ∀ data, registration.CarriesData data →
          data ++ sha256 registration.clientDataJson ≠
            assertion.authenticatorData ++ sha256 assertion.clientDataJson) := by
  refine ⟨?_, ?_, ?_⟩
  · intro registration hr assertion hshared policy credential challenge
    cases ho : (assertion.validate policy credential challenge).outcome with
    | error failure => exact ⟨failure, rfl⟩
    | ok signCount =>
      have ha : assertion.Accepted := ⟨policy, credential, challenge, signCount, ho⟩
      obtain hjson | hdata := hshared
      · exact absurd hjson (clientDataJson_ne_of_accepted hr ha)
      · exact absurd hdata (not_carriesData_of_accepted hr ha)
  · intro assertion ha registration hshared policy registry challenge
    cases ho : (registration.validate policy registry challenge).outcome with
    | error failure => exact ⟨failure, rfl⟩
    | ok attestation =>
      have hr : registration.Accepted := ⟨policy, registry, challenge, attestation, ho⟩
      obtain hjson | hdata := hshared
      · exact absurd hjson.symm (clientDataJson_ne_of_accepted hr ha)
      · exact absurd hdata (not_carriesData_of_accepted hr ha)
  · intro registration assertion hr ha data hcarries hmessage
    have hdata : data = assertion.authenticatorData := eq_of_append_sha256 hmessage
    rw [hdata] at hcarries
    exact not_carriesData_of_accepted hr ha hcarries

set_option maxRecDepth 100000 in
/-- A registration that is accepted, whose client data is refused in every assertion. -/
theorem sample_registration_refused :
    (Registration.sampleAuthenticator.register Registration.sampleChallenge).Accepted ∧
      ∀ assertion : Assertion,
        assertion.clientDataJson =
            (Registration.sampleAuthenticator.register Registration.sampleChallenge).clientDataJson →
          ∀ policy credential challenge, ∃ failure,
            (assertion.validate policy credential challenge).outcome = .error failure := by
  have haccepted :
      (Registration.sampleAuthenticator.register Registration.sampleChallenge).Accepted := by
    have hsome : ((Registration.sampleAuthenticator.register Registration.sampleChallenge).validate
        Registration.samplePolicy .standard Registration.sampleChallenge).outcome.toOption.isSome =
          true := by
      decide +kernel
    obtain ⟨attestation, hvalidated⟩ := Option.isSome_iff_exists.1 hsome
    exact ⟨_, _, _, attestation, toOption_outcome_iff.1 hvalidated⟩
  obtain ⟨hrefused, _⟩ := ceremonies_share_nothing
  exact ⟨haccepted, fun assertion hsame => hrefused _ haccepted assertion (.inl hsame)⟩

end Separation

end WebAuthn
