import WebAuthn.Proofs.Acceptance.Registration
import WebAuthn.Proofs.Layout.KeyEntries
import WebAuthn.Proofs.Layout.StoredKey
import WebAuthn.Proofs.Layout.Written

/-!
# Key maps with a private key in them

The private key of a curve key stands under -4, that of an RSA key under -3, which for curve keys is a coordinate.

* `Cose.Parameters.HoldsPrivate` — the map names a type of key and has the private key of this type;
* `AttestedCredential.KeyItem`, `AuthenticatorData.KeyItem`, `AttestationObject.KeyItem` — the data item that stands in
  the place of the key, whatever it is; `AttestationObject.attested_of_keyItem`: what is registered is its key;
* `Cose.Key.curve_private_key_refused` — for curve keys such a map is refused wherever it stands, but the one of an RSA
  key is read as if the private key were not there;
* `Cose.Key.not_private_key_refused` — so it is not true of every type that it is refused.
-/

namespace WebAuthn

open Audited

/-! ### Maps with a private key -/

namespace Cose

variable {map : Parameters} {type : KeyType}

/-- The label of the private key in maps of a type. -/
def KeyType.privateLabel : KeyType → Int
  | .okp | .ec2 => -4
  | .rsa => -3

/-- The map names the type and has the private key of this type. -/
def Parameters.HoldsPrivate (map : Parameters) (type : KeyType) : Prop :=
  integer? map labelKeyType = some type.identifier ∧
    ∃ value, (.int type.privateLabel, value) ∈ map

/-- A key is read from maps that name its type only. -/
theorem Key.type_of_ofParameters {key : Key} (h : (Key.ofParameters map).outcome = .ok key)
    (htype : Parameters.integer? map labelKeyType = some type.identifier) :
    key.algorithm.keyType = type := by
  obtain ⟨_, hnamed, _⟩ := Key.outcome_ofParameters.1 h
  rw [htype] at hnamed
  exact (KeyType.eq_of_identifier_eq (Option.some.inj hnamed)).symm

/-- No curve key is read from a map with a private key. -/
theorem Parameters.HoldsPrivate.not_read (h : map.HoldsPrivate type) (hcurve : type ≠ .rsa) (key : Key) :
    (Key.ofCbor (.map map)).outcome ≠ .ok key := by
  intro hread
  obtain ⟨htype, value, hprivate⟩ := h
  have hkeyType := Key.type_of_ofParameters hread htype
  obtain ⟨_, _, _, hspelled, hwell⟩ := Key.outcome_ofParameters.1 hread
  have hlabel : type.privateLabel = labelSecret := by
    cases type with
    | rsa => exact absurd rfl hcurve
    | _ => rfl
  have hfound : Cbor.Value.lookupLabel labelSecret map ≠ none := by
    rw [← hlabel]
    exact fun hnone => Cbor.Value.lookup_eq_none.1 hnone value hprivate
  cases key with
  | ec2 key => exact hfound hspelled.1
  | okp key => exact hfound hspelled.1
  | rsa key => exact hcurve (hkeyType.symm.trans hwell.1)

theorem Parameters.HoldsPrivate.refused (h : map.HoldsPrivate type) (hcurve : type ≠ .rsa) :
    (Key.ofCbor (.map map)).outcome = .error .invalidAttestationObject := by
  obtain ⟨key, hread⟩ | hfails := (Key.failsOnlyWith_ofCbor (.map map)).outcome_eq
  · exact absurd hread (h.not_read hcurve key)
  · exact hfails

/-- The parameters under other labels are there without a label as well. -/
theorem Parameters.integer?_without {label other : Int} (h : label ≠ other) :
    integer? (Cbor.Value.without (.int other) map) label = integer? map label := by
  unfold integer? Cbor.Value.lookupLabel
  rw [Cbor.Value.lookup_without fun hsame => h (Cbor.Value.int.inj hsame)]

theorem Parameters.bytes?_without {label other : Int} (h : label ≠ other) :
    bytes? (Cbor.Value.without (.int other) map) label = bytes? map label := by
  unfold bytes? Cbor.Value.lookupLabel
  rw [Cbor.Value.lookup_without fun hsame => h (Cbor.Value.int.inj hsame)]

/-- Leaving out an integer label leaves out no other kind of label. -/
theorem isLabel_without (other : Int) :
    (∀ entry ∈ Cbor.Value.without (.int other) map, Key.isLabel entry.1 = true) ↔
      ∀ entry ∈ map, Key.isLabel entry.1 = true := by
  constructor
  · intro h entry hmem
    by_cases hsame : entry.1 = .int other
    · rw [hsame]
      rfl
    · exact h entry (List.mem_filter.2 ⟨hmem, decide_eq_true hsame⟩)
  · intro h entry hmem
    exact h entry (List.mem_filter.1 hmem).1

/-- An RSA key is read from a map whatever stands under the label of its private key. -/
theorem Key.read_without_private {key : Key}
    (htype : Parameters.integer? map labelKeyType = some KeyType.rsa.identifier) :
    (Key.ofParameters (Cbor.Value.without (.int KeyType.rsa.privateLabel) map)).outcome = .ok key ↔
      (Key.ofParameters map).outcome = .ok key := by
  have hspelled : ∀ rsa : RsaKey, rsa.SpelledBy (Cbor.Value.without (.int KeyType.rsa.privateLabel) map) ↔
      rsa.SpelledBy map := by
    intro rsa
    unfold RsaKey.SpelledBy
    rw [Parameters.bytes?_without (by decide), Parameters.bytes?_without (by decide)]
  -- a key of the named type has the material of an RSA key, which stands under other labels
  have hrsa : key.algorithm.keyType = .rsa → key.WellFormed →
      (key.SpelledBy (Cbor.Value.without (.int KeyType.rsa.privateLabel) map) ↔ key.SpelledBy map) := by
    intro hkeyType hwell
    cases key with
    | ec2 key => exact absurd (hkeyType.symm.trans (Algorithm.keyType_eq_ec2.2 hwell.1)) (by decide)
    | okp key => exact absurd (hkeyType.symm.trans (Algorithm.keyType_eq_okp.2 hwell.1)) (by decide)
    | rsa key => exact hspelled key
  have htype' : Parameters.integer? (Cbor.Value.without (.int KeyType.rsa.privateLabel) map)
      labelKeyType = some KeyType.rsa.identifier :=
    (Parameters.integer?_without (by decide)).trans htype
  constructor
  · intro h
    have hkeyType := type_of_ofParameters h htype'
    obtain ⟨hlabels, hnamed, halgorithm, hspell, hwell⟩ := outcome_ofParameters.1 h
    rw [Parameters.integer?_without (by decide)] at hnamed halgorithm
    exact outcome_ofParameters.2 ⟨(isLabel_without _).1 hlabels, hnamed, halgorithm,
      (hrsa hkeyType hwell).1 hspell, hwell⟩
  · intro h
    have hkeyType := type_of_ofParameters h htype
    obtain ⟨hlabels, hnamed, halgorithm, hspell, hwell⟩ := outcome_ofParameters.1 h
    refine outcome_ofParameters.2 ⟨(isLabel_without _).2 hlabels, ?_, ?_,
      (hrsa hkeyType hwell).2 hspell, hwell⟩
    · rw [Parameters.integer?_without (by decide)]
      exact hnamed
    · rw [Parameters.integer?_without (by decide)]
      exact halgorithm

theorem Key.outcome_without_private
    (htype : Parameters.integer? map labelKeyType = some KeyType.rsa.identifier) :
    (Key.ofCbor (.map map)).outcome =
      (Key.ofCbor (.map (Cbor.Value.without (.int KeyType.rsa.privateLabel) map))).outcome :=
  (Key.failsOnlyWith_ofCbor _).outcome_congr (Key.failsOnlyWith_ofCbor _) fun _ =>
    (Key.read_without_private htype).symm

end Cose

/-! ### The item in the place of the key -/

section Items

variable {attested : AttestedCredential} {bytes rest : Bytes} {item : Cbor.Value}

/-- The data item stands in the place of the key of a credential block at the front of the bytes. -/
def AttestedCredential.KeyItem (bytes : Bytes) (item : Cbor.Value) : Prop :=
  ∃ (aaguid : FixedBytes 16) (credentialId keyed rest : Bytes),
    1 ≤ credentialId.length ∧ credentialId.length ≤ maximumIdLength ∧
      bytes = aaguid.bytes ++
        (Bytes.ofNat 2 credentialId.length ++ (credentialId ++ keyed)) ∧
      parseItem keyed = .ok (item, rest)

/-- The data item stands in the place of the key of authenticator data with a credential. -/
def AuthenticatorData.KeyItem (bytes : Bytes) (item : Cbor.Value) : Prop :=
  (flagsAt bytes).hasAttested = true ∧ AttestedCredential.KeyItem (bytes.drop headerLength) item

/-- The data item stands in the place of the key in the authenticator data of an attestation object. -/
def AttestationObject.KeyItem (bytes : Bytes) (item : Cbor.Value) : Prop :=
  ∃ members rawData, Cbor.decode {} bytes = .ok (.map members) ∧
    Cbor.Value.lookupText "authData" members = some (.bytes rawData) ∧
    AuthenticatorData.KeyItem rawData item

/-- The key of a block is that of the item in its place. -/
theorem AttestedCredential.Heads.key_of_keyItem (h : attested.Heads bytes rest)
    (hitem : KeyItem bytes item) : (Cose.Key.ofCbor item).outcome = .ok attested.publicKey := by
  obtain ⟨_, hmax, keyed, found, hbytes, hfound, hkey⟩ := h
  obtain ⟨aaguid, credentialId, other, _, _, hother, rfl, hitem⟩ := hitem
  obtain ⟨_, hbytes⟩ := List.append_inj hbytes
    (aaguid.length_eq.trans attested.aaguid.length_eq.symm)
  obtain ⟨hlength, hbytes⟩ := List.append_inj hbytes
    ((Bytes.ofNat_length 2 _).trans (Bytes.ofNat_length 2 _).symm)
  have hid : credentialId.length = attested.credentialId.length := by
    have hnumber := congrArg Bytes.toNat hlength
    rwa [Bytes.toNat_ofNat_of_lt (Nat.lt_of_le_of_lt hother (by decide)),
      Bytes.toNat_ofNat_of_lt (Nat.lt_of_le_of_lt hmax (by decide))] at hnumber
  obtain ⟨_, rfl⟩ := List.append_inj hbytes hid
  cases hitem.symm.trans hfound
  exact hkey

/-- The credential of authenticator data has the key of the item in its place. -/
theorem AuthenticatorData.LaidOut.attested_of_keyItem {data : AuthenticatorData}
    (h : data.LaidOut bytes) (hitem : KeyItem bytes item) :
    ∃ attested, data.attested = some attested ∧
      (Cose.Key.ofCbor item).outcome = .ok attested.publicKey := by
  obtain ⟨hflag, hitem⟩ := hitem
  have hfields := h.fields
  obtain ⟨_, _, hsection, _⟩ := hfields.sections
  cases hattested : data.attested with
  | none =>
    rw [hattested] at hsection
    rw [← hfields.flags, hsection.1] at hflag
    cases hflag
  | some attested =>
    rw [hattested] at hsection
    exact ⟨attested, rfl, hsection.2.key_of_keyItem hitem⟩

/-- The credential of an attestation object has the key of the item in its place. -/
theorem AttestationObject.attested_of_keyItem {object : AttestationObject}
    (h : (parse bytes).outcome = .ok object) (hitem : KeyItem bytes item) :
    ∃ attested, object.data.attested = some attested ∧
      (Cose.Key.ofCbor item).outcome = .ok attested.publicKey := by
  obtain ⟨members, hmembers, hobject⟩ := parse_eq_ok.1 h
  obtain ⟨_, rawData, hdecoded, hraw, hitem⟩ := hitem
  cases hmembers.symm.trans hdecoded
  have hsame := hobject.rawData.symm.trans hraw
  obtain rfl := Cbor.Value.bytes.inj (Option.some.inj hsame)
  exact hobject.data.attested_of_keyItem hitem

end Items

/-! ### Curve keys and RSA keys -/

namespace Cose.Key

/-- A map with the private key of a curve key is refused: as a data item, as a byte string, in a credential block, and in
a registration, whose client data is all that is looked at before. What stands under the label of the private key of an
RSA key is passed over instead. -/
theorem curve_private_key_refused (type : KeyType) (map : Parameters) (h : map.HoldsPrivate type) :
    (type ≠ .rsa →
      (ofCbor (.map map)).outcome = .error .invalidAttestationObject ∧
      (∀ bytes, Cbor.decode {} bytes = .ok (.map map) →
        (decode bytes).outcome = .error .invalidAttestationObject) ∧
      (∀ bytes, AttestedCredential.KeyItem bytes (.map map) →
        (AttestedCredential.parse bytes).outcome = .error .invalidAttestationObject) ∧
      ∀ registration : Registration,
        AttestationObject.KeyItem registration.attestationObject (.map map) →
        (AttestationObject.parse registration.attestationObject).outcome =
          .error .invalidAttestationObject ∧
        ∀ policy registry challenge,
          (registration.validate policy registry challenge).outcome =
            match (ClientData.accept registration.clientDataJson policy.origins .registration
              challenge).outcome with
            | .ok _ => .error .invalidAttestationObject
            | .error failure => .error failure) ∧
    (type = .rsa →
      (ofCbor (.map map)).outcome =
        (ofCbor (.map (Cbor.Value.without (.int type.privateLabel) map))).outcome) := by
  constructor
  · intro hcurve
    have hrefused := h.refused hcurve
    refine ⟨hrefused, ?_, ?_, ?_⟩
    · intro bytes hbytes
      unfold decode
      rw [hbytes]
      exact hrefused
    · intro bytes hitem
      -- there is one way for a block to fail, so that it is enough that it is not read
      obtain ⟨⟨attested, rest⟩, hread⟩ | hfails := (AttestedCredential.failsOnlyWith_parse bytes).outcome_eq
      · have hkey := (AttestedCredential.heads_of_parse hread).key_of_keyItem hitem
        exact absurd hkey (h.not_read hcurve _)
      · exact hfails
    · intro registration hitem
      have hparse : (AttestationObject.parse registration.attestationObject).outcome =
          .error .invalidAttestationObject := by
        obtain ⟨object, hread⟩ | hfails :=
          (AttestationObject.failsOnlyWith_parse registration.attestationObject).outcome_eq
        · obtain ⟨_, _, hkey⟩ := AttestationObject.attested_of_keyItem hread hitem
          exact absurd hkey (h.not_read hcurve _)
        · exact hfails
      refine ⟨hparse, ?_⟩
      intro policy registry challenge
      unfold Registration.validate
      rw [outcome_bind]
      cases (ClientData.accept registration.clientDataJson policy.origins .registration
        challenge).outcome with
      | error failure => rfl
      | ok data =>
        show (AttestationObject.parse registration.attestationObject >>= _).outcome = _
        rw [outcome_bind, hparse]
        rfl
  · rintro rfl
    exact outcome_without_private h.1

/-- The map of a key with a private key in front. -/
def withPrivate (key : Key) : Parameters :=
  (.int key.type.privateLabel, .bytes [7]) :: key.parameters

theorem holdsPrivate_withPrivate (key : Key) : key.withPrivate.HoldsPrivate key.type := by
  refine ⟨?_, _, List.mem_cons_self⟩
  cases key <;> rfl

/-- Not every map with a private key is refused: an RSA key of 2048 bits is read from one. -/
theorem not_private_key_refused :
    ¬ ∀ (type : KeyType) (map : Parameters), map.HoldsPrivate type →
      (ofCbor (.map map)).outcome = .error .invalidAttestationObject := by
  intro h
  have hread : (ofCbor (.map (sampleKey .ps256).withPrivate)).outcome = .ok (sampleKey .ps256) :=
    outcome_ofParameters.2 ⟨by decide, rfl, rfl, ⟨rfl, rfl⟩, sample_wellFormed⟩
  rw [h .rsa _ (holdsPrivate_withPrivate (sampleKey .ps256))] at hread
  cases hread

/-- A key on Ed25519, all zero bytes. -/
def sampleCurveKey : Key :=
  .okp ⟨.edDsa, .ed25519, .zeros⟩

/-- A credential block in which the private key stands next to the public one. -/
def sampleBlock : Bytes :=
  (FixedBytes.zeros : FixedBytes 16).bytes ++
    (Bytes.ofNat 2 1 ++ ([1] ++ Cbor.encode (.map sampleCurveKey.withPrivate)))

/-- Authenticator data with this block. -/
def sampleLeakData : Bytes :=
  (FixedBytes.zeros : FixedBytes 37).bytes.set 32 Flags.attestedBit ++ sampleBlock

/-- A registration with this block. -/
def sampleLeak : Registration where
  clientDataJson := []
  attestationObject := AttestationObject.encode "none" sampleLeakData (.map [])

set_option maxRecDepth 10000 in
/-- The block and the registration are refused, while the private key of an RSA key changes nothing. -/
theorem sample_private_key_refused :
    (AttestedCredential.parse sampleBlock).outcome = .error .invalidAttestationObject ∧
    (AttestationObject.parse sampleLeak.attestationObject).outcome = .error .invalidAttestationObject ∧
    (ofCbor (.map (sampleKey .ps256).withPrivate)).outcome =
      (ofCbor (.map (sampleKey .ps256).parameters)).outcome := by
  have hdecode : Cbor.decode {} (Cbor.encode (.map sampleCurveKey.withPrivate)) =
      .ok (.map sampleCurveKey.withPrivate) :=
    rfl
  have hblock : AttestedCredential.KeyItem sampleBlock (.map sampleCurveKey.withPrivate) :=
    ⟨.zeros, [1], _, [], by decide, by decide, rfl, AttestedCredential.parseItem_eq_ok_nil.2 hdecode⟩
  have hobject : AttestationObject.KeyItem sampleLeak.attestationObject
      (.map sampleCurveKey.withPrivate) :=
    ⟨AttestationObject.members "none" sampleLeakData (.map []), sampleLeakData, rfl, rfl, by decide, hblock⟩
  obtain ⟨hrefused, _⟩ := curve_private_key_refused .okp _ (holdsPrivate_withPrivate sampleCurveKey)
  obtain ⟨_, _, hparse, hregistration⟩ := hrefused nofun
  obtain ⟨_, hrsa⟩ := curve_private_key_refused .rsa _ (holdsPrivate_withPrivate (sampleKey .ps256))
  exact ⟨hparse _ hblock, (hregistration sampleLeak hobject).1, hrsa rfl⟩

end Cose.Key

end WebAuthn
