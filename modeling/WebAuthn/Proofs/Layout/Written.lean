import WebAuthn.Authenticator.Draft
import WebAuthn.Proofs.Layout.AttestationObject
import WebAuthn.Proofs.Layout.Concatenation
import WebAuthn.Proofs.Layout.WrittenKey

/-!
# What authenticators write is laid out

* `AuthenticatorDraft.WellFormed` — what is about to be written has a layout;
* `AuthenticatorDraft.written` — the authenticator data that it says;
* `AuthenticatorDraft.WellFormed.concatenation` — its bytes are the concatenation of the fields of this data;
* `AttestationObject.laidOut_encode` — the bytes of an attestation object are the whole of it.
-/

namespace WebAuthn

/-! ### Flags -/

/-- A byte with one bit, or none. -/
theorem testBit_ite {bit : UInt8} {n : Nat} (h : bit.toNat = Nat.pow 2 n) (present : Bool) (index : Nat) :
    (if present = true then bit else 0).toNat.testBit index = (present && decide (n = index)) := by
  cases present with
  | false => exact Nat.zero_testBit index
  | true =>
    show bit.toNat.testBit index = _
    rw [h, Bool.true_and]
    exact Nat.testBit_two_pow

namespace AuthenticatorDraft

variable {draft : AuthenticatorDraft}

/-- The flags that were asked for, and the two that say which sections are there. -/
theorem bit_flagByte (draft : AuthenticatorDraft) (index : Nat) :
    (Flags.mk draft.flagByte).bit index =
      ((Flags.mk draft.flags).bit index || (draft.attested.isSome && decide (6 = index)) ||
        (draft.extensions.isSome && decide (7 = index))) := by
  have hattested : Flags.attestedBit.toNat = Nat.pow 2 6 := rfl
  have hextensions : Flags.extensionsBit.toNat = Nat.pow 2 7 := rfl
  rw [Flags.bit, flagByte, UInt8.toNat_or, UInt8.toNat_or, Nat.testBit_or, Nat.testBit_or,
    testBit_ite hattested, testBit_ite hextensions]
  rfl

/-! ### Authenticator data -/

/-- What is about to be written has a layout: the two flags of the sections are not asked for without the section, and
what the sections hold can be written and read. -/
structure WellFormed (draft : AuthenticatorDraft) : Prop where
  backup : (Flags.mk draft.flags).backupState = true → (Flags.mk draft.flags).backupEligible = true
  attestedFlag : (Flags.mk draft.flags).hasAttested = true → draft.attested.isSome = true
  extensionsFlag : (Flags.mk draft.flags).hasExtensions = true → draft.extensions.isSome = true
  attested : ∀ id key, draft.attested = some (id, key) →
    (1 ≤ id.length ∧ id.length ≤ AttestedCredential.maximumIdLength) ∧ key.WellFormed
  extensions : ∀ value, draft.extensions = some value →
    (∃ entries, value = .map entries) ∧ value.Writable ∧ value.Within {} 8

def entriesOf : Cbor.Value → List (Cbor.Value × Cbor.Value)
  | .map entries => entries
  | _ => []

def written (draft : AuthenticatorDraft) : AuthenticatorData where
  rpIdHash := ⟨sha256 (Utf8.encode draft.rpId), sha256_length _⟩
  flags := ⟨draft.flagByte⟩
  signCount := draft.signCount
  attested := draft.attested.map fun (id, key) => ⟨draft.aaguid, id, key⟩
  extensions := draft.extensions.map entriesOf

/-- An encoding that is not too long fits into eight bytes. -/
theorem lt_of_le_maximumLength {n : Nat} (h : n ≤ AuthenticatorData.maximumLength) :
    n < Nat.pow 256 8 :=
  Nat.lt_of_le_of_lt h (by decide)

/-- The flags below those of the sections are as they were asked for. -/
theorem bit_of_lt_six (draft : AuthenticatorDraft) {index : Nat} (h : index < 6) :
    (Flags.mk draft.flagByte).bit index = (Flags.mk draft.flags).bit index := by
  have hsix : decide (6 = index) = false := decide_eq_false (by omega)
  have hseven : decide (7 = index) = false := decide_eq_false (by omega)
  rw [bit_flagByte, hsix, hseven, Bool.and_false, Bool.and_false, Bool.or_false, Bool.or_false]

theorem userPresent_written (draft : AuthenticatorDraft) :
    draft.written.flags.userPresent = (Flags.mk draft.flags).userPresent :=
  draft.bit_of_lt_six (by decide)

theorem userVerified_written (draft : AuthenticatorDraft) :
    draft.written.flags.userVerified = (Flags.mk draft.flags).userVerified :=
  draft.bit_of_lt_six (by decide)

theorem or_eq_right {asked present : Bool} (h : asked = true → present = true) :
    (asked || present) = present := by
  cases asked with
  | false => rfl
  | true => rw [h rfl, Bool.true_or]

theorem WellFormed.bit_attested (h : draft.WellFormed) :
    (Flags.mk draft.flagByte).bit 6 = draft.attested.isSome := by
  have hsix : decide (6 = 6) = true := rfl
  have hseven : decide (7 = 6) = false := rfl
  rw [bit_flagByte, hsix, hseven, Bool.and_true, Bool.and_false, Bool.or_false]
  exact or_eq_right h.attestedFlag

theorem WellFormed.bit_extensions (h : draft.WellFormed) :
    (Flags.mk draft.flagByte).bit 7 = draft.extensions.isSome := by
  have hsix : decide (6 = 7) = false := rfl
  have hseven : decide (7 = 7) = true := rfl
  rw [bit_flagByte, hsix, hseven, Bool.and_true, Bool.and_false, Bool.or_false]
  exact or_eq_right h.extensionsFlag

theorem WellFormed.credentialSection (h : draft.WellFormed)
    (hlong : draft.attestedBytes.length ≤ AuthenticatorData.maximumLength) :
    AuthenticatorData.CredentialSection ⟨draft.flagByte⟩ draft.written.attested
      draft.attestedBytes := by
  have hbit := h.bit_attested
  unfold written attestedBytes at *
  cases ha : draft.attested with
  | none =>
    rw [ha] at hbit
    exact ⟨hbit, rfl⟩
  | some attested =>
    obtain ⟨id, key⟩ := attested
    obtain ⟨⟨hpos, hmax⟩, hkey⟩ := h.attested id key ha
    rw [ha] at hbit hlong
    simp only [AttestedCredential.encode, List.length_append] at hlong
    have hencodes : Cbor.Encodes key.toCbor key.encode :=
      Cbor.encodes_encode _ key.writable_toCbor (lt_of_le_maximumLength (by
        show key.encode.length ≤ _
        omega))
    refine ⟨hbit, hpos, hmax, key.toCbor, key.encode, ⟨hencodes, key.within_toCbor 6⟩,
      Cose.Key.ofCbor_toCbor hkey, ?_⟩
    simp only [AttestedCredential.encode, List.append_assoc]

theorem WellFormed.extensionsSection (h : draft.WellFormed)
    (hlong : draft.extensionBytes.length ≤ AuthenticatorData.maximumLength) :
    AuthenticatorData.ExtensionsSection ⟨draft.flagByte⟩ draft.written.extensions
      draft.extensionBytes := by
  have hbit := h.bit_extensions
  unfold written extensionBytes at *
  cases hx : draft.extensions with
  | none =>
    rw [hx] at hbit
    exact ⟨hbit, rfl⟩
  | some value =>
    obtain ⟨⟨entries, rfl⟩, hwritable, hwithin⟩ := h.extensions value hx
    rw [hx] at hbit hlong
    exact ⟨hbit, Cbor.encodes_encode _ hwritable (lt_of_le_maximumLength hlong), hwithin⟩

/-- The bytes are the fields of the data, one after the other. -/
theorem WellFormed.concatenation (h : draft.WellFormed)
    (hlong : draft.encode.length ≤ AuthenticatorData.maximumLength) :
    draft.written.Concatenation draft.encode := by
  have hbytes : draft.encode = draft.written.rpIdHash.bytes ++ ([draft.written.flags.byte] ++
      (Bytes.ofNat 4 draft.written.signCount.toNat ++
        (draft.attestedBytes ++ draft.extensionBytes))) := rfl
  have hlengths := hlong
  rw [hbytes] at hlengths
  simp only [List.length_append] at hlengths
  refine ⟨hlong, ?_, draft.attestedBytes, draft.extensionBytes, h.credentialSection (by omega),
    h.extensionsSection (by omega), hbytes⟩
  show (Flags.mk draft.flagByte).bit 4 = true → (Flags.mk draft.flagByte).bit 3 = true
  rw [draft.bit_of_lt_six (by decide), draft.bit_of_lt_six (by decide)]
  exact h.backup

/-- How long the authenticator data is: a header of 37 bytes and the sections. -/
theorem length_encode (draft : AuthenticatorDraft) :
    draft.encode.length = 37 + (draft.attestedBytes.length + draft.extensionBytes.length) := by
  simp only [encode, List.length_append, List.length_cons, sha256_length, Bytes.ofNat_length]
  omega

end AuthenticatorDraft

theorem AttestedCredential.length_encode (attested : AttestedCredential) :
    attested.encode.length =
      18 + (attested.credentialId.length + attested.publicKey.encode.length) := by
  simp only [encode, List.length_append, attested.aaguid.length_eq, Bytes.ofNat_length]

/-! ### Attestation objects -/

namespace AttestationObject

/-- An object whose parts can be written is read back from its bytes. -/
theorem laidOut_encode {object : AttestationObject} {entries : List (Cbor.Value × Cbor.Value)}
    (hformat : object.format ≠ "") (hdata : object.data.LaidOut object.rawData)
    (hstatement : object.statement = some (.map entries))
    (hwritable : (Cbor.Value.map entries).Writable) (hwithin : (Cbor.Value.map entries).Within {} 7)
    (hlong : (encode object.format object.rawData (.map entries)).length ≤
      AuthenticatorData.maximumLength) :
    object.LaidOut (encode object.format object.rawData (.map entries)) := by
  have hkeys : ([Cbor.Value.text "fmt", .text "attStmt", .text "authData"]).Nodup := by decide
  have hscalar : ∀ value : Cbor.Value, value.nesting = 1 → value.Keyed 64 → value.Within {} 7 :=
    fun value hn hk => ⟨by rw [hn]; decide, hk⟩
  -- there are three members, so that only the statement can exceed the limits, one level down
  have hmembers : (Cbor.Value.map (members object.format object.rawData (.map entries))).Within {} 8 := by
    rw [Cbor.Value.within_map]
    refine ⟨⟨(by decide : 3 ≤ 64), hkeys⟩, ?_⟩
    simp only [members, List.forall_mem_cons]
    refine ⟨⟨hscalar _ rfl trivial, hscalar _ rfl trivial⟩, ⟨hscalar _ rfl trivial, hwithin⟩,
      ⟨hscalar _ rfl trivial, hscalar _ rfl trivial⟩, List.forall_mem_nil _⟩
  have hdecode : Cbor.decode {} (encode object.format object.rawData (.map entries)) =
      .ok (.map (members object.format object.rawData (.map entries))) :=
    Cbor.decode_encode ⟨⟨trivial, trivial⟩, ⟨trivial, hwritable⟩, ⟨trivial, trivial⟩, trivial⟩
      (Nat.lt_of_le_of_lt hlong (by decide)) hlong hmembers
  refine ⟨_, hdecode, ?_⟩
  exact {
    format := rfl
    format_ne := hformat
    rawData := rfl
    statement := hstatement.symm
    statement_map := fun statement hs => ⟨entries, Option.some.inj (hs.symm.trans hstatement)⟩
    data := hdata }

/-- An attestation object is longer than its parts by a map, three keys and three heads. -/
theorem length_encode_le (format : String) (rawData : Bytes) (statement : Cbor.Value) :
    (encode format rawData statement).length ≤
      48 + ((Utf8.encode format).length + (Cbor.encode statement).length + rawData.length) := by
  have hkeys : (Cbor.encode (.text "fmt")).length = 4 ∧ (Cbor.encode (.text "attStmt")).length = 8 ∧
      (Cbor.encode (.text "authData")).length = 9 := by decide
  obtain ⟨hfmt, hattStmt, hauthData⟩ := hkeys
  have htext : (Cbor.encode (.text format)).length ≤ 9 + (Utf8.encode format).length := by
    have hhead := Cbor.length_head_le 3 (Utf8.encode format).length
    rw [Cbor.encode, List.length_append]
    omega
  have hbytes := Cbor.length_encode_bytes_le rawData
  have hentries : (Cbor.encodeEntries (members format rawData statement)).length =
      21 + ((Cbor.encode (.text format)).length + (Cbor.encode statement).length +
        (Cbor.encode (.bytes rawData)).length) := by
    simp only [members, Cbor.encodeEntries, List.length_append, List.length_nil, hfmt, hattStmt,
      hauthData]
    omega
  have hmap := Cbor.length_head_le 5 (members format rawData statement).length
  show (Cbor.encode (.map (members format rawData statement))).length ≤ _
  rw [Cbor.encode, List.length_append]
  omega

end AttestationObject

end WebAuthn
