import WebAuthn.Proofs.Layout.StoredKey
import WebAuthn.Proofs.Layout.Written

/-!
# Attestation objects are read as they were built

Three formats lie inside one another here: a map of CBOR, the authenticator data as one of its byte strings, and again
CBOR in the two sections of this data. What is put in at every level comes out of the one parse of the whole.

* `AttestationObject.Carries` — an object has all that it was built from;
* `AttestationObject.carries_written` — the object that is about to be written has;
* `AttestationObject.built_object_parsed` — this object is read from the bytes that are built.
-/

namespace WebAuthn.AttestationObject

/-- The object has all that it was built from: the statement under the format, and what the authenticator said. Of the
flags those that were asked for are set, and those of the sections that are there. -/
structure Carries (object : AttestationObject) (format : String) (draft : AuthenticatorDraft)
    (statement : Cbor.Value) : Prop where
  format : object.format = format
  statement : object.statement = some statement
  rawData : object.rawData = draft.encode
  rpIdHash : object.data.rpIdHash.bytes = sha256 (Utf8.encode draft.rpId)
  flags : ∀ index < 6, object.data.flags.bit index = (Flags.mk draft.flags).bit index
  hasAttested : object.data.flags.hasAttested = draft.attested.isSome
  hasExtensions : object.data.flags.hasExtensions = draft.extensions.isSome
  signCount : object.data.signCount = draft.signCount
  attested : object.data.attested = draft.attested.map fun (id, key) => ⟨draft.aaguid, id, key⟩
  extensions : object.data.extensions.map Cbor.Value.map = draft.extensions

/-! ### What is written -/

variable {draft : AuthenticatorDraft} {format : String} {entries : List (Cbor.Value × Cbor.Value)}

/-- The extensions that are about to be written are the map that they were given as. -/
theorem map_entriesOf (h : draft.WellFormed) :
    draft.written.extensions.map Cbor.Value.map = draft.extensions := by
  show (draft.extensions.map AuthenticatorDraft.entriesOf).map Cbor.Value.map = draft.extensions
  cases hx : draft.extensions with
  | none => rfl
  | some value =>
    obtain ⟨⟨found, rfl⟩, _, _⟩ := h.extensions value hx
    rfl

theorem carries_written (h : draft.WellFormed) :
    Carries ⟨format, draft.encode, draft.written, some (.map entries)⟩ format draft
      (.map entries) where
  format := rfl
  statement := rfl
  rawData := rfl
  rpIdHash := rfl
  flags := fun _ hindex => draft.bit_of_lt_six hindex
  hasAttested := h.bit_attested
  hasExtensions := h.bit_extensions
  signCount := rfl
  attested := rfl
  extensions := map_entriesOf h

/-! ### The whole -/

/-- The authenticator data is a part of the object. -/
theorem length_le_length_encode (format : String) (rawData : Bytes) (statement : Cbor.Value) :
    rawData.length ≤ (encode format rawData statement).length := by
  simp only [encode, members, Cbor.encode, Cbor.encodeEntries, List.length_append]
  omega

/-- An object that is built from well-formed authenticator data and a statement, both of which can be written and are
within the limits of the reader where they stand, is read back with all that it was built from. -/
theorem built_object_parsed (format : String) (draft : AuthenticatorDraft)
    (entries : List (Cbor.Value × Cbor.Value)) (hformat : format ≠ "") (hdraft : draft.WellFormed)
    (hwritable : (Cbor.Value.map entries).Writable) (hwithin : (Cbor.Value.map entries).Within {} 7)
    (hlong : (encode format draft.encode (.map entries)).length ≤ 65536) :
    ∃ object : AttestationObject,
      (parse (encode format draft.encode (.map entries))).outcome = .ok object ∧
        object.Carries format draft (.map entries) := by
  have hdata : draft.written.LaidOut draft.encode := by
    refine AuthenticatorData.laidOut_iff_concatenation.2 (hdraft.concatenation ?_)
    exact Nat.le_trans (length_le_length_encode _ _ _) hlong
  refine ⟨_, parse_eq_ok.2 ?_, carries_written hdraft⟩
  exact laidOut_encode hformat hdata rfl hwritable hwithin hlong

/-- A new credential with backup flags, a sign count and extensions. -/
def sampleDraft : AuthenticatorDraft where
  rpId := "example.org"
  flags := 0x1d
  signCount := 7
  aaguid := .zeros
  attested := some ([1, 2, 3], Cose.Key.sampleKey .ps256)
  extensions := some (.map [(.text "credProtect", .int 2)])

/-- A statement with the least integer, a tag, an array and a map in it. -/
def sampleStatement : List (Cbor.Value × Cbor.Value) :=
  [(.text "alg", .int (-18446744073709551616)),
    (.text "x5c", .array [.bytes [0, 255], .tag 24 .null]),
    (.int 0, .map [(.bool true, .text "\u00e9")])]

theorem sampleDraft_wellFormed : sampleDraft.WellFormed where
  backup := by decide
  attestedFlag := by decide
  extensionsFlag := by decide
  attested := by
    intro id key h
    obtain ⟨rfl, rfl⟩ := Prod.mk.inj (Option.some.inj h)
    exact ⟨by decide, Cose.Key.sample_wellFormed⟩
  extensions := by
    intro value h
    cases h
    refine ⟨⟨_, rfl⟩, ⟨⟨trivial, by decide, by decide⟩, trivial⟩, by decide, ?_⟩
    exact ⟨⟨by decide, by decide⟩, ⟨trivial, trivial⟩, trivial⟩

theorem length_sample_le :
    (encode "packed" sampleDraft.encode (.map sampleStatement)).length ≤ 65536 := by
  have hobject := length_encode_le "packed" sampleDraft.encode (.map sampleStatement)
  have hattested : sampleDraft.attestedBytes =
      AttestedCredential.encode ⟨.zeros, [1, 2, 3], Cose.Key.sampleKey .ps256⟩ := rfl
  have hdata := sampleDraft.length_encode
  simp only [hattested, AttestedCredential.length_encode, List.length_cons, List.length_nil] at hdata
  have hkey := (Cose.Key.sampleKey .ps256).length_encode_le
  have hmaterial := Cose.Key.sample_wellFormed.materialLength_le
  have hparts : (Utf8.encode "packed").length = 6 ∧ (Cbor.encode (.map sampleStatement)).length = 31 ∧
      sampleDraft.extensionBytes.length = 14 := by decide
  omega

/-- The object with this data and statement is read as it was built. -/
theorem sample_object_parsed :
    ∃ object : AttestationObject,
      (parse (encode "packed" sampleDraft.encode (.map sampleStatement))).outcome = .ok object ∧
        object.Carries "packed" sampleDraft (.map sampleStatement) := by
  have hwritable : (Cbor.Value.map sampleStatement).Writable :=
    ⟨⟨trivial, by decide, by decide⟩, ⟨trivial, trivial, ⟨by decide, trivial⟩, trivial⟩,
      ⟨⟨by decide, by decide⟩, ⟨trivial, trivial⟩, trivial⟩, trivial⟩
  have hwithin : (Cbor.Value.map sampleStatement).Within {} 7 :=
    ⟨by decide, ⟨by decide, by decide⟩, ⟨trivial, trivial⟩, ⟨trivial, trivial, trivial, trivial⟩,
      ⟨trivial, ⟨by decide, by decide⟩, ⟨trivial, trivial⟩, trivial⟩, trivial⟩
  exact built_object_parsed "packed" sampleDraft sampleStatement (by decide) sampleDraft_wellFormed
    hwritable hwithin length_sample_le

end WebAuthn.AttestationObject
