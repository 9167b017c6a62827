import WebAuthn.Attestation.Object
import WebAuthn.Proofs.Layout.AuthenticatorData

/-!
# The layout of attestation objects

* `AttestationObject.Members` — what stands under the three names of a map;
* `AttestationObject.LaidOut` — the bytes are the whole of an attestation object; `AttestationObject.parse_eq_ok`;
* `AttestationObject.failsOnlyWith_parse` — the one failure of reading.

Members under other names are passed over.
-/

namespace WebAuthn.AttestationObject

open Audited

structure Members (object : AttestationObject) (members : List (Cbor.Value × Cbor.Value)) :
    Prop where
  format : Cbor.Value.lookupText "fmt" members = some (.text object.format)
  format_ne : object.format ≠ ""
  rawData : Cbor.Value.lookupText "authData" members = some (.bytes object.rawData)
  statement : Cbor.Value.lookupText "attStmt" members = object.statement
  statement_map : ∀ statement ∈ object.statement, ∃ entries, statement = .map entries
  data : object.data.LaidOut object.rawData

/-- The bytes are the whole of the object. -/
def LaidOut (object : AttestationObject) (bytes : Bytes) : Prop :=
  ∃ members, Cbor.decode {} bytes = .ok (.map members) ∧ object.Members members

variable {members : List (Cbor.Value × Cbor.Value)} {object : AttestationObject} {bytes : Bytes}

/-! ### Members -/

theorem parseFormat_eq_ok {format : String} :
    (parseFormat members).outcome = .ok format ↔
      Cbor.Value.lookupText "fmt" members = some (.text format) ∧ format ≠ "" := by
  unfold parseFormat
  constructor
  · intro h
    split at h
    · next found hm =>
      split at h
      · cases h
      · next hne =>
        cases h
        exact ⟨hm, hne⟩
    · cases h
  · intro h
    rw [h.1]
    show (if format = "" then malformedAttestation _ else pure format).outcome = _
    rw [if_neg h.2]
    rfl

theorem parseRawData_eq_ok {rawData : Bytes} :
    (parseRawData members).outcome = .ok rawData ↔
      Cbor.Value.lookupText "authData" members = some (.bytes rawData) := by
  unfold parseRawData
  constructor
  · intro h
    split at h
    · next found hm =>
      cases h
      exact hm
    · cases h
  · intro h
    rw [h]
    rfl

theorem parseStatement_eq_ok {statement : Option Cbor.Value} :
    (parseStatement members).outcome = .ok statement ↔
      Cbor.Value.lookupText "attStmt" members = statement ∧
        ∀ item ∈ statement, ∃ entries, item = .map entries := by
  unfold parseStatement
  constructor
  · intro h
    split at h
    · next entries hm =>
      cases h
      refine ⟨hm, fun item hi => ⟨entries, ?_⟩⟩
      exact (Option.mem_some_iff.1 hi).symm
    · cases h
    · next hm =>
      cases h
      exact ⟨hm, fun item hi => absurd hi (Option.not_mem_none item)⟩
  · intro h
    obtain ⟨hm, hmap⟩ := h
    rw [hm]
    cases statement with
    | none => rfl
    | some item =>
      obtain ⟨entries, rfl⟩ := hmap item rfl
      rfl

/-! ### Objects -/

theorem ofMembers_eq_ok : (ofMembers members).outcome = .ok object ↔ object.Members members := by
  unfold ofMembers
  constructor
  · intro h
    obtain ⟨format, hf, h⟩ := outcome_bind_ok.1 h
    obtain ⟨rawData, hr, h⟩ := outcome_bind_ok.1 h
    obtain ⟨statement, hs, h⟩ := outcome_bind_ok.1 h
    obtain ⟨data, hd, h⟩ := outcome_bind_ok.1 h
    cases h
    obtain ⟨hf, hne⟩ := parseFormat_eq_ok.1 hf
    obtain ⟨hs, hmap⟩ := parseStatement_eq_ok.1 hs
    exact ⟨hf, hne, parseRawData_eq_ok.1 hr, hs, hmap, AuthenticatorData.parse_eq_ok.1 hd⟩
  · intro h
    refine outcome_bind_ok.2 ⟨_, parseFormat_eq_ok.2 ⟨h.format, h.format_ne⟩, ?_⟩
    refine outcome_bind_ok.2 ⟨_, parseRawData_eq_ok.2 h.rawData, ?_⟩
    refine outcome_bind_ok.2 ⟨_, parseStatement_eq_ok.2 ⟨h.statement, h.statement_map⟩, ?_⟩
    exact outcome_bind_ok.2 ⟨_, AuthenticatorData.parse_eq_ok.2 h.data, rfl⟩

/-- What is read is laid out in the bytes, and the other way round. -/
theorem parse_eq_ok : (parse bytes).outcome = .ok object ↔ object.LaidOut bytes := by
  unfold parse LaidOut
  constructor
  · intro h
    split at h
    · next members hm => exact ⟨members, hm, ofMembers_eq_ok.1 h⟩
    · cases h
    · cases h
  · intro h
    obtain ⟨members, hm, h⟩ := h
    rw [hm]
    exact ofMembers_eq_ok.2 h

/-- Bytes are the whole of at most one object. -/
theorem LaidOut.unique {other : AttestationObject} (h : object.LaidOut bytes)
    (ho : other.LaidOut bytes) : other = object := by
  have he := (parse_eq_ok.2 ho).symm.trans (parse_eq_ok.2 h)
  cases he
  rfl

theorem failsOnlyWith_ofMembers (members : List (Cbor.Value × Cbor.Value)) :
    FailsOnlyWith .invalidAttestationObject (ofMembers members) := by
  have hformat : FailsOnlyWith .invalidAttestationObject (parseFormat members) := by
    unfold parseFormat
    split
    · split
      · exact failsOnlyWith_refuseWith _ _
      · exact failsOnlyWith_pure _
    · exact failsOnlyWith_refuseWith _ _
  have hraw : FailsOnlyWith .invalidAttestationObject (parseRawData members) := by
    unfold parseRawData
    split
    · exact failsOnlyWith_pure _
    · exact failsOnlyWith_refuseWith _ _
  have hstatement : FailsOnlyWith .invalidAttestationObject (parseStatement members) := by
    unfold parseStatement
    split
    · exact failsOnlyWith_pure _
    · exact failsOnlyWith_refuseWith _ _
    · exact failsOnlyWith_pure _
  refine hformat.bind fun _ => hraw.bind fun rawData => hstatement.bind fun _ => ?_
  exact (AuthenticatorData.failsOnlyWith_parse rawData).bind fun _ => failsOnlyWith_pure _

/-- Reading has one way to fail. -/
theorem failsOnlyWith_parse (bytes : Bytes) :
    FailsOnlyWith .invalidAttestationObject (parse bytes) := by
  unfold parse
  split
  · exact failsOnlyWith_ofMembers _
  · exact failsOnlyWith_refuseWith _ _
  · exact failsOnlyWith_refuseWith _ _

end WebAuthn.AttestationObject
