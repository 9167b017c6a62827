import WebAuthn.Proofs.Layout.WrittenKey

/-!
# Keys survive being stored

A key that is kept as its bytes is read back as itself or not at all. Algorithm, curve and material of the key may be
any: what the reader checks is exactly what makes a key well formed.

* `Cose.Key.encodes_encode` — the bytes of any key encode its data item;
* `Cose.Key.decode_encode_of_le` — they are read as this data item, if they are not too many;
* `Cose.Key.stored_key_read_back` — they are read as the key if it is well formed, and refused otherwise.
-/

namespace WebAuthn.Cose.Key

open Audited

variable {key other : Key}

/-! ### The bytes of a key -/

theorem Scalar.encodes {most : Nat} {value : Cbor.Value} (h : Scalar most value)
    (hmost : most < Nat.pow 256 8) : Cbor.Encodes value (Cbor.encode value) := by
  cases value with
  | int n =>
    have hlength : (Cbor.encode (.int n)).length < Nat.pow 256 8 :=
      Nat.lt_of_le_of_lt (Cbor.length_encode_int_le n) (by decide)
    exact Cbor.encodes_encode _ h.writable hlength
  | bytes content => exact Cbor.encodes_head (Nat.lt_of_le_of_lt h hmost) .bytes
  | _ => cases h

/-- The bytes of a key encode its data item, whatever the key is. -/
theorem encodes_encode (h : key.materialLength < Nat.pow 256 8) :
    Cbor.Encodes key.toCbor key.encode := by
  have hrow : ∀ entries : Parameters,
      (∀ entry ∈ entries, Scalar 0 entry.1 ∧ Scalar key.materialLength entry.2) →
        Cbor.PairRow Cbor.Encodes entries (Cbor.encodeEntries entries) := by
    intro entries hentries
    induction entries with
    | nil => exact .nil
    | cons entry rest ih =>
      obtain ⟨⟨hlabel, hvalue⟩, hrest⟩ := List.forall_mem_cons.1 hentries
      exact .cons (hlabel.encodes (by decide)) (hvalue.encodes h) (ih hrest)
  have hcount : key.parameters.length < Nat.pow 256 8 :=
    Nat.lt_of_le_of_lt key.length_parameters_le (by decide)
  rw [Key.encode, toCbor]
  exact Cbor.encodes_head hcount (.map (hrow _ key.scalar_parameters))

/-- Bytes that the reader takes are read as the data item of the key. -/
theorem decode_encode_of_le (h : key.encode.length ≤ 65536) :
    Cbor.decode {} key.encode = .ok key.toCbor :=
  Cbor.decode_encode key.writable_toCbor (Nat.lt_of_le_of_lt h (by decide)) h (key.within_toCbor 6)

theorem WellFormed.length_encode_le (h : key.WellFormed) : key.encode.length ≤ 65536 := by
  have hlength := key.length_encode_le
  have hmaterial := h.materialLength_le
  omega

/-! ### Reading them back -/

/-- The bytes of a key are read as this key if it is well formed, and never as another one. -/
theorem outcome_decode_encode :
    (decode key.encode).outcome = .ok other ↔ key.WellFormed ∧ other = key := by
  rw [outcome_decode, ← outcome_ofCbor_toCbor]
  constructor
  · intro h
    obtain ⟨value, hdecode, hread⟩ := h
    -- bytes of any data item are not too many, so that they are those of the key
    have hlength := (Cbor.decode_eq_ok_iff.1 hdecode).1
    rw [decode_encode_of_le hlength] at hdecode
    cases hdecode
    exact hread
  · intro h
    have hwell := (outcome_ofCbor_toCbor.1 h).1
    exact ⟨key.toCbor, decode_encode_of_le hwell.length_encode_le, h⟩

/-- Any key can be written: its bytes encode its data item, as long as the lengths in it fit into eight bytes. A
well-formed key is read back from its bytes, and nothing else is; the bytes of any other key are refused. -/
theorem stored_key_read_back (key : Key) :
    (key.materialLength < Nat.pow 256 8 → Cbor.Encodes key.toCbor key.encode) ∧
    (∀ other : Key, (decode key.encode).outcome = .ok other ↔ key.WellFormed ∧ other = key) ∧
    ∀ failure : Failure, (decode key.encode).outcome = .error failure ↔
      ¬ key.WellFormed ∧ failure = .invalidAttestationObject := by
  refine ⟨encodes_encode, fun other => outcome_decode_encode, fun failure => ?_⟩
  constructor
  · intro h
    refine ⟨fun hwell => ?_, failsOnlyWith_decode _ failure h⟩
    rw [outcome_decode_encode.2 ⟨hwell, rfl⟩] at h
    cases h
  · intro h
    obtain ⟨hwell, rfl⟩ := h
    obtain ⟨other, hread⟩ | hfails := (failsOnlyWith_decode key.encode).outcome_eq
    · exact absurd (outcome_decode_encode.1 hread).1 hwell
    · exact hfails

/-- An RSA key with 2048 bits whose exponent begins with a zero byte. -/
def sampleKey (algorithm : Algorithm) : Key :=
  .rsa ⟨algorithm, List.replicate 256 0xff, [0, 1, 0, 1]⟩

set_option maxRecDepth 100000 in
theorem sample_wellFormed : (sampleKey .ps256).WellFormed := by
  have hpublic : (RsaKey.publicKey ⟨.ps256, List.replicate 256 0xff, [0, 1, 0, 1]⟩).outcome =
      .ok ⟨Nat.pow 2 2048 - 1, 65537⟩ :=
    toOption_outcome_iff.1 (by decide +kernel)
  exact ⟨rfl, by decide, by decide, _, hpublic⟩

/-- It is read back as it was written, but not if it names an algorithm for keys of another type. -/
theorem sample_key_read_back :
    (decode (sampleKey .ps256).encode).outcome = .ok (sampleKey .ps256) ∧
      (decode (sampleKey .es256).encode).outcome = .error .invalidAttestationObject := by
  obtain ⟨_, hread, _⟩ := stored_key_read_back (sampleKey .ps256)
  obtain ⟨_, _, hrefused⟩ := stored_key_read_back (sampleKey .es256)
  have hother : ¬ (sampleKey .es256).WellFormed := by
    intro h
    cases h.1
  exact ⟨(hread _).2 ⟨sample_wellFormed, rfl⟩, (hrefused _).2 ⟨hother, rfl⟩⟩

end WebAuthn.Cose.Key
