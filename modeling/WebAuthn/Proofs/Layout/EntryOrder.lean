import WebAuthn.Attestation.Statement
import WebAuthn.Proofs.Cbor.Entries
import WebAuthn.Proofs.Cbor.Limits
import WebAuthn.Proofs.Layout.AttestationObject

/-!
# The order of entries does not matter

Maps are read by looking keys up. Where no key occurs twice, what is found under a key does not depend on the order of
the entries, and the decoder lets no key occur twice: two keys are equal as data items whatever widths they are written
in, which is the same equality that looking up goes by.

* `Cbor.Value.lookup_perm` — what is found under a key in two orders of the same entries;
* `Cose.Key.ofParameters_congr`, `PackedStatement.parse_congr`, `AttestationObject.ofMembers_congr` — the readers of maps
  see nothing but what is found, and of the labels of a key whether they all are integers;
* `Cbor.decode_perm` — of two encodings of the same entries, in any orders and widths, within the length that is
  allowed, both are read or none is;
* `entry_order_irrelevant` — so the order does not matter to credential keys, packed statements and attestation objects.
-/

namespace WebAuthn

/-! ### Looking up -/

namespace Cbor

open Value

variable {entries other : List (Value × Value)}

/-- What is found under a key does not depend on the order of entries with distinct keys. -/
theorem Value.lookup_perm (h : entries.Perm other) (hn : (entries.map Prod.fst).Nodup) (key : Value) :
    lookup key entries = lookup key other := by
  have hn' : (other.map Prod.fst).Nodup := (h.map Prod.fst).nodup_iff.1 hn
  refine Option.ext fun value => ?_
  rw [lookup_eq_some hn, lookup_eq_some hn', h.mem_iff]

theorem Value.distinctKeys_perm {limit : Nat} (h : entries.Perm other) :
    DistinctKeys limit entries ↔ DistinctKeys limit other := by
  unfold DistinctKeys
  rw [h.length_eq, (h.map Prod.fst).nodup_iff]

/-- Nor does it depend on the order whether a map is within limits. -/
theorem Value.within_perm {limits : Limits} {levels : Nat} (h : entries.Perm other) :
    (Value.map entries).Within limits levels ↔ (Value.map other).Within limits levels := by
  cases levels with
  | zero => exact iff_of_false not_within_zero not_within_zero
  | succ levels =>
    rw [within_map, within_map, distinctKeys_perm h]
    simp only [h.mem_iff]

/-! ### Encodings of the same entries -/

variable {limits loose : Limits} {bytes bytes' : Bytes}

/-- Limits do not decide what bytes mean. -/
theorem decode_unique {value value' : Value} (h : decode limits bytes = .ok value)
    (h' : decode loose bytes = .ok value') : value = value' := by
  let both : Limits := ⟨max limits.maxLength loose.maxLength, max limits.maxDepth loose.maxDepth,
    max limits.maxMapEntries loose.maxMapEntries⟩
  -- what is read under limits is read under looser ones, and under `both` there is one result
  have hread : ∀ {strict : Limits} {value : Value}, strict ≤ both → decode strict bytes = .ok value →
      decode both bytes = .ok value := by
    intro strict value hle hstrict
    obtain hsame | ⟨error, _, herror⟩ := decode_tightens hle bytes
    · exact hsame.symm.trans hstrict
    · cases herror.symm.trans hstrict
  have hlimits : limits ≤ both := ⟨Nat.le_max_left _ _, Nat.le_max_left _ _, Nat.le_max_left _ _⟩
  have hloose : loose ≤ both := ⟨Nat.le_max_right _ _, Nat.le_max_right _ _, Nat.le_max_right _ _⟩
  exact Except.ok.inj ((hread hlimits h).symm.trans (hread hloose h'))

/-- Of two encodings of the same entries within the allowed length, both are read or none is. -/
theorem decode_perm {strict : Limits} (h : entries.Perm other)
    (hentries : decode limits bytes = .ok (.map entries))
    (hother : decode strict bytes' = .ok (.map other))
    (hlength : bytes.length ≤ loose.maxLength ↔ bytes'.length ≤ loose.maxLength) :
    decode loose bytes = .ok (.map entries) ↔ decode loose bytes' = .ok (.map other) := by
  obtain ⟨_, hencodes, _⟩ := decode_eq_ok_iff.1 hentries
  obtain ⟨_, hencodes', _⟩ := decode_eq_ok_iff.1 hother
  rw [decode_eq_ok_iff, decode_eq_ok_iff, hlength, Admitted, Admitted, within_perm h]
  simp only [hencodes, hencodes', true_and]

end Cbor

/-! ### Readers of maps -/

section Readers

variable {entries other : List (Cbor.Value × Cbor.Value)}
  (h : ∀ key, Cbor.Value.lookup key entries = Cbor.Value.lookup key other)
include h

namespace Cose

theorem Parameters.integer?_congr (label : Int) : integer? entries label = integer? other label := by
  unfold integer? Cbor.Value.lookupLabel
  rw [h]

theorem Parameters.bytes?_congr (label : Int) : bytes? entries label = bytes? other label := by
  unfold bytes? Cbor.Value.lookupLabel
  rw [h]

theorem Parameters.refuseSecret_congr : refuseSecret entries = refuseSecret other := by
  unfold refuseSecret Cbor.Value.lookupLabel
  rw [h]

theorem Parameters.curve_congr : curve entries = curve other := by
  unfold curve
  rw [integer?_congr h]

theorem Parameters.coordinate_congr (label : Int) : coordinate entries label = coordinate other label := by
  unfold coordinate
  rw [bytes?_congr h]

/-- A key is read from what is found under its labels, if all labels are integers. -/
theorem Key.ofParameters_congr
    (hlabels : (entries.any fun entry => !isLabel entry.1) = other.any fun entry => !isLabel entry.1) :
    ofParameters entries = ofParameters other := by
  unfold ofParameters Ec2Key.ofParameters OkpKey.ofParameters RsaKey.ofParameters
  simp only [hlabels, Parameters.integer?_congr h, Parameters.bytes?_congr h,
    Parameters.refuseSecret_congr h, Parameters.curve_congr h, Parameters.coordinate_congr h]

end Cose

theorem PackedStatement.parse_congr :
    PackedStatement.parse (some (.map entries)) = PackedStatement.parse (some (.map other)) := by
  unfold parse parseAlgorithm parseSignature parseCertificates Cbor.Value.lookupText
  simp only [h]

theorem AttestationObject.ofMembers_congr :
    AttestationObject.ofMembers entries = AttestationObject.ofMembers other := by
  unfold ofMembers parseFormat parseRawData parseStatement Cbor.Value.lookupText
  simp only [h]

end Readers

/-! ### Attestation objects -/

namespace AttestationObject

variable {entries other : List (Cbor.Value × Cbor.Value)} {bytes bytes' : Bytes}

theorem parse_of_decode (h : Cbor.decode {} bytes = .ok (.map entries)) : parse bytes = ofMembers entries := by
  unfold parse
  rw [h]

/-- The members of the object of an encoding are the entries, whatever limits these were read under. -/
theorem parse_eq_ok_of_decode {limits : Cbor.Limits} {object : AttestationObject}
    (h : Cbor.decode limits bytes = .ok (.map entries)) :
    (parse bytes).outcome = .ok object ↔
      Cbor.decode {} bytes = .ok (.map entries) ∧ object.Members entries := by
  rw [parse_eq_ok]
  constructor
  · rintro ⟨members, hdecode, hmembers⟩
    obtain rfl := Cbor.Value.map.inj (Cbor.decode_unique h hdecode)
    exact ⟨hdecode, hmembers⟩
  · rintro ⟨hdecode, hmembers⟩
    exact ⟨entries, hdecode, hmembers⟩

/-- Two encodings of the same entries are the same object or no object. -/
theorem outcome_parse_perm {limits limits' : Cbor.Limits} (h : entries.Perm other)
    (hentries : Cbor.decode limits bytes = .ok (.map entries))
    (hother : Cbor.decode limits' bytes' = .ok (.map other))
    (hlength : bytes.length ≤ Cbor.Limits.maxLength {} ↔ bytes'.length ≤ Cbor.Limits.maxLength {}) :
    (parse bytes).outcome = (parse bytes').outcome := by
  refine (failsOnlyWith_parse bytes).outcome_congr (failsOnlyWith_parse bytes') fun object => ?_
  have hlookup := Cbor.Value.lookup_perm h (Cbor.distinct_of_decode hentries)
  rw [parse_eq_ok_of_decode hentries, parse_eq_ok_of_decode hother,
    Cbor.decode_perm h hentries hother hlength, ← ofMembers_eq_ok, ← ofMembers_eq_ok,
    ofMembers_congr hlookup]

end AttestationObject

/-- The order of the entries of a map does not matter. With distinct keys, credential keys and packed statements are read
from the map in any order with the same result and the same log; and so are attestation objects from any two byte strings
that are read as the same entries. Entries that are read under other limits than those of attestation objects come to the
same object or the same failure, as long as the length of none or of both is more than attestation objects may have. -/
theorem entry_order_irrelevant {entries other : List (Cbor.Value × Cbor.Value)} (h : entries.Perm other) :
    ((entries.map Prod.fst).Nodup →
      Cose.Key.ofCbor (.map entries) = Cose.Key.ofCbor (.map other) ∧
      PackedStatement.parse (some (.map entries)) = PackedStatement.parse (some (.map other))) ∧
    (∀ bytes bytes', Cbor.decode {} bytes = .ok (.map entries) →
      Cbor.decode {} bytes' = .ok (.map other) →
      AttestationObject.parse bytes = AttestationObject.parse bytes') ∧
    ∀ limits limits' bytes bytes', Cbor.decode limits bytes = .ok (.map entries) →
      Cbor.decode limits' bytes' = .ok (.map other) →
      (bytes.length ≤ Cbor.Limits.maxLength {} ↔ bytes'.length ≤ Cbor.Limits.maxLength {}) →
      (AttestationObject.parse bytes).outcome = (AttestationObject.parse bytes').outcome := by
  refine ⟨fun hn => ?_, fun bytes bytes' hentries hother => ?_, fun limits limits' bytes bytes' =>
    AttestationObject.outcome_parse_perm h⟩
  · have hlookup := Cbor.Value.lookup_perm h hn
    exact ⟨Cose.Key.ofParameters_congr hlookup h.any_eq, PackedStatement.parse_congr hlookup⟩
  · rw [AttestationObject.parse_of_decode hentries, AttestationObject.parse_of_decode hother]
    exact AttestationObject.ofMembers_congr
      (Cbor.Value.lookup_perm h (Cbor.distinct_of_decode hentries))

/-- The members of an attestation object without a statement, and a number that none of its readers looks for. -/
def sampleMembers : List (Cbor.Value × Cbor.Value) :=
  [(.text "fmt", .text "none"), (.int 1, .int 2), (.text "authData", .bytes (List.replicate 37 0))]

set_option maxRecDepth 2000 in
/-- The same attestation object in two orders, once with its count in a byte of its own. -/
theorem sample_members_reversed :
    sampleMembers.Perm sampleMembers.reverse ∧
      Cbor.decode {} (Cbor.encode (.map sampleMembers)) = .ok (.map sampleMembers) ∧
      Cbor.decode {} ([0xb8, 3] ++ (Cbor.encode (.map sampleMembers.reverse)).drop 1) =
        .ok (.map sampleMembers.reverse) ∧
      AttestationObject.parse (Cbor.encode (.map sampleMembers)) =
        AttestationObject.parse ([0xb8, 3] ++ (Cbor.encode (.map sampleMembers.reverse)).drop 1) ∧
      (sampleMembers.map Prod.fst).Nodup ∧
      Cose.Key.ofCbor (.map sampleMembers) = Cose.Key.ofCbor (.map sampleMembers.reverse) := by
  have hperm : sampleMembers.Perm sampleMembers.reverse := (List.reverse_perm _).symm
  have hentries : Cbor.decode {} (Cbor.encode (.map sampleMembers)) = .ok (.map sampleMembers) := rfl
  have hother : Cbor.decode {} ([0xb8, 3] ++ (Cbor.encode (.map sampleMembers.reverse)).drop 1) =
      .ok (.map sampleMembers.reverse) := rfl
  have hnodup : (sampleMembers.map Prod.fst).Nodup := by decide
  obtain ⟨hread, hparse, _⟩ := entry_order_irrelevant hperm
  exact ⟨hperm, hentries, hother, hparse _ _ hentries hother, hnodup, (hread hnodup).1⟩

end WebAuthn
