import WebAuthn.Proofs.Cbor.Writing
import WebAuthn.Proofs.Layout.ReadKey
import WebAuthn.Proofs.Signature.Rsa

/-!
# Credential public keys are read back

* `Cose.Key.outcome_ofCbor_toCbor` — the data item of a key is read as the key if it is well formed, and never as
  another one;
* `Cose.Key.writable_toCbor`, `within_toCbor`, `length_encode_le` — the data item of any key can be written and is within
  the default limits, and its encoding is as long as its material;
* `Cose.Key.WellFormed.materialLength_le` — the material of a well-formed key is short.
-/

namespace WebAuthn.Cose

open Audited

/-! ### Reading what was written -/

namespace Key

variable {key other : Key}

/-- The type that the data item of the key names. -/
def type : Key → KeyType
  | .ec2 _ => .ec2
  | .okp _ => .okp
  | .rsa _ => .rsa

/-- A well-formed key is of the type that its algorithm works with. -/
theorem WellFormed.keyType (h : key.WellFormed) : key.algorithm.keyType = key.type := by
  cases key with
  | ec2 key => exact Algorithm.keyType_eq_ec2.2 h.1
  | okp key => exact Algorithm.keyType_eq_okp.2 h.1
  | rsa key => exact h.1

theorem integer?_keyType (key : Key) :
    Parameters.integer? key.parameters labelKeyType = some key.type.identifier := by
  cases key <;> rfl

theorem integer?_algorithm (key : Key) :
    Parameters.integer? key.parameters labelAlgorithm = some key.algorithm.identifier := by
  cases key <;> rfl

theorem isLabel_parameters (key : Key) : ∀ entry ∈ key.parameters, isLabel entry.1 = true := by
  cases key <;> simp [parameters, isLabel]

theorem spelledBy_parameters (key : Key) : key.SpelledBy key.parameters := by
  cases key with
  | ec2 key => exact ⟨rfl, rfl, rfl, rfl⟩
  | okp key => exact ⟨rfl, rfl, rfl⟩
  | rsa key => exact ⟨rfl, rfl⟩

/-- The entries of a key spell no other key of its type and algorithm. -/
theorem SpelledBy.eq (h : other.SpelledBy key.parameters) (htype : other.type = key.type)
    (halgorithm : other.algorithm = key.algorithm) : other = key := by
  cases key with
  | ec2 key =>
    cases other with
    | ec2 other =>
      obtain ⟨_, hcurve, hx, hy⟩ := h
      obtain ⟨algorithm, curve, x, y⟩ := other
      obtain rfl : algorithm = key.algorithm := halgorithm
      obtain rfl : key.curve = curve := Curve.eq_of_identifier_eq (Option.some.inj hcurve)
      obtain rfl : key.x = x := FixedBytes.ext (Option.some.inj hx)
      obtain rfl : key.y = y := FixedBytes.ext (Option.some.inj hy)
      rfl
    | _ => cases htype
  | okp key =>
    cases other with
    | okp other =>
      obtain ⟨_, hcurve, hx⟩ := h
      obtain ⟨algorithm, curve, x⟩ := other
      obtain rfl : algorithm = key.algorithm := halgorithm
      obtain rfl : key.curve = curve := Curve.eq_of_identifier_eq (Option.some.inj hcurve)
      obtain rfl : key.x = x := FixedBytes.ext (Option.some.inj hx)
      rfl
    | _ => cases htype
  | rsa key =>
    cases other with
    | rsa other =>
      obtain ⟨hmodulus, hexponent⟩ := h
      obtain ⟨algorithm, modulus, exponent⟩ := other
      obtain rfl : algorithm = key.algorithm := halgorithm
      obtain rfl : key.modulus = modulus := Option.some.inj hmodulus
      obtain rfl : key.exponent = exponent := Option.some.inj hexponent
      rfl
    | _ => cases htype

/-- The data item of a key is read as this key if it is well formed, and never as another one. -/
theorem outcome_ofCbor_toCbor :
    (ofCbor key.toCbor).outcome = .ok other ↔ key.WellFormed ∧ other = key := by
  rw [toCbor]
  show (ofParameters key.parameters).outcome = _ ↔ _
  rw [outcome_ofParameters, integer?_keyType, integer?_algorithm]
  constructor
  · intro h
    obtain ⟨_, htype, halgorithm, hspelled, hwell⟩ := h
    have htype : key.type = other.algorithm.keyType := KeyType.eq_of_identifier_eq (Option.some.inj htype)
    have halgorithm : key.algorithm = other.algorithm :=
      Algorithm.eq_of_identifier_eq (Option.some.inj halgorithm)
    -- the material alone does not tell two RSA keys apart that differ in their algorithm
    obtain rfl := hspelled.eq (hwell.keyType.symm.trans htype.symm) halgorithm.symm
    exact ⟨hwell, rfl⟩
  · intro h
    obtain ⟨hwell, rfl⟩ := h
    refine ⟨other.isLabel_parameters, ?_, rfl, other.spelledBy_parameters, hwell⟩
    rw [hwell.keyType]

/-- The data item of a well-formed key is read as the key. -/
theorem ofCbor_toCbor (h : key.WellFormed) : (ofCbor key.toCbor).outcome = .ok key :=
  outcome_ofCbor_toCbor.2 ⟨h, rfl⟩

/-! ### Encodings of keys -/

/-- The most bytes of one part of the key material. -/
def materialLength : Key → Nat
  | .ec2 _ => 32
  | .okp _ => 32
  | .rsa key => max key.modulus.length key.exponent.length

/-- A label, a registered number or a part of some key material. -/
def Scalar (most : Nat) : Cbor.Value → Prop
  | .int n => -1000 ≤ n ∧ n ≤ 1000
  | .bytes content => content.length ≤ most
  | _ => False

section Scalar

variable {most : Nat} {value : Cbor.Value}

theorem Scalar.writable (h : Scalar most value) : value.Writable := by
  cases value with
  | int n =>
    have hbound : (1000 : Int) < Nat.pow 256 8 := by decide
    obtain ⟨hmin, hmax⟩ := h
    exact ⟨by omega, by omega⟩
  | bytes content => exact trivial
  | _ => cases h

theorem Scalar.within (h : Scalar most value) {limits : Cbor.Limits} (levels : Nat) :
    value.Within limits (levels + 1) := by
  cases value with
  | int n => exact ⟨Nat.le_add_left 1 levels, trivial⟩
  | bytes content => exact ⟨Nat.le_add_left 1 levels, trivial⟩
  | _ => cases h

theorem Scalar.length_encode_le (h : Scalar most value) : (Cbor.encode value).length ≤ 9 + most := by
  cases value with
  | int n => exact Nat.le_add_right_of_le (Cbor.length_encode_int_le n)
  | bytes content => exact Nat.le_trans (Cbor.length_encode_bytes_le content) (Nat.add_le_add_left h 9)
  | _ => cases h

theorem scalar_algorithm (algorithm : Algorithm) : Scalar most (.int algorithm.identifier) := by
  cases algorithm <;> exact ⟨by decide, by decide⟩

theorem scalar_curve (curve : Curve) : Scalar most (.int curve.identifier) := by
  cases curve <;> exact ⟨by decide, by decide⟩

end Scalar

/-- Labels stand with registered numbers and with key material. -/
theorem scalar_parameters (key : Key) : ∀ entry ∈ key.parameters,
    Scalar 0 entry.1 ∧ Scalar key.materialLength entry.2 := by
  intro entry h
  have hsmall : ∀ {n : Int} {most : Nat}, -1000 ≤ n ∧ n ≤ 1000 → Scalar most (.int n) := fun h => h
  cases key with
  | ec2 key =>
    simp only [parameters, List.mem_cons, List.not_mem_nil, or_false] at h
    obtain rfl | rfl | rfl | rfl | rfl := h
    · exact ⟨hsmall (by decide), hsmall (by decide)⟩
    · exact ⟨hsmall (by decide), scalar_algorithm key.algorithm⟩
    · exact ⟨hsmall (by decide), scalar_curve key.curve⟩
    · exact ⟨hsmall (by decide), Nat.le_of_eq key.x.length_eq⟩
    · exact ⟨hsmall (by decide), Nat.le_of_eq key.y.length_eq⟩
  | okp key =>
    simp only [parameters, List.mem_cons, List.not_mem_nil, or_false] at h
    obtain rfl | rfl | rfl | rfl := h
    · exact ⟨hsmall (by decide), hsmall (by decide)⟩
    · exact ⟨hsmall (by decide), scalar_algorithm key.algorithm⟩
    · exact ⟨hsmall (by decide), scalar_curve key.curve⟩
    · exact ⟨hsmall (by decide), Nat.le_of_eq key.x.length_eq⟩
  | rsa key =>
    simp only [parameters, List.mem_cons, List.not_mem_nil, or_false] at h
    obtain rfl | rfl | rfl | rfl := h
    · exact ⟨hsmall (by decide), hsmall (by decide)⟩
    · exact ⟨hsmall (by decide), scalar_algorithm key.algorithm⟩
    · exact ⟨hsmall (by decide), Nat.le_max_left _ _⟩
    · exact ⟨hsmall (by decide), Nat.le_max_right _ _⟩

theorem length_parameters_le (key : Key) : key.parameters.length ≤ 5 := by
  cases key with
  | ec2 key => exact Nat.le_refl 5
  | okp key => exact Nat.le_succ 4
  | rsa key => exact Nat.le_succ 4

/-- No label occurs twice. -/
theorem nodup_parameters (key : Key) : (key.parameters.map Prod.fst).Nodup := by
  have hfive : ([1, 3, -1, -2, -3].map Cbor.Value.int).Nodup := by decide
  have hfour : ([1, 3, -1, -2].map Cbor.Value.int).Nodup := by decide
  cases key with
  | ec2 key => exact hfive
  | okp key => exact hfour
  | rsa key => exact hfour

theorem writable_toCbor (key : Key) : key.toCbor.Writable := by
  have hentries : ∀ {most : Nat} (entries : Parameters),
      (∀ entry ∈ entries, Scalar 0 entry.1 ∧ Scalar most entry.2) →
        Cbor.Value.WritableEntries entries := by
    intro most entries h
    induction entries with
    | nil => exact trivial
    | cons entry rest ih =>
      obtain ⟨hentry, hrest⟩ := List.forall_mem_cons.1 h
      exact ⟨⟨hentry.1.writable, hentry.2.writable⟩, ih hrest⟩
  rw [toCbor]
  exact hentries _ key.scalar_parameters

theorem within_toCbor (key : Key) (levels : Nat) : key.toCbor.Within {} (levels + 2) := by
  have hlength := key.length_parameters_le
  have hmax : key.parameters.length ≤ 64 := by omega
  rw [toCbor, Cbor.Value.within_map]
  refine ⟨⟨hmax, key.nodup_parameters⟩, fun entry he => ?_⟩
  obtain ⟨hlabel, hvalue⟩ := key.scalar_parameters entry he
  exact ⟨hlabel.within levels, hvalue.within levels⟩

theorem length_encode_le (key : Key) : key.encode.length ≤ 99 + 5 * key.materialLength := by
  have hentries : ∀ entry ∈ key.parameters,
      (Cbor.encode entry.1).length + (Cbor.encode entry.2).length ≤ 18 + key.materialLength := by
    intro entry he
    obtain ⟨hlabel, hvalue⟩ := key.scalar_parameters entry he
    have hfirst := hlabel.length_encode_le
    have hsecond := hvalue.length_encode_le
    omega
  have hmap := Cbor.length_encode_map_le hentries
  have hfive := Nat.mul_le_mul_left (18 + key.materialLength) key.length_parameters_le
  rw [Key.encode, Key.toCbor]
  omega

end Key

/-! ### Lengths of key material -/

/-- The longest accepted RSA modulus has 512 bytes. -/
theorem RsaKey.WellFormed.length_modulus_le {key : RsaKey} (h : key.WellFormed) :
    key.modulus.length ≤ 512 := by
  obtain ⟨_, ⟨_, hfirst⟩, _, publicKey, hpublic⟩ := h
  obtain ⟨rfl, haccepted⟩ := Rsa.PublicKey.ofBytes?_eq_some.1 ((outcome_orRejectedKey _ _).1 hpublic)
  have hbits : Bytes.toNat key.modulus < Nat.pow 2 Rsa.maxModulusBits :=
    Rsa.bitLength_le.1 ((Rsa.PublicKey.isAccepted_iff _).1 haccepted).1
  have hfirst : Nat.pow 2 (8 * (key.modulus.length - 1)) ≤ Bytes.toNat key.modulus := by
    rw [← Bytes.pow_eq]
    exact Bytes.pow_le_toNat hfirst
  have hlength : 8 * (key.modulus.length - 1) < Rsa.maxModulusBits :=
    Bytes.lt_of_two_pow_lt (Nat.lt_of_le_of_lt hfirst hbits)
  have hmax : Rsa.maxModulusBits = 4096 := rfl
  omega

theorem Key.WellFormed.materialLength_le {key : Key} (h : key.WellFormed) :
    key.materialLength ≤ 512 := by
  cases key with
  | ec2 key => exact (by decide : 32 ≤ 512)
  | okp key => exact (by decide : 32 ≤ 512)
  | rsa key =>
    have hexponent : key.exponent.length ≤ 8 := h.2.2.1.2
    exact Nat.max_le.2 ⟨RsaKey.WellFormed.length_modulus_le h, Nat.le_trans hexponent (by decide)⟩

end WebAuthn.Cose
