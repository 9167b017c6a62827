import WebAuthn.Proofs.Cbor.Entries
import WebAuthn.Proofs.Layout.ReadKey

/-!
# Which maps are a credential public key, entry by entry

The labels from -1 on mean other things for every type of key. Here the entries of a key stand as the registry of each
type has them, wherever they are in the map and whatever else is in it.

* `Cose.Key.StandsIn` — the entries that make a map a public key, one constructor for each type;
* `Cose.Key.standsIn_iff` — they are what the reader looks for;
* `Cose.Key.outcome_ofCbor_iff` — the data items that are read as a key.
-/

namespace WebAuthn.Cose

variable {map : Parameters} {label : Int}

/-- The entries of the map are those of the public key. -/
inductive Key.StandsIn (map : Parameters) : Key → Prop where
  | ec2 {x y : Coordinate} {point : P256.Point} :
      (.int 1, .int 2) ∈ map → (.int 3, .int (-7)) ∈ map → (∀ value, (.int (-4), value) ∉ map) →
      (.int (-1), .int 1) ∈ map → (.int (-2), .bytes x.bytes) ∈ map →
      (.int (-3), .bytes y.bytes) ∈ map →
      P256.Point.ofAffine? (Bytes.toNat x.bytes) (Bytes.toNat y.bytes) = some point →
      StandsIn map (.ec2 ⟨.es256, .p256, x, y⟩)
  | okp {x : Coordinate} {point : Edwards25519.Point} :
      (.int 1, .int 1) ∈ map → (.int 3, .int (-8)) ∈ map → (∀ value, (.int (-4), value) ∉ map) →
      (.int (-1), .int 6) ∈ map → (.int (-2), .bytes x.bytes) ∈ map →
      Edwards25519.Point.decompress? x.bytes = some point →
      StandsIn map (.okp ⟨.edDsa, .ed25519, x⟩)
  | rsa {algorithm : Algorithm} {identifier : Int} {modulus exponent : Bytes}
      {publicKey : Rsa.PublicKey} :
      (.int 1, .int 3) ∈ map → (.int 3, .int identifier) ∈ map →
      identifier = -257 ∧ algorithm = .rs256 ∨ identifier = -37 ∧ algorithm = .ps256 →
      (.int (-1), .bytes modulus) ∈ map → (.int (-2), .bytes exponent) ∈ map →
      256 ≤ modulus.length ∧ modulus.headD 0 ≠ 0 → 1 ≤ exponent.length ∧ exponent.length ≤ 8 →
      Rsa.PublicKey.ofBytes? modulus exponent = some publicKey →
      StandsIn map (.rsa ⟨algorithm, modulus, exponent⟩)

/-! ### Parameters -/

section Parameters

variable (h : (map.map Prod.fst).Nodup)
include h

theorem Parameters.integer?_eq_some {n : Int} :
    integer? map label = some n ↔ (.int label, .int n) ∈ map := by
  rw [← Cbor.Value.lookup_eq_some h]
  show _ ↔ Cbor.Value.lookupLabel label map = _
  unfold integer?
  cases Cbor.Value.lookupLabel label map with
  | none => simp
  | some found => cases found <;> simp

theorem Parameters.bytes?_eq_some {content : Bytes} :
    bytes? map label = some content ↔ (.int label, .bytes content) ∈ map := by
  rw [← Cbor.Value.lookup_eq_some h]
  show _ ↔ Cbor.Value.lookupLabel label map = _
  unfold bytes?
  cases Cbor.Value.lookupLabel label map with
  | none => simp
  | some found => cases found <;> simp

end Parameters

/-! ### Keys -/

/-- The algorithms of RSA keys and their registered numbers. -/
theorem Algorithm.keyType_eq_rsa {algorithm : Algorithm} :
    algorithm.keyType = .rsa ↔
      algorithm.identifier = -257 ∧ algorithm = .rs256 ∨
        algorithm.identifier = -37 ∧ algorithm = .ps256 := by
  cases algorithm <;> decide

theorem Key.standsIn_iff {key : Key} (h : (map.map Prod.fst).Nodup) :
    key.StandsIn map ↔
      Parameters.integer? map labelKeyType = some key.algorithm.keyType.identifier ∧
        Parameters.integer? map labelAlgorithm = some key.algorithm.identifier ∧
        key.SpelledBy map ∧ key.WellFormed := by
  have hint : ∀ {label n : Int}, Parameters.integer? map label = some n ↔ (.int label, .int n) ∈ map :=
    Parameters.integer?_eq_some h
  have hbytes : ∀ {label : Int} {content : Bytes},
      Parameters.bytes? map label = some content ↔ (.int label, .bytes content) ∈ map :=
    Parameters.bytes?_eq_some h
  constructor
  · intro hkey
    cases hkey with
    | ec2 htype halgorithm hsecret hcurve hx hy hpoint =>
      refine ⟨hint.2 htype, hint.2 halgorithm, ⟨Cbor.Value.lookup_eq_none.2 hsecret, hint.2 hcurve,
        hbytes.2 hx, hbytes.2 hy⟩, rfl, rfl, _, (outcome_orRejectedKey _ _).2 hpoint⟩
    | okp htype halgorithm hsecret hcurve hx hpoint =>
      exact ⟨hint.2 htype, hint.2 halgorithm, ⟨Cbor.Value.lookup_eq_none.2 hsecret, hint.2 hcurve,
        hbytes.2 hx⟩, rfl, rfl, _, (outcome_orRejectedKey _ _).2 hpoint⟩
    | @rsa algorithm identifier _ _ _ htype halgorithm hrsa hmodulus hexponent hlong hshort hpublic =>
      obtain ⟨hidentifier, hkeyType⟩ :
          algorithm.identifier = identifier ∧ algorithm.keyType = .rsa := by
        obtain ⟨rfl, rfl⟩ | ⟨rfl, rfl⟩ := hrsa
        · exact ⟨rfl, rfl⟩
        · exact ⟨rfl, rfl⟩
      refine ⟨hint.2 ?_, hint.2 ?_, ⟨hbytes.2 hmodulus, hbytes.2 hexponent⟩, hkeyType, hlong, hshort, _,
        (outcome_orRejectedKey _ _).2 hpublic⟩
      · show (_, .int algorithm.keyType.identifier) ∈ map
        rw [hkeyType]
        exact htype
      · show (_, .int algorithm.identifier) ∈ map
        rw [hidentifier]
        exact halgorithm
  · intro hkey
    obtain ⟨htype, halgorithm, hspelled, hwell⟩ := hkey
    cases key with
    | ec2 key =>
      obtain ⟨algorithm, curve, x, y⟩ := key
      obtain ⟨rfl, rfl, point, hpoint⟩ : algorithm = .es256 ∧ curve = .p256 ∧ _ := hwell
      obtain ⟨hsecret, hcurve, hx, hy⟩ := hspelled
      exact .ec2 (hint.1 htype) (hint.1 halgorithm) (Cbor.Value.lookup_eq_none.1 hsecret)
        (hint.1 hcurve) (hbytes.1 hx) (hbytes.1 hy) ((outcome_orRejectedKey _ _).1 hpoint)
    | okp key =>
      obtain ⟨algorithm, curve, x⟩ := key
      obtain ⟨rfl, rfl, point, hpoint⟩ : algorithm = .edDsa ∧ curve = .ed25519 ∧ _ := hwell
      obtain ⟨hsecret, hcurve, hx⟩ := hspelled
      exact .okp (hint.1 htype) (hint.1 halgorithm) (Cbor.Value.lookup_eq_none.1 hsecret)
        (hint.1 hcurve) (hbytes.1 hx) ((outcome_orRejectedKey _ _).1 hpoint)
    | rsa key =>
      obtain ⟨hkeyType, hlong, hshort, publicKey, hpublic⟩ := hwell
      obtain ⟨hmodulus, hexponent⟩ := hspelled
      have htype := hint.1 htype
      rw [show Algorithm.keyType (Key.algorithm (.rsa key)) = .rsa from hkeyType] at htype
      exact .rsa htype (hint.1 halgorithm) (Algorithm.keyType_eq_rsa.1 hkeyType) (hbytes.1 hmodulus)
        (hbytes.1 hexponent) hlong hshort ((outcome_orRejectedKey _ _).1 hpublic)

/-- A data item is read as a key if it is a map with integer labels in which the key stands. -/
theorem Key.outcome_ofCbor_iff {value : Cbor.Value} {key : Key}
    (h : ∀ entries, value = .map entries → (entries.map Prod.fst).Nodup) :
    (Key.ofCbor value).outcome = .ok key ↔
      ∃ entries, value = .map entries ∧ (∀ entry ∈ entries, ∃ n, entry.1 = .int n) ∧
        key.StandsIn entries := by
  have hlabel : ∀ label : Cbor.Value, isLabel label = true ↔ ∃ n, label = .int n := by
    intro label
    cases label <;> simp [isLabel]
  cases value with
  | map entries =>
    show (Key.ofParameters entries).outcome = _ ↔ _
    simp only [Key.outcome_ofParameters, hlabel, Cbor.Value.map.injEq, exists_eq_left',
      Key.standsIn_iff (h entries rfl)]
  | _ => exact ⟨nofun, nofun⟩

end WebAuthn.Cose
