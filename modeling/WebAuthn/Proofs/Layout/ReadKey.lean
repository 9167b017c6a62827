import WebAuthn.Proofs.Layout.Key

/-!
# Which maps are read as a credential public key

* `Cose.Key.WellFormed` — algorithm, curve and material of a key go together;
* `Cose.Key.SpelledBy` — a map has the material of a key, and for a curve key no secret;
* `Cose.Key.outcome_ofParameters`, `outcome_decode` — the maps and the byte strings that are read as a key, from one
  lemma for each step of the reader and one for each type of key.
-/

namespace WebAuthn.Cose

open Audited

/-! ### Well-formed keys -/

/-- An ES256 key whose coordinates are those of a point on P-256. -/
def Ec2Key.WellFormed (key : Ec2Key) : Prop :=
  key.algorithm = .es256 ∧ key.curve = .p256 ∧ ∃ point, key.point.outcome = .ok point

/-- An EdDSA key that decompresses to a point on Ed25519. -/
def OkpKey.WellFormed (key : OkpKey) : Prop :=
  key.algorithm = .edDsa ∧ key.curve = .ed25519 ∧ ∃ point, key.point.outcome = .ok point

/-- An RSA key whose modulus and exponent have accepted lengths and values. -/
def RsaKey.WellFormed (key : RsaKey) : Prop :=
  key.algorithm.keyType = .rsa ∧
    (minimumModulusLength ≤ key.modulus.length ∧ key.modulus.headD 0 ≠ 0) ∧
    (1 ≤ key.exponent.length ∧ key.exponent.length ≤ maximumExponentLength) ∧
    ∃ publicKey, key.publicKey.outcome = .ok publicKey

/-- Algorithm, curve and material of the key go together. -/
def Key.WellFormed : Key → Prop
  | .ec2 key => key.WellFormed
  | .okp key => key.WellFormed
  | .rsa key => key.WellFormed

/-! ### Maps that spell a key -/

/-- The map has the curve and the two coordinates of the key, and no secret. -/
def Ec2Key.SpelledBy (key : Ec2Key) (map : Parameters) : Prop :=
  Cbor.Value.lookupLabel labelSecret map = none ∧
    Parameters.integer? map labelCurve = some key.curve.identifier ∧
    Parameters.bytes? map labelX = some key.x.bytes ∧
    Parameters.bytes? map labelY = some key.y.bytes

/-- The map has the curve and the encoded point of the key, and no secret. -/
def OkpKey.SpelledBy (key : OkpKey) (map : Parameters) : Prop :=
  Cbor.Value.lookupLabel labelSecret map = none ∧
    Parameters.integer? map labelCurve = some key.curve.identifier ∧
    Parameters.bytes? map labelX = some key.x.bytes

/-- The map has the modulus and the exponent of the key. -/
def RsaKey.SpelledBy (key : RsaKey) (map : Parameters) : Prop :=
  Parameters.bytes? map labelModulus = some key.modulus ∧
    Parameters.bytes? map labelExponent = some key.exponent

/-- The map has the material of the key. -/
def Key.SpelledBy (key : Key) (map : Parameters) : Prop :=
  match key with
  | .ec2 key => key.SpelledBy map
  | .okp key => key.SpelledBy map
  | .rsa key => key.SpelledBy map

/-! ### Steps of the reader -/

section Steps

variable {α : Type} {map : Parameters} {label : Int} {a : α}

theorem outcome_orMalformedKey {value : Option α} {reason : String} :
    (orMalformedKey value reason).outcome = .ok a ↔ value = some a := by
  cases value with
  | none => exact ⟨nofun, nofun⟩
  | some found =>
    show Except.ok found = .ok a ↔ _
    rw [Except.ok.injEq, Option.some.injEq]

theorem outcome_orRejectedKey {material : Option α} (kind reason : String) :
    (orRejectedKey material kind reason).outcome = .ok a ↔ material = some a := by
  cases material with
  | none => exact ⟨nofun, nofun⟩
  | some found =>
    show Except.ok found = .ok a ↔ _
    rw [Except.ok.injEq, Option.some.injEq]

/-- A step of the reader that is guarded against a malformed map. -/
theorem outcome_unless {malformed : Prop} [Decidable malformed] {reason : String} {x : Audited α} :
    (if malformed then malformedKey reason else x).outcome = .ok a ↔
      ¬ malformed ∧ x.outcome = .ok a := by
  by_cases h : malformed
  · rw [if_pos h]
    exact ⟨nofun, fun hn => absurd h hn.1⟩
  · rw [if_neg h]
    exact ⟨fun hx => ⟨h, hx⟩, And.right⟩

/-- A value is returned if it passes its check. The check is any, since telling two forms of a known one apart may run
it. -/
theorem outcome_checked {β : Type} (check : α → Audited β) {b : α} :
    (have key := b; do
      let _ ← check key
      pure key).outcome = .ok a ↔ b = a ∧ ∃ found, (check b).outcome = .ok found := by
  rw [outcome_bind_ok]
  constructor
  · intro h
    obtain ⟨found, hfound, hb⟩ := h
    exact ⟨Except.ok.inj hb, found, hfound⟩
  · intro h
    obtain ⟨rfl, found, hfound⟩ := h
    exact ⟨found, hfound, rfl⟩

theorem Parameters.outcome_coordinate {x : Coordinate} :
    (coordinate map label).outcome = .ok x ↔ bytes? map label = some x.bytes := by
  unfold coordinate
  simp only [outcome_bind_ok, outcome_orMalformedKey]
  constructor
  · intro h
    obtain ⟨bytes, hbytes, hx⟩ := h
    rw [FixedBytes.ofBytes?_eq_some.1 hx]
    exact hbytes
  · intro h
    exact ⟨x.bytes, h, FixedBytes.ofBytes?_eq_some.2 rfl⟩

theorem Parameters.outcome_curve {curve : Curve} :
    (Parameters.curve map).outcome = .ok curve ↔
      integer? map labelCurve = some curve.identifier := by
  unfold Parameters.curve
  rw [outcome_orMalformedKey, Option.bind_eq_some_iff]
  constructor
  · intro h
    obtain ⟨n, hn, hcurve⟩ := h
    rw [Curve.ofIdentifier?_eq_some.1 hcurve]
    exact hn
  · intro h
    exact ⟨curve.identifier, h, Curve.ofIdentifier?_eq_some.2 rfl⟩

theorem Parameters.outcome_refuseSecret :
    (refuseSecret map).outcome = .ok () ↔ Cbor.Value.lookupLabel labelSecret map = none := by
  unfold refuseSecret
  rw [outcome_unless, Option.not_isSome_iff_eq_none]
  exact and_iff_left rfl

end Steps

/-! ### Keys of each type -/

section Types

variable {map : Parameters} {algorithm : Algorithm}

theorem Algorithm.keyType_eq_ec2 : algorithm.keyType = .ec2 ↔ algorithm = .es256 := by
  cases algorithm <;> decide

theorem Algorithm.keyType_eq_okp : algorithm.keyType = .okp ↔ algorithm = .edDsa := by
  cases algorithm <;> decide

theorem Ec2Key.outcome_ofParameters {key : Ec2Key} (h : algorithm.keyType = .ec2) :
    (Ec2Key.ofParameters algorithm map).outcome = .ok key ↔
      algorithm = key.algorithm ∧ key.SpelledBy map ∧ key.WellFormed := by
  unfold Ec2Key.ofParameters
  constructor
  · intro hread
    obtain ⟨_, hsecret, hread⟩ := outcome_bind_ok.1 hread
    obtain ⟨curve, hcurve, hread⟩ := outcome_bind_ok.1 hread
    obtain ⟨hp, hread⟩ := outcome_unless.1 hread
    obtain ⟨x, hx, hread⟩ := outcome_bind_ok.1 hread
    obtain ⟨y, hy, hread⟩ := outcome_bind_ok.1 hread
    obtain ⟨rfl, hpoint⟩ := (outcome_checked Ec2Key.point).1 hread
    refine ⟨rfl, ⟨Parameters.outcome_refuseSecret.1 hsecret, Parameters.outcome_curve.1 hcurve,
      Parameters.outcome_coordinate.1 hx, Parameters.outcome_coordinate.1 hy⟩, ?_⟩
    exact ⟨Algorithm.keyType_eq_ec2.1 h, Decidable.of_not_not hp, hpoint⟩
  · intro hkey
    obtain ⟨rfl, ⟨hsecret, hcurve, hx, hy⟩, _, hp, hpoint⟩ := hkey
    refine outcome_bind_ok.2 ⟨(), Parameters.outcome_refuseSecret.2 hsecret, ?_⟩
    refine outcome_bind_ok.2 ⟨_, Parameters.outcome_curve.2 hcurve, ?_⟩
    refine outcome_unless.2 ⟨not_not_intro hp, ?_⟩
    refine outcome_bind_ok.2 ⟨_, Parameters.outcome_coordinate.2 hx, ?_⟩
    refine outcome_bind_ok.2 ⟨_, Parameters.outcome_coordinate.2 hy, ?_⟩
    exact (outcome_checked Ec2Key.point).2 ⟨rfl, hpoint⟩

theorem OkpKey.outcome_ofParameters {key : OkpKey} (h : algorithm.keyType = .okp) :
    (OkpKey.ofParameters algorithm map).outcome = .ok key ↔
      algorithm = key.algorithm ∧ key.SpelledBy map ∧ key.WellFormed := by
  unfold OkpKey.ofParameters
  constructor
  · intro hread
    obtain ⟨_, hsecret, hread⟩ := outcome_bind_ok.1 hread
    obtain ⟨curve, hcurve, hread⟩ := outcome_bind_ok.1 hread
    obtain ⟨hp, hread⟩ := outcome_unless.1 hread
    obtain ⟨x, hx, hread⟩ := outcome_bind_ok.1 hread
    obtain ⟨rfl, hpoint⟩ := (outcome_checked OkpKey.point).1 hread
    refine ⟨rfl, ⟨Parameters.outcome_refuseSecret.1 hsecret, Parameters.outcome_curve.1 hcurve,
      Parameters.outcome_coordinate.1 hx⟩, ?_⟩
    exact ⟨Algorithm.keyType_eq_okp.1 h, Decidable.of_not_not hp, hpoint⟩
  · intro hkey
    obtain ⟨rfl, ⟨hsecret, hcurve, hx⟩, _, hp, hpoint⟩ := hkey
    refine outcome_bind_ok.2 ⟨(), Parameters.outcome_refuseSecret.2 hsecret, ?_⟩
    refine outcome_bind_ok.2 ⟨_, Parameters.outcome_curve.2 hcurve, ?_⟩
    refine outcome_unless.2 ⟨not_not_intro hp, ?_⟩
    refine outcome_bind_ok.2 ⟨_, Parameters.outcome_coordinate.2 hx, ?_⟩
    exact (outcome_checked OkpKey.point).2 ⟨rfl, hpoint⟩

theorem RsaKey.outcome_ofParameters {key : RsaKey} (h : algorithm.keyType = .rsa) :
    (RsaKey.ofParameters algorithm map).outcome = .ok key ↔
      algorithm = key.algorithm ∧ key.SpelledBy map ∧ key.WellFormed := by
  unfold RsaKey.ofParameters
  constructor
  · intro hread
    obtain ⟨modulus, hmodulus, hread⟩ := outcome_bind_ok.1 hread
    obtain ⟨exponent, hexponent, hread⟩ := outcome_bind_ok.1 hread
    obtain ⟨hn, hread⟩ := outcome_unless.1 hread
    obtain ⟨he, hread⟩ := outcome_unless.1 hread
    obtain ⟨rfl, hpublic⟩ := (outcome_checked RsaKey.publicKey).1 hread
    obtain ⟨hlong, hfirst⟩ := not_or.1 hn
    obtain ⟨hpos, hmax⟩ := not_or.1 he
    refine ⟨rfl, ⟨outcome_orMalformedKey.1 hmodulus, outcome_orMalformedKey.1 hexponent⟩, h, ?_⟩
    exact ⟨⟨Nat.not_lt.1 hlong, hfirst⟩, ⟨Nat.pos_of_ne_zero hpos, Nat.not_lt.1 hmax⟩, hpublic⟩
  · intro hkey
    obtain ⟨rfl, ⟨hmodulus, hexponent⟩, _, ⟨hlong, hfirst⟩, ⟨hpos, hmax⟩, hpublic⟩ := hkey
    refine outcome_bind_ok.2 ⟨_, outcome_orMalformedKey.2 hmodulus, ?_⟩
    refine outcome_bind_ok.2 ⟨_, outcome_orMalformedKey.2 hexponent, ?_⟩
    refine outcome_unless.2 ⟨not_or.2 ⟨Nat.not_lt.2 hlong, hfirst⟩, ?_⟩
    refine outcome_unless.2 ⟨not_or.2 ⟨Nat.ne_of_gt hpos, Nat.not_lt.2 hmax⟩, ?_⟩
    exact (outcome_checked RsaKey.publicKey).2 ⟨rfl, hpublic⟩

/-! ### Keys -/

/-- The reader for the type of an algorithm reads the well-formed keys of this algorithm. -/
theorem Key.outcome_ofType {key : Key} :
    (match algorithm.keyType with
      | .ec2 => Key.ec2 <$> Ec2Key.ofParameters algorithm map
      | .okp => Key.okp <$> OkpKey.ofParameters algorithm map
      | .rsa => Key.rsa <$> RsaKey.ofParameters algorithm map).outcome = .ok key ↔
      algorithm = key.algorithm ∧ key.SpelledBy map ∧ key.WellFormed := by
  constructor
  · intro h
    cases htype : algorithm.keyType with
    | ec2 =>
      rw [htype] at h
      obtain ⟨read, hread, hkey⟩ := outcome_bind_ok.1 h
      cases hkey
      exact (Ec2Key.outcome_ofParameters htype).1 hread
    | okp =>
      rw [htype] at h
      obtain ⟨read, hread, hkey⟩ := outcome_bind_ok.1 h
      cases hkey
      exact (OkpKey.outcome_ofParameters htype).1 hread
    | rsa =>
      rw [htype] at h
      obtain ⟨read, hread, hkey⟩ := outcome_bind_ok.1 h
      cases hkey
      exact (RsaKey.outcome_ofParameters htype).1 hread
  · intro h
    obtain ⟨halgorithm, hspelled, hwell⟩ := h
    cases key with
    | ec2 key =>
      have htype : algorithm.keyType = .ec2 := Algorithm.keyType_eq_ec2.2 (halgorithm.trans hwell.1)
      rw [htype]
      exact outcome_bind_ok.2
        ⟨key, (Ec2Key.outcome_ofParameters htype).2 ⟨halgorithm, hspelled, hwell⟩, rfl⟩
    | okp key =>
      have htype : algorithm.keyType = .okp := Algorithm.keyType_eq_okp.2 (halgorithm.trans hwell.1)
      rw [htype]
      exact outcome_bind_ok.2
        ⟨key, (OkpKey.outcome_ofParameters htype).2 ⟨halgorithm, hspelled, hwell⟩, rfl⟩
    | rsa key =>
      have htype : algorithm.keyType = .rsa := (congrArg Algorithm.keyType halgorithm).trans hwell.1
      rw [htype]
      exact outcome_bind_ok.2
        ⟨key, (RsaKey.outcome_ofParameters htype).2 ⟨halgorithm, hspelled, hwell⟩, rfl⟩

/-- A map is read as a key if all its labels are integers, it names the algorithm of the key and the type of this
algorithm, it spells the key, and the key is well formed. -/
theorem Key.outcome_ofParameters {key : Key} :
    (Key.ofParameters map).outcome = .ok key ↔
      (∀ entry ∈ map, isLabel entry.1 = true) ∧
        Parameters.integer? map labelKeyType = some key.algorithm.keyType.identifier ∧
        Parameters.integer? map labelAlgorithm = some key.algorithm.identifier ∧
        key.SpelledBy map ∧ key.WellFormed := by
  have hlabels : ¬ (map.any fun entry => !isLabel entry.1) = true ↔
      ∀ entry ∈ map, isLabel entry.1 = true := by
    simp
  unfold Key.ofParameters
  constructor
  · intro h
    obtain ⟨hall, h⟩ := outcome_unless.1 h
    obtain ⟨type, htype, h⟩ := outcome_bind_ok.1 h
    obtain ⟨algorithm, halgorithm, h⟩ := outcome_bind_ok.1 h
    obtain ⟨hmatch, h⟩ := outcome_unless.1 h
    obtain rfl := Decidable.of_not_not hmatch
    obtain ⟨rfl, hspelled, hwell⟩ := Key.outcome_ofType.1 h
    obtain ⟨n, hn, hid⟩ := Option.bind_eq_some_iff.1 (outcome_orMalformedKey.1 htype)
    obtain rfl := KeyType.ofIdentifier?_eq_some.1 hid
    obtain ⟨m, hm, hid⟩ := Option.bind_eq_some_iff.1 (outcome_orMalformedKey.1 halgorithm)
    obtain rfl := Algorithm.ofIdentifier?_eq_some.1 hid
    exact ⟨hlabels.1 hall, hn, hm, hspelled, hwell⟩
  · intro h
    obtain ⟨hall, htype, halgorithm, hspelled, hwell⟩ := h
    refine outcome_unless.2 ⟨hlabels.2 hall, ?_⟩
    refine outcome_bind_ok.2 ⟨key.algorithm.keyType, outcome_orMalformedKey.2 ?_, ?_⟩
    · exact Option.bind_eq_some_iff.2 ⟨_, htype, KeyType.ofIdentifier?_eq_some.2 rfl⟩
    refine outcome_bind_ok.2 ⟨key.algorithm, outcome_orMalformedKey.2 ?_, ?_⟩
    · exact Option.bind_eq_some_iff.2 ⟨_, halgorithm, Algorithm.ofIdentifier?_eq_some.2 rfl⟩
    refine outcome_unless.2 ⟨not_not_intro rfl, ?_⟩
    exact Key.outcome_ofType.2 ⟨rfl, hspelled, hwell⟩

end Types

/-- A byte string is read as a key if it is a data item that is. -/
theorem Key.outcome_decode {bytes : Bytes} {key : Key} :
    (Key.decode bytes).outcome = .ok key ↔
      ∃ value, Cbor.decode {} bytes = .ok value ∧ (Key.ofCbor value).outcome = .ok key := by
  unfold Key.decode
  cases Cbor.decode {} bytes with
  | ok value => simp
  | error error => simp

end WebAuthn.Cose
