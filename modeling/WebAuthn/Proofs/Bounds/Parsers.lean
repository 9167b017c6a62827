import WebAuthn.Proofs.Bounds.Reader
import WebAuthn.Proofs.Layout.AttestationObject
import WebAuthn.Proofs.Layout.Boundaries

/-!
# Reading what an authenticator sends stays within the input

Keys, credential blocks, authenticator data and attestation objects are cut out of the input at fixed places and at places
that their own bytes tell. Each cut, copy and index is a step that may give nothing; none ever does, because every one
of them is guarded, by a check of a length or by what a decoder has consumed.

* `Checked.key`, `credentialBlock`, `authenticatorData`, `attestationObject` — the four readers with these steps;
* `key_eq`, `credentialBlock_eq`, `authenticatorData_eq`, `attestationObject_eq` — each of them stays in range and does
  what the reader does; `suffix?_of_parseCounted` is why the bytes behind a credential block are within the input;
* `parsers_stay_in_range` — every run, over inputs, streams and keys, ends in a result or in a declared error.
-/

namespace WebAuthn.Checked

open Cbor (Limits Value Error)
open Guarded (lift access)

/-! ### Keys -/

section Keys

open Cose

def coordinate (map : Parameters) (label : Int) : Guarded Coordinate := do
  let bytes ← lift (orMalformedKey (Parameters.bytes? map label) "missing coordinate")
  if bytes.length = 32 then access (copy? 32 bytes)
  else lift (malformedKey "coordinate has the wrong length")

def ec2Key (algorithm : Algorithm) (map : Parameters) : Guarded Ec2Key := do
  lift (Parameters.refuseSecret map)
  let curve ← lift (Parameters.curve map)
  if curve ≠ .p256 then lift (malformedKey "EC2 key is not on P-256")
  else
    let x ← coordinate map labelX
    let y ← coordinate map labelY
    let key : Ec2Key := ⟨algorithm, curve, x, y⟩
    let _ ← lift key.point
    return key

def okpKey (algorithm : Algorithm) (map : Parameters) : Guarded OkpKey := do
  lift (Parameters.refuseSecret map)
  let curve ← lift (Parameters.curve map)
  if curve ≠ .ed25519 then lift (malformedKey "OKP key is not on Ed25519")
  else
    let x ← coordinate map labelX
    let key : OkpKey := ⟨algorithm, curve, x⟩
    let _ ← lift key.point
    return key

/-- Whether a modulus is too short; its first byte is only looked at when the length is right. -/
def shortModulus (modulus : Bytes) : Guarded Bool :=
  if modulus.length < minimumModulusLength then pure true
  else do
    let first ← access (byteAt? modulus 0)
    return first = 0

def rsaKey (algorithm : Algorithm) (map : Parameters) : Guarded RsaKey := do
  let modulus ← lift (orMalformedKey (Parameters.bytes? map labelModulus) "RSA key is missing its modulus")
  let exponent ← lift (orMalformedKey (Parameters.bytes? map labelExponent) "RSA key is missing its exponent")
  let short ← shortModulus modulus
  if short then lift (malformedKey "RSA modulus is shorter than 2048 bits")
  else if exponent.length = 0 ∨ exponent.length > maximumExponentLength then
    lift (malformedKey "RSA exponent out of range")
  else
    let key : RsaKey := ⟨algorithm, modulus, exponent⟩
    let _ ← lift key.publicKey
    return key

def keyOfParameters (map : Parameters) : Guarded Key := do
  if map.any fun entry => !Key.isLabel entry.1 then
    lift (malformedKey "credential public key has a non integer label")
  else
    let keyType ← lift (orMalformedKey
      ((Parameters.integer? map labelKeyType).bind KeyType.ofIdentifier?) "unsupported or missing key type")
    let algorithm ← lift (orMalformedKey
      ((Parameters.integer? map labelAlgorithm).bind Algorithm.ofIdentifier?)
      "unsupported or missing algorithm")
    if algorithm.keyType ≠ keyType then lift (malformedKey "algorithm does not match key type")
    else
      match keyType with
      | .ec2 => Key.ec2 <$> ec2Key algorithm map
      | .okp => Key.okp <$> okpKey algorithm map
      | .rsa => Key.rsa <$> rsaKey algorithm map

def key : Value → Guarded Key
  | .map entries => keyOfParameters entries
  | _ => lift (malformedKey "credential public key is not a map")

variable {map : Parameters}

theorem coordinate_eq (map : Parameters) (label : Int) :
    coordinate map label = some (Parameters.coordinate map label) := by
  refine Guarded.bind_eq rfl fun bytes _ => ?_
  by_cases hlength : bytes.length = 32
  · have hfixed : FixedBytes.ofBytes? bytes = some ⟨bytes, hlength⟩ :=
      FixedBytes.ofBytes?_eq_some.2 rfl
    rw [if_pos hlength, copy?, hfixed]
    rfl
  · have hnone : (FixedBytes.ofBytes? bytes : Option Coordinate) = none := dif_neg hlength
    rw [if_neg hlength, hnone]
    rfl

theorem ec2Key_eq (algorithm : Algorithm) (map : Parameters) :
    ec2Key algorithm map = some (Ec2Key.ofParameters algorithm map) := by
  refine Guarded.bind_eq rfl fun _ _ => Guarded.bind_eq rfl fun curve _ => ?_
  split
  · rfl
  · exact Guarded.bind_eq (coordinate_eq map labelX) fun x _ =>
      Guarded.bind_eq (coordinate_eq map labelY) fun y _ => Guarded.bind_eq rfl fun _ _ => rfl

theorem okpKey_eq (algorithm : Algorithm) (map : Parameters) :
    okpKey algorithm map = some (OkpKey.ofParameters algorithm map) := by
  refine Guarded.bind_eq rfl fun _ _ => Guarded.bind_eq rfl fun curve _ => ?_
  split
  · rfl
  · exact Guarded.bind_eq (coordinate_eq map labelX) fun x _ => Guarded.bind_eq rfl fun _ _ => rfl

/-- The first byte of a modulus of the right length is within it. -/
theorem shortModulus_eq (modulus : Bytes) :
    shortModulus modulus =
      some (pure (decide (modulus.length < minimumModulusLength ∨ modulus.headD 0 = 0))) := by
  unfold shortModulus
  split
  · next hshort =>
    rw [decide_eq_true (.inl hshort)]
    rfl
  · next hlong =>
    cases modulus with
    | nil => exact absurd (by decide) hlong
    | cons first rest =>
      have hfirst : decide ((first :: rest).length < minimumModulusLength ∨ first = 0) = decide (first = 0) := by
        simp only [hlong, false_or]
      show (access (some first) >>= fun first => pure (decide (first = 0)) : Guarded Bool) =
        some (pure (decide ((first :: rest).length < minimumModulusLength ∨ first = 0)))
      rw [Guarded.access_bind rfl, hfirst]
      rfl

theorem rsaKey_eq (algorithm : Algorithm) (map : Parameters) :
    rsaKey algorithm map = some (RsaKey.ofParameters algorithm map) := by
  refine Guarded.bind_eq rfl fun modulus _ => Guarded.bind_eq rfl fun exponent _ => ?_
  rw [shortModulus_eq]
  refine (Guarded.access_bind rfl _).trans ?_
  by_cases hshort : modulus.length < minimumModulusLength ∨ modulus.headD 0 = 0
  · rw [decide_eq_true hshort, if_pos rfl, if_pos hshort]
    rfl
  · rw [decide_eq_false hshort, if_neg Bool.false_ne_true, if_neg hshort]
    split
    · rfl
    · exact Guarded.bind_eq rfl fun _ _ => rfl

theorem keyOfParameters_eq (map : Parameters) : keyOfParameters map = some (Key.ofParameters map) := by
  unfold keyOfParameters Key.ofParameters
  split
  · rfl
  · refine Guarded.bind_eq rfl fun keyType _ => Guarded.bind_eq rfl fun algorithm _ => ?_
    split
    · rfl
    · cases keyType with
      | ec2 => exact Guarded.map_eq (ec2Key_eq algorithm map)
      | okp => exact Guarded.map_eq (okpKey_eq algorithm map)
      | rsa => exact Guarded.map_eq (rsaKey_eq algorithm map)

/-- Reading a key stays in range. -/
theorem key_eq (value : Value) : key value = some (Key.ofCbor value) := by
  cases value with
  | map entries => exact keyOfParameters_eq entries
  | _ => rfl

end Keys

/-! ### Credential blocks -/

def firstItem (bytes : Bytes) : Option (Except Error (Value × Place)) :=
  match start {} bytes with
  | .error e => some (.error e)
  | .ok place => (next {} place).map fun (result, stop) => result.map fun value => (value, stop)

def credentialBlock (bytes : Bytes) : Guarded (AttestedCredential × Nat) :=
  if bytes.length < 18 then lift (malformedAttestation "attested credential data is truncated")
  else do
    let (aaguidBytes, rest) ← access (splitAt? bytes 16)
    let (lengthBytes, rest) ← access (splitAt? rest 2)
    let aaguid : FixedBytes 16 ← access (copy? 16 aaguidBytes)
    let idLength : FixedBytes 2 ← access (copy? 2 lengthBytes)
    let length := Bytes.toNat idLength.bytes
    if length = 0 ∨ length > AttestedCredential.maximumIdLength then
      lift (malformedAttestation "credential id length out of range")
    else if rest.length < length then lift (malformedAttestation "credential id is truncated")
    else
      let (credentialId, keyBytes) ← access (splitAt? rest length)
      let item ← access (firstItem keyBytes)
      match item with
      | .error error => lift (malformedAttestation error.message)
      | .ok (value, stop) =>
        let publicKey ← key value
        return (⟨aaguid, credentialId, publicKey⟩, 18 + length + stop.position)

/-- The first data item is read within the bytes, and what it leaves is within them. -/
theorem firstItem_eq (bytes : Bytes) : ∃ result : Except Error (Value × Place),
    firstItem bytes = some result ∧
      AttestedCredential.parseItem bytes = result.map (fun item => (item.1, item.2.cursor.rest)) ∧
      ∀ value stop, result = .ok (value, stop) →
        stop.InBounds ∧ stop.position = AttestedCredential.itemLength bytes := by
  rw [firstItem, AttestedCredential.parseItem, AttestedCredential.itemLength, start_eq]
  cases hstart : start {} bytes with
  | error e =>
    refine ⟨.error e, rfl, rfl, ?_⟩
    intro value stop hnone
    cases hnone
  | ok place =>
    obtain ⟨stop, hnext, hafter, hstop⟩ := next_eq {} (inBounds_of_start hstart)
    dsimp only [Except.map, bind, Except.bind]
    rw [hnext, hafter]
    rcases (place.decoder {}).next with ⟨result, after⟩
    refine ⟨result.map fun value => (value, stop), rfl, ?_, ?_⟩
    · cases result <;> rfl
    · intro value found hfound
      cases result with
      | error e => cases hfound
      | ok first =>
        cases hfound
        exact ⟨hstop, rfl⟩

section Blocks

open AttestedCredential (parse parseCounted keyStart itemLength maximumIdLength)

/-- Bytes that are long enough begin with as many as are wanted. -/
theorem exists_split {n : Nat} {bytes : Bytes} (h : n ≤ bytes.length) :
    ∃ (front : FixedBytes n) (rest : Bytes), bytes = front.bytes ++ rest :=
  ⟨⟨bytes.take n, List.length_take_of_le h⟩, bytes.drop n, (List.take_append_drop n bytes).symm⟩

theorem split?_append {n : Nat} (front : FixedBytes n) (rest : Bytes) :
    FixedBytes.split? n (front.bytes ++ rest) = some (front, rest) :=
  FixedBytes.split?_eq_some.2 rfl

/-- Bytes that are too short for the fixed part are no block. -/
theorem parse_of_short {bytes : Bytes} (h : bytes.length < 18) :
    parse bytes = malformedAttestation "attested credential data is truncated" := by
  unfold parse
  split
  · rfl
  · next aaguid rest haaguid =>
    have hbytes := congrArg List.length (FixedBytes.split?_eq_some.1 haaguid)
    rw [List.length_append, aaguid.length_eq] at hbytes
    have hrest : FixedBytes.split? 2 rest = none := FixedBytes.split?_eq_none.2 (by omega)
    rw [hrest]

/-- What stands behind the fixed part and the id. -/
theorem drop_key {aaguid : FixedBytes 16} {idLength : FixedBytes 2} {id keyBytes : Bytes} :
    (aaguid.bytes ++ (idLength.bytes ++ (id ++ keyBytes))).drop (18 + id.length) = keyBytes := by
  rw [← List.append_assoc, ← List.append_assoc]
  refine List.drop_left' ?_
  simp only [List.length_append, aaguid.length_eq, idLength.length_eq]

/-- Reading a credential block stays in range. -/
theorem credentialBlock_eq (bytes : Bytes) : credentialBlock bytes = some (parseCounted bytes) := by
  unfold credentialBlock
  by_cases hshort : bytes.length < 18
  · rw [if_pos hshort, parseCounted, parse_of_short hshort]
    rfl
  · rw [if_neg hshort]
    -- both readers are compared on bytes that are cut into the parts that they ask for
    obtain ⟨aaguid, behind, rfl⟩ := @exists_split 16 bytes (by omega)
    have hlength : 2 ≤ behind.length := by
      rw [List.length_append, aaguid.length_eq] at hshort
      omega
    obtain ⟨idLength, rest, rfl⟩ := exists_split hlength
    simp only [Guarded.access_bind (splitAt?_append aaguid.length_eq),
      Guarded.access_bind (splitAt?_append idLength.length_eq), Guarded.access_bind (copy?_bytes aaguid),
      Guarded.access_bind (copy?_bytes idLength), parseCounted, parse, split?_append]
    generalize Bytes.toNat idLength.bytes = length
    by_cases hrange : length = 0 ∨ length > maximumIdLength
    · rw [if_pos hrange, if_pos hrange]
      rfl
    · rw [if_neg hrange, if_neg hrange]
      by_cases hcut : rest.length < length
      · rw [if_pos hcut, FixedBytes.split?_eq_none.2 hcut]
        rfl
      · rw [if_neg hcut]
        obtain ⟨id, keyBytes, rfl⟩ := exists_split (Nat.le_of_not_lt hcut)
        obtain ⟨result, hitem, hparse, hstop⟩ := firstItem_eq keyBytes
        rw [Guarded.access_bind (splitAt?_append id.length_eq), split?_append]
        simp only [Guarded.access_bind hitem, hparse]
        cases result with
        | error error => rfl
        | ok item =>
          obtain ⟨value, stop⟩ := item
          obtain ⟨-, hposition⟩ := hstop value stop rfl
          show (key value >>= _) = some ((Cose.Key.ofCbor value >>= _) >>= _)
          rw [bind_assoc]
          refine Guarded.bind_eq (key_eq value) fun publicKey _ => ?_
          have hstart : keyStart ⟨aaguid, id.bytes, publicKey⟩ = 18 + id.bytes.length := rfl
          show some (pure (_, 18 + length + stop.position)) =
            some (pure (_, keyStart _ + itemLength (List.drop (keyStart _) _)))
          rw [hstart, drop_key, id.length_eq, hposition]

end Blocks

/-! ### Authenticator data -/

section Data

open AuthenticatorData (parseAttested parseExtensions parseSections)

def attestedSection (flags : Flags) (bytes : Bytes) : Guarded (Option AttestedCredential × Bytes) :=
  if flags.hasAttested then do
    let (attested, consumed) ← credentialBlock bytes
    let rest ← access (suffix? bytes consumed)
    return (some attested, rest)
  else return (none, bytes)

def extensionSection (flags : Flags) (bytes : Bytes) :
    Guarded (Option (List (Value × Value)) × Bytes) :=
  if flags.hasExtensions then do
    let item ← access (firstItem bytes)
    match item with
    | .error error => lift (malformedData error.message)
    | .ok (.map entries, stop) =>
      let rest ← access stop.remaining?
      return (some entries, rest)
    | .ok _ => lift (malformedData "extensions are not a map")
  else return (none, bytes)

def authenticatorData (bytes : Bytes) : Guarded AuthenticatorData :=
  if bytes.length > AuthenticatorData.maximumLength then
    lift (malformedData "authenticator data exceeds maximum length")
  else if bytes.length < 37 then lift (malformedData "authenticator data is truncated")
  else do
    let (rpIdHashBytes, rest) ← access (splitAt? bytes 32)
    let (flagBytes, rest) ← access (splitAt? rest 1)
    let (signCountBytes, rest) ← access (splitAt? rest 4)
    let rpIdHash : FixedBytes 32 ← access (copy? 32 rpIdHashBytes)
    let signCount : FixedBytes 4 ← access (copy? 4 signCountBytes)
    let flagByte ← access (byteAt? flagBytes 0)
    let flags : Flags := ⟨flagByte⟩
    if flags.backupState && !flags.backupEligible then
      lift (malformedData "backup state set without backup eligibility")
    else
      let (attested, rest) ← attestedSection flags rest
      let (extensions, rest) ← extensionSection flags rest
      if rest.isEmpty then
        return ⟨rpIdHash, flags, UInt32.ofNat (Bytes.toNat signCount.bytes), attested, extensions⟩
      else lift (malformedData "trailing bytes after authenticator data")

/-- What a block has consumed is within the bytes, and what follows it is what was not consumed. -/
theorem suffix?_of_parse {attested : AttestedCredential} {bytes rest : Bytes}
    (h : (AttestedCredential.parse bytes).outcome = .ok (attested, rest)) :
    suffix? bytes (attested.keyStart + AttestedCredential.itemLength (bytes.drop attested.keyStart)) =
      some rest := by
  obtain ⟨hlong, block, hblock, rfl⟩ :=
    AttestedCredential.heads_iff_block.1 (AttestedCredential.parse_eq_ok.1 h)
  have hle : block.length ≤ (block ++ rest).length := by
    rw [List.length_append]
    exact Nat.le_add_right _ _
  rw [hblock.length_eq hlong, suffix?_eq_some hle, List.drop_left]

theorem attestedSection_eq (flags : Flags) (bytes : Bytes) :
    attestedSection flags bytes = some (parseAttested flags bytes) := by
  unfold attestedSection parseAttested
  split
  · rw [credentialBlock_eq]
    refine (Guarded.lift_bind_bind (AttestedCredential.parse bytes) _ _).trans ?_
    refine Guarded.bind_eq rfl fun (attested, rest) hparse => ?_
    refine (Guarded.access_bind rfl _).trans ?_
    show (access (suffix? bytes _) >>= _) = _
    rw [Guarded.access_bind (suffix?_of_parse hparse)]
    rfl
  · rfl

theorem extensionSection_eq (flags : Flags) (bytes : Bytes) :
    extensionSection flags bytes = some (parseExtensions flags bytes) := by
  unfold extensionSection parseExtensions
  split
  · obtain ⟨result, hitem, hparse, hstop⟩ := firstItem_eq bytes
    rw [Guarded.access_bind hitem, hparse]
    cases result with
    | error error => rfl
    | ok item =>
      obtain ⟨value, stop⟩ := item
      obtain ⟨hbounds, -⟩ := hstop value stop rfl
      cases value with
      | map entries =>
        show (access stop.remaining? >>= _) = _
        rw [Guarded.access_bind (Place.remaining?_eq_some hbounds)]
        rfl
      | _ => rfl
  · rfl

/-- Bytes that are too short for the header are no authenticator data. -/
theorem parse_of_headless {bytes : Bytes} (hmax : ¬ bytes.length > AuthenticatorData.maximumLength)
    (h : bytes.length < 37) :
    AuthenticatorData.parse bytes = malformedData "authenticator data is truncated" := by
  unfold AuthenticatorData.parse
  rw [if_neg hmax]
  split
  · rfl
  · next rpIdHash behind hrpIdHash =>
    split
    · rfl
    · next flags rest hflags =>
      have hbytes := congrArg List.length (FixedBytes.split?_eq_some.1 hrpIdHash)
      have hbehind := congrArg List.length (FixedBytes.split?_eq_some.1 hflags)
      rw [List.length_append, rpIdHash.length_eq] at hbytes
      rw [List.length_append, flags.length_eq] at hbehind
      have hrest : FixedBytes.split? 4 rest = none := FixedBytes.split?_eq_none.2 (by omega)
      rw [hrest]

/-- Reading authenticator data stays in range. -/
theorem authenticatorData_eq (bytes : Bytes) :
    authenticatorData bytes = some (AuthenticatorData.parse bytes) := by
  unfold authenticatorData
  by_cases hmax : bytes.length > AuthenticatorData.maximumLength
  · rw [if_pos hmax, AuthenticatorData.parse, if_pos hmax]
    rfl
  · rw [if_neg hmax]
    by_cases hshort : bytes.length < 37
    · rw [if_pos hshort, parse_of_headless hmax hshort]
      rfl
    · rw [if_neg hshort, AuthenticatorData.parse, if_neg hmax]
      obtain ⟨rpIdHash, behind, rfl⟩ := @exists_split 32 bytes (by omega)
      rw [List.length_append, rpIdHash.length_eq] at hshort
      obtain ⟨flags, behind, rfl⟩ := @exists_split 1 behind (by omega)
      rw [List.length_append, flags.length_eq] at hshort
      obtain ⟨signCount, rest, rfl⟩ := @exists_split 4 behind (by omega)
      have hflag : byteAt? flags.bytes 0 = some (UInt8.ofNat (Bytes.toNat flags.bytes)) :=
        (congrArg (byteAt? · 0) (AuthenticatorData.readFlags flags)).symm
      simp only [Guarded.access_bind (splitAt?_append rpIdHash.length_eq),
        Guarded.access_bind (splitAt?_append flags.length_eq),
        Guarded.access_bind (splitAt?_append signCount.length_eq), split?_append,
        Guarded.access_bind (copy?_bytes rpIdHash), Guarded.access_bind (copy?_bytes signCount),
        Guarded.access_bind hflag, parseSections]
      split
      · rfl
      · refine Guarded.bind_eq (attestedSection_eq _ _) fun (attested, rest) _ =>
          Guarded.bind_eq (extensionSection_eq _ _) fun (extensions, rest) _ => ?_
        show (if rest.isEmpty then _ else _) = some (if rest.isEmpty then _ else _)
        cases rest.isEmpty <;> rfl

end Data

/-! ### Attestation objects -/

open AttestationObject (parseFormat parseRawData parseStatement)

def attestationObject (bytes : Bytes) : Guarded AttestationObject := do
  let item ← access (decode {} bytes)
  match item with
  | .ok (.map members) =>
    let format ← lift (parseFormat members)
    let rawData ← lift (parseRawData members)
    let statement ← lift (parseStatement members)
    let data ← authenticatorData rawData
    return ⟨format, rawData, data, statement⟩
  | .ok _ => lift (malformedAttestation "attestation object is not a map")
  | .error error => lift (malformedAttestation error.message)

/-- Reading an attestation object stays in range. -/
theorem attestationObject_eq (bytes : Bytes) :
    attestationObject bytes = some (AttestationObject.parse bytes) := by
  unfold attestationObject AttestationObject.parse
  rw [Guarded.access_bind (decode_eq {} bytes)]
  cases Cbor.decode {} bytes with
  | error error => rfl
  | ok value =>
    cases value with
    | map members =>
      exact Guarded.bind_eq rfl fun format _ => Guarded.bind_eq rfl fun rawData _ =>
        Guarded.bind_eq rfl fun statement _ => Guarded.bind_eq (authenticatorData_eq rawData) fun _ _ => rfl
    | _ => rfl

/-! ### Every run -/

/-- No access of the check is out of range, and the check does what the other one does, which fails as declared. -/
structure Guarded.Safe {α : Type} (m : Guarded α) (x : Audited α) : Prop where
  inRange : m = some x
  declared : x.FailsOnlyWith .invalidAttestationObject

/-- No access is out of range: for every input and all limits, a decoder that is asked for one item or for any number of
items ends in what the reader of data items gives, and so do the readers of keys, of credential blocks, of authenticator
data and of attestation objects, which fail in one declared way. -/
theorem parsers_stay_in_range :
    (∀ limits input, decode limits input = some (Cbor.decode limits input)) ∧
      (∀ limits input count, stream limits input count = some (Cbor.Decoder.stream limits input count)) ∧
      (∀ value, (key value).Safe (Cose.Key.ofCbor value)) ∧
      (∀ bytes, (credentialBlock bytes).Safe (AttestedCredential.parseCounted bytes)) ∧
      (∀ bytes, (authenticatorData bytes).Safe (AuthenticatorData.parse bytes)) ∧
      ∀ bytes, (attestationObject bytes).Safe (AttestationObject.parse bytes) := by
  refine ⟨decode_eq, stream_eq, fun value => ⟨key_eq value, Cose.Key.failsOnlyWith_ofCbor value⟩,
    fun bytes => ⟨credentialBlock_eq bytes, ?_⟩,
    fun bytes => ⟨authenticatorData_eq bytes, AuthenticatorData.failsOnlyWith_parse bytes⟩,
    fun bytes => ⟨attestationObject_eq bytes, AttestationObject.failsOnlyWith_parse bytes⟩⟩
  exact (AttestedCredential.failsOnlyWith_parse bytes).bind fun _ => Audited.failsOnlyWith_pure _

end WebAuthn.Checked
