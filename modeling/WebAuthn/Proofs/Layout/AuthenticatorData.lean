import WebAuthn.Authenticator.Data
import WebAuthn.Proofs.Layout.Bytes
import WebAuthn.Proofs.Layout.Key

/-!
# The layout of authenticator data

Which bytes are read, and as what, without a word about how they are read.

* `AttestedCredential.Heads` — a credential block stands at the front of the bytes; `AttestedCredential.parse_eq_ok`;
* `AuthenticatorData.LaidOut` — the bytes are the whole of authenticator data; `AuthenticatorData.parse_eq_ok`;
* `AuthenticatorData.Fields` — where the fields of the header stand; `LaidOut.fields`;
* `AuthenticatorData.Bare` — the bytes are the whole of authenticator data without a credential;
* `failsOnlyWith_parse` of each — the one failure of reading.
-/

namespace WebAuthn

open Audited

/-! ### Attested credential blocks -/

namespace AttestedCredential

/-- The block stands at the front of the bytes, and the rest after it. -/
def Heads (attested : AttestedCredential) (bytes rest : Bytes) : Prop :=
  0 < attested.credentialId.length ∧ attested.credentialId.length ≤ maximumIdLength ∧
    ∃ keyed item,
      bytes = attested.aaguid.bytes ++
        (Bytes.ofNat 2 attested.credentialId.length ++ (attested.credentialId ++ keyed)) ∧
      parseItem keyed = .ok (item, rest) ∧ (Cose.Key.ofCbor item).outcome = .ok attested.publicKey

theorem failsOnlyWith_malformed {α : Type} (reason : String) :
    FailsOnlyWith .invalidAttestationObject (malformedAttestation reason : Audited α) :=
  failsOnlyWith_refuseWith _ _

/-- Reading a block has one way to fail. -/
theorem failsOnlyWith_parse (bytes : Bytes) :
    FailsOnlyWith .invalidAttestationObject (parse bytes) := by
  unfold parse
  split
  · exact failsOnlyWith_malformed _
  · split
    · exact failsOnlyWith_malformed _
    · simp only
      split
      · exact failsOnlyWith_malformed _
      · split
        · exact failsOnlyWith_malformed _
        · split
          · exact failsOnlyWith_malformed _
          · exact (Cose.Key.failsOnlyWith_ofCbor _).bind fun _ => failsOnlyWith_pure _

/-- What is read stands at the front. -/
theorem heads_of_parse {attested : AttestedCredential} {bytes rest : Bytes}
    (h : (parse bytes).outcome = .ok (attested, rest)) : attested.Heads bytes rest := by
  unfold parse at h
  split at h
  · cases h
  · next aaguid afterAaguid haaguid =>
    split at h
    · cases h
    · next lengthBytes afterLength hlength =>
      simp only at h
      split at h
      · cases h
      · next hrange =>
        split at h
        · cases h
        · next id afterId hid =>
          split at h
          · cases h
          · next item after hitem =>
            obtain ⟨key, hkey, he⟩ := outcome_bind_ok.1 h
            cases he
            have hb := FixedBytes.split?_eq_some.1 haaguid
            have hl := FixedBytes.split?_eq_some.1 hlength
            have hi := FixedBytes.split?_eq_some.1 hid
            have hn : id.bytes.length = Bytes.toNat lengthBytes.bytes := id.length_eq
            -- the length was read from two bytes, which are those that would be written for it
            have hw : Bytes.ofNat 2 id.bytes.length = lengthBytes.bytes := by
              have hr := Bytes.ofNat_toNat lengthBytes.bytes
              rwa [lengthBytes.length_eq, ← hn] at hr
            refine ⟨?_, ?_, afterId, item, ?_, hitem, hkey⟩
            · show 0 < id.bytes.length
              omega
            · show id.bytes.length ≤ maximumIdLength
              omega
            · show bytes = aaguid.bytes ++ (Bytes.ofNat 2 id.bytes.length ++ (id.bytes ++ afterId))
              rw [hw, ← hi, ← hl, ← hb]

/-- What stands at the front is read. -/
theorem Heads.parse_eq {attested : AttestedCredential} {bytes rest : Bytes}
    (h : attested.Heads bytes rest) : (parse bytes).outcome = .ok (attested, rest) := by
  obtain ⟨hpos, hmax, keyed, item, hbytes, hitem, hkey⟩ := h
  have hwidth : (Bytes.ofNat 2 attested.credentialId.length).length = 2 := Bytes.ofNat_length _ _
  have hnumber :
      Bytes.toNat (Bytes.ofNat 2 attested.credentialId.length) = attested.credentialId.length :=
    Bytes.toNat_ofNat_of_lt (Nat.lt_of_le_of_lt hmax (by decide))
  have ha : FixedBytes.split? 16 bytes = some (attested.aaguid, _) :=
    FixedBytes.split?_eq_some.2 hbytes
  have hl : FixedBytes.split? 2 (Bytes.ofNat 2 attested.credentialId.length ++
      (attested.credentialId ++ keyed)) = some (⟨_, hwidth⟩, attested.credentialId ++ keyed) :=
    FixedBytes.split?_eq_some.2 rfl
  have hi : FixedBytes.split? (Bytes.toNat (Bytes.ofNat 2 attested.credentialId.length))
      (attested.credentialId ++ keyed) = some (⟨attested.credentialId, hnumber.symm⟩, keyed) :=
    FixedBytes.split?_eq_some.2 rfl
  have hrange : ¬ (Bytes.toNat (Bytes.ofNat 2 attested.credentialId.length) = 0 ∨
      Bytes.toNat (Bytes.ofNat 2 attested.credentialId.length) > maximumIdLength) := by
    rw [hnumber]
    omega
  unfold parse
  simp only [ha, hl, if_neg hrange, hi, hitem]
  exact outcome_bind_ok.2 ⟨attested.publicKey, hkey, rfl⟩

theorem parse_eq_ok {attested : AttestedCredential} {bytes rest : Bytes} :
    (parse bytes).outcome = .ok (attested, rest) ↔ attested.Heads bytes rest :=
  ⟨heads_of_parse, Heads.parse_eq⟩

/-- An item with nothing after it is the whole input. -/
theorem parseItem_eq_ok_nil {bytes : Bytes} {item : Cbor.Value} :
    parseItem bytes = .ok (item, []) ↔ Cbor.decode {} bytes = .ok item := by
  unfold parseItem Cbor.decode
  cases Cbor.Decoder.start {} bytes with
  | error e => simp [bind, Except.bind]
  | ok decoder =>
    rcases hn : decoder.next with ⟨result, after⟩
    cases result with
    | error e => simp [bind, Except.bind, hn]
    | ok value =>
      cases hr : after.remaining <;> simp [bind, Except.bind, pure, Except.pure, hn, hr]

end AttestedCredential

/-! ### Authenticator data -/

namespace AuthenticatorData

/-- What stands in the section of the attested credential, and what follows it. -/
def AttestedSection (flags : Flags) : Option AttestedCredential → (bytes rest : Bytes) → Prop
  | none, bytes, rest => flags.hasAttested = false ∧ rest = bytes
  | some attested, bytes, rest => flags.hasAttested = true ∧ attested.Heads bytes rest

/-- What stands in the section of the extensions, which is the last one. -/
def ExtensionSection (flags : Flags) :
    Option (List (Cbor.Value × Cbor.Value)) → (bytes : Bytes) → Prop
  | none, bytes => flags.hasExtensions = false ∧ bytes = []
  | some entries, bytes =>
    flags.hasExtensions = true ∧ Cbor.decode {} bytes = .ok (.map entries)

/-- The bytes behind the header are the sections of the data. -/
def Sections (data : AuthenticatorData) (bytes : Bytes) : Prop :=
  (data.flags.backupState = true → data.flags.backupEligible = true) ∧
    ∃ rest, AttestedSection data.flags data.attested bytes rest ∧
      ExtensionSection data.flags data.extensions rest

/-- The bytes are the whole of the data. -/
def LaidOut (data : AuthenticatorData) (bytes : Bytes) : Prop :=
  bytes.length ≤ maximumLength ∧
    ∃ sections, data.Sections sections ∧
      bytes = data.rpIdHash.bytes ++
        ([data.flags.byte] ++ (Bytes.ofNat 4 data.signCount.toNat ++ sections))

/-! ### Reading the sections -/

theorem failsOnlyWith_malformed {α : Type} (reason : String) :
    FailsOnlyWith .invalidAttestationObject (malformedData reason : Audited α) :=
  failsOnlyWith_refuseWith _ _

theorem parseAttested_eq_ok {flags : Flags} {attested : Option AttestedCredential}
    {bytes rest : Bytes} :
    (parseAttested flags bytes).outcome = .ok (attested, rest) ↔
      AttestedSection flags attested bytes rest := by
  unfold parseAttested
  cases hf : flags.hasAttested with
  | false => cases attested <;> simp [AttestedSection, hf, eq_comm]
  | true =>
    rw [if_pos rfl, outcome_bind_ok]
    constructor
    · intro h
      obtain ⟨⟨block, after⟩, hp, he⟩ := h
      cases he
      exact ⟨hf, AttestedCredential.parse_eq_ok.1 hp⟩
    · intro h
      cases attested with
      | none => exact absurd (hf.symm.trans h.1) (by decide)
      | some block => exact ⟨(block, rest), AttestedCredential.parse_eq_ok.2 h.2, rfl⟩

theorem failsOnlyWith_parseAttested (flags : Flags) (bytes : Bytes) :
    FailsOnlyWith .invalidAttestationObject (parseAttested flags bytes) := by
  unfold parseAttested
  split
  · exact (AttestedCredential.failsOnlyWith_parse bytes).bind fun _ => failsOnlyWith_pure _
  · exact failsOnlyWith_pure _

theorem parseExtensions_eq_ok {flags : Flags}
    {extensions : Option (List (Cbor.Value × Cbor.Value))} {bytes : Bytes} :
    (parseExtensions flags bytes).outcome = .ok (extensions, []) ↔
      ExtensionSection flags extensions bytes := by
  unfold parseExtensions
  cases hf : flags.hasExtensions with
  | false => cases extensions <;> simp [ExtensionSection, hf]
  | true =>
    rw [if_pos rfl]
    constructor
    · intro h
      split at h
      · cases h
      · next entries rest hp =>
        cases h
        exact ⟨hf, AttestedCredential.parseItem_eq_ok_nil.1 hp⟩
      · cases h
    · intro h
      cases extensions with
      | none => exact absurd (hf.symm.trans h.1) (by decide)
      | some entries => rw [AttestedCredential.parseItem_eq_ok_nil.2 h.2]; rfl

theorem failsOnlyWith_parseExtensions (flags : Flags) (bytes : Bytes) :
    FailsOnlyWith .invalidAttestationObject (parseExtensions flags bytes) := by
  unfold parseExtensions
  split
  · split
    · exact failsOnlyWith_malformed _
    · exact failsOnlyWith_pure _
    · exact failsOnlyWith_malformed _
  · exact failsOnlyWith_pure _

theorem parseSections_eq_ok {rpIdHash : FixedBytes 32} {flags : Flags} {signCount : UInt32}
    {bytes : Bytes} {data : AuthenticatorData} :
    (parseSections rpIdHash flags signCount bytes).outcome = .ok data ↔
      data.rpIdHash = rpIdHash ∧ data.flags = flags ∧ data.signCount = signCount ∧
        data.Sections bytes := by
  unfold parseSections
  constructor
  · intro h
    split at h
    · cases h
    · next hb =>
      obtain ⟨⟨attested, rest⟩, ha, h⟩ := outcome_bind_ok.1 h
      obtain ⟨⟨extensions, left⟩, he, h⟩ := outcome_bind_ok.1 h
      simp only at he h
      split at h
      · next hl =>
        cases h
        rw [List.isEmpty_iff.1 hl] at he
        refine ⟨rfl, rfl, rfl, ?_, rest, parseAttested_eq_ok.1 ha, parseExtensions_eq_ok.1 he⟩
        simpa using hb
      · cases h
  · intro h
    obtain ⟨rfl, rfl, rfl, hb, rest, ha, he⟩ := h
    rw [if_neg (by simpa using hb)]
    refine outcome_bind_ok.2 ⟨_, parseAttested_eq_ok.2 ha, ?_⟩
    exact outcome_bind_ok.2 ⟨_, parseExtensions_eq_ok.2 he, rfl⟩

theorem failsOnlyWith_parseSections (rpIdHash : FixedBytes 32) (flags : Flags) (signCount : UInt32)
    (bytes : Bytes) :
    FailsOnlyWith .invalidAttestationObject (parseSections rpIdHash flags signCount bytes) := by
  unfold parseSections
  split
  · exact failsOnlyWith_malformed _
  · refine (failsOnlyWith_parseAttested _ _).bind fun _ =>
      (failsOnlyWith_parseExtensions _ _).bind fun (_, rest) => ?_
    show FailsOnlyWith _ (if rest.isEmpty then _ else _)
    split
    · exact failsOnlyWith_pure _
    · exact failsOnlyWith_malformed _

/-! ### Reading the whole -/

/-- Reading has one way to fail. -/
theorem failsOnlyWith_parse (bytes : Bytes) :
    FailsOnlyWith .invalidAttestationObject (parse bytes) := by
  unfold parse
  split
  · exact failsOnlyWith_malformed _
  · split
    · exact failsOnlyWith_malformed _
    · split
      · exact failsOnlyWith_malformed _
      · split
        · exact failsOnlyWith_malformed _
        · exact failsOnlyWith_parseSections _ _ _ _

/-- The flag byte as it is read is the byte. -/
theorem readFlags (flags : FixedBytes 1) :
    [UInt8.ofNat (Bytes.toNat flags.bytes)] = flags.bytes := by
  obtain ⟨bytes, hl⟩ := flags
  obtain ⟨b, rfl⟩ := List.length_eq_one_iff.1 hl
  show [UInt8.ofNat (256 * 0 + b.toNat)] = [b]
  simp

/-- The sign count as it is read is written back as the same bytes. -/
theorem readSignCount (signCount : FixedBytes 4) :
    Bytes.ofNat 4 (UInt32.ofNat (Bytes.toNat signCount.bytes)).toNat = signCount.bytes := by
  have hlt := Bytes.toNat_lt signCount.bytes
  have h := Bytes.ofNat_toNat signCount.bytes
  rw [signCount.length_eq] at hlt h
  have hlt' : Bytes.toNat signCount.bytes < UInt32.size := Nat.lt_of_lt_of_eq hlt (by decide)
  rw [UInt32.toNat_ofNat', Nat.mod_eq_of_lt hlt', h]

/-- A sign count is read as it was written. -/
theorem writeSignCount (signCount : UInt32) :
    Bytes.toNat (Bytes.ofNat 4 signCount.toNat) = signCount.toNat :=
  Bytes.toNat_ofNat_of_lt (Nat.lt_of_lt_of_eq signCount.toNat_lt (by decide))

/-- What is read is laid out in the bytes. -/
theorem laidOut_of_parse {bytes : Bytes} {data : AuthenticatorData}
    (h : (parse bytes).outcome = .ok data) : data.LaidOut bytes := by
  unfold parse at h
  split at h
  · cases h
  · next hlong =>
    split at h
    · cases h
    · next rpIdHash afterHash hhash =>
      split at h
      · cases h
      · next flags afterFlags hflags =>
        split at h
        · cases h
        · next signCount sections hcount =>
          obtain ⟨hr, hf, hc, hs⟩ := parseSections_eq_ok.1 h
          have hb := FixedBytes.split?_eq_some.1 hhash
          have hfb := FixedBytes.split?_eq_some.1 hflags
          have hcb := FixedBytes.split?_eq_some.1 hcount
          refine ⟨Nat.le_of_not_lt hlong, sections, hs, ?_⟩
          rw [hr, hf, hc, readFlags, readSignCount, ← hcb, ← hfb, ← hb]

/-- What is laid out in the bytes is read. -/
theorem LaidOut.parse_eq {bytes : Bytes} {data : AuthenticatorData} (h : data.LaidOut bytes) :
    (parse bytes).outcome = .ok data := by
  obtain ⟨hlong, sections, hs, hbytes⟩ := h
  have hh : FixedBytes.split? 32 bytes = some (data.rpIdHash, _) :=
    FixedBytes.split?_eq_some.2 hbytes
  have hf : FixedBytes.split? 1 ([data.flags.byte] ++
      (Bytes.ofNat 4 data.signCount.toNat ++ sections)) = some (⟨[data.flags.byte], rfl⟩, _) :=
    FixedBytes.split?_eq_some.2 rfl
  have hc : FixedBytes.split? 4 (Bytes.ofNat 4 data.signCount.toNat ++ sections) =
      some (⟨_, Bytes.ofNat_length 4 data.signCount.toNat⟩, sections) :=
    FixedBytes.split?_eq_some.2 rfl
  have hflags : (⟨UInt8.ofNat (Bytes.toNat [data.flags.byte])⟩ : Flags) = data.flags := by
    have h := readFlags ⟨[data.flags.byte], rfl⟩
    rw [(List.cons.inj h).1]
  have hcount : UInt32.ofNat (Bytes.toNat (Bytes.ofNat 4 data.signCount.toNat)) = data.signCount := by
    rw [writeSignCount, UInt32.ofNat_toNat]
  unfold parse
  simp only [if_neg (Nat.not_lt.2 hlong), hh, hf, hc, hflags, hcount]
  exact parseSections_eq_ok.2 ⟨rfl, rfl, rfl, hs⟩

theorem parse_eq_ok {bytes : Bytes} {data : AuthenticatorData} :
    (parse bytes).outcome = .ok data ↔ data.LaidOut bytes :=
  ⟨laidOut_of_parse, LaidOut.parse_eq⟩

/-! ### Fields of the header -/

/-- The number of bytes before the sections. -/
def headerLength : Nat := 37

def flagsAt (bytes : Bytes) : Flags :=
  ⟨bytes.getD 32 0⟩

def signCountAt (bytes : Bytes) : Nat :=
  Bytes.toNat ((bytes.drop 33).take 4)

theorem signCountAt_lt (bytes : Bytes) : signCountAt bytes < UInt32.size := by
  have hlt := Bytes.toNat_lt ((bytes.drop 33).take 4)
  have hlen : ((bytes.drop 33).take 4).length ≤ 4 := List.length_take_le _ _
  have hpow : Nat.pow 256 ((bytes.drop 33).take 4).length ≤ UInt32.size :=
    Nat.pow_le_pow_right (by decide) hlen
  exact Nat.lt_of_lt_of_le hlt hpow

theorem flagsAt_append (rpIdHash : FixedBytes 32) (flags : Flags) (rest : Bytes) :
    flagsAt (rpIdHash.bytes ++ ([flags.byte] ++ rest)) = flags := by
  unfold flagsAt
  rw [List.getD_eq_getElem?_getD, List.getElem?_append_right (Nat.le_of_eq rpIdHash.length_eq),
    rpIdHash.length_eq]
  rfl

/-- The fields of the data stand in the header of the bytes, and its sections behind. -/
structure Fields (data : AuthenticatorData) (bytes : Bytes) : Prop where
  header : headerLength ≤ bytes.length
  rpIdHash : data.rpIdHash.bytes = bytes.take 32
  flags : data.flags = flagsAt bytes
  signCount : data.signCount.toNat = signCountAt bytes
  sections : data.Sections (bytes.drop headerLength)

theorem LaidOut.fields {data : AuthenticatorData} {bytes : Bytes} (h : data.LaidOut bytes) :
    data.Fields bytes := by
  obtain ⟨_, sections, hs, rfl⟩ := h
  have hr : data.rpIdHash.bytes.length = 32 := data.rpIdHash.length_eq
  have hc : (Bytes.ofNat 4 data.signCount.toNat).length = 4 := Bytes.ofNat_length _ _
  have hcount : (data.rpIdHash.bytes ++ ([data.flags.byte] ++
      (Bytes.ofNat 4 data.signCount.toNat ++ sections))).drop 33 =
      Bytes.ofNat 4 data.signCount.toNat ++ sections := by
    rw [← List.append_assoc]
    exact List.drop_left' (by rw [List.length_append, hr]; rfl)
  refine ⟨?_, ?_, ?_, ?_, ?_⟩
  · simp only [List.length_append, hr, hc, headerLength, List.length_singleton]
    omega
  · rw [List.take_left' hr]
  · rw [flagsAt_append]
  · unfold signCountAt
    rw [hcount, List.take_left' hc, writeSignCount]
  · have hd : headerLength = 33 + 4 := rfl
    rw [hd, ← List.drop_drop, hcount, List.drop_left' hc]
    exact hs

/-- Enough bytes for a header are one with sections behind. -/
theorem exists_header {bytes : Bytes} (h : headerLength ≤ bytes.length) :
    ∃ (rpIdHash : FixedBytes 32) (flags : Flags) (signCount : UInt32),
      bytes = rpIdHash.bytes ++
        ([flags.byte] ++ (Bytes.ofNat 4 signCount.toNat ++ bytes.drop headerLength)) := by
  have hlen : 37 ≤ bytes.length := h
  have hflags : (bytes.drop 32).length = bytes.length - 32 := List.length_drop
  have hcount : ((bytes.drop 33).take 4).length = 4 := by
    rw [List.length_take, List.length_drop]
    omega
  refine ⟨⟨bytes.take 32, by rw [List.length_take]; omega⟩, ⟨bytes[32]⟩,
    UInt32.ofNat (Bytes.toNat ((bytes.drop 33).take 4)), ?_⟩
  rw [readSignCount ⟨_, hcount⟩]
  show bytes = bytes.take 32 ++ (bytes[32] :: ((bytes.drop 33).take 4 ++ bytes.drop (33 + 4)))
  rw [← List.drop_drop, List.take_append_drop, List.getElem_cons_drop, List.take_append_drop]

/-! ### Data without a credential -/

/-- The bytes are the whole of authenticator data that carries no credential. -/
structure Bare (bytes : Bytes) : Prop where
  length_le : bytes.length ≤ maximumLength
  header : headerLength ≤ bytes.length
  backup : (flagsAt bytes).backupState = true → (flagsAt bytes).backupEligible = true
  unattested : (flagsAt bytes).hasAttested = false
  extensions :
    if (flagsAt bytes).hasExtensions then
      ∃ entries, Cbor.decode {} (bytes.drop headerLength) = .ok (.map entries)
    else bytes.drop headerLength = []

theorem LaidOut.bare {data : AuthenticatorData} {bytes : Bytes} (h : data.LaidOut bytes)
    (hn : data.flags.hasAttested = false) : Bare bytes := by
  have hf := h.fields
  obtain ⟨hb, rest, ha, he⟩ := hf.sections
  rw [hf.flags] at hn hb ha he
  refine ⟨h.1, hf.header, hb, hn, ?_⟩
  -- without a credential the extensions begin right behind the header
  have hrest : rest = bytes.drop headerLength := by
    cases hd : data.attested with
    | none =>
      rw [hd] at ha
      exact ha.2
    | some attested =>
      rw [hd] at ha
      exact absurd (hn.symm.trans ha.1) (by decide)
  rw [hrest] at he
  cases hd : data.extensions with
  | none =>
    rw [hd] at he
    rw [he.1, if_neg Bool.false_ne_true]
    exact he.2
  | some entries =>
    rw [hd] at he
    rw [he.1, if_pos rfl]
    exact ⟨entries, he.2⟩

theorem Bare.exists_laidOut {bytes : Bytes} (h : Bare bytes) :
    ∃ data : AuthenticatorData, data.LaidOut bytes ∧ data.flags.hasAttested = false := by
  obtain ⟨rpIdHash, flags, signCount, hbytes⟩ := exists_header h.header
  obtain ⟨extensions, he⟩ :
      ∃ extensions, ExtensionSection (flagsAt bytes) extensions (bytes.drop headerLength) := by
    have hx := h.extensions
    cases hf : (flagsAt bytes).hasExtensions with
    | false =>
      rw [hf, if_neg Bool.false_ne_true] at hx
      exact ⟨none, hf, hx⟩
    | true =>
      rw [hf, if_pos rfl] at hx
      obtain ⟨entries, hd⟩ := hx
      exact ⟨some entries, hf, hd⟩
  have hflags : flags = flagsAt bytes := by
    rw [hbytes, flagsAt_append]
  refine ⟨⟨rpIdHash, flags, signCount, none, extensions⟩,
    ⟨h.length_le, bytes.drop headerLength, ?_, hbytes⟩, ?_⟩
  · rw [hflags]
    exact ⟨h.backup, bytes.drop headerLength, ⟨h.unattested, rfl⟩, he⟩
  · rw [hflags]
    exact h.unattested

/-! ### Checks -/

variable {data : AuthenticatorData}

theorem decidedBy_verifyRpId (rpId : String) :
    (data.verifyRpId rpId).DecidedBy
      [⟨data.rpIdHash.bytes = sha256 (Utf8.encode rpId), .rpIdMismatch⟩] (.ok ()) :=
  decidedBy_require (Bytes.same_iff _ _)

theorem decidedBy_verifyUserPresent :
    data.verifyUserPresent.DecidedBy
      [⟨data.flags.userPresent = true, .userPresenceRequired⟩] (.ok ()) :=
  decidedBy_require Iff.rfl

theorem decidedBy_verifyUserVerification (level : UserVerification) :
    (data.verifyUserVerification level).DecidedBy
      [⟨level = .required → data.flags.userVerified = true, .userVerificationRequired⟩] (.ok ()) := by
  refine decidedBy_require ?_
  cases level <;> simp

end AuthenticatorData

end WebAuthn
