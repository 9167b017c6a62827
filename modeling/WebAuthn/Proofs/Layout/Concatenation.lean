import WebAuthn.Proofs.Cbor.Recognition
import WebAuthn.Proofs.Layout.AuthenticatorData

/-!
# Authenticator data as a concatenation

Where one section ends and the next one begins is known only from the encodings in them: the credential block ends
where the encoding of its key does. Here every section is a byte string of its own, given by the grammar of CBOR.

* `AttestedCredential.Block`, `heads_iff_block` — the bytes of a credential block, and blocks at the front of more bytes;
* `AuthenticatorData.CredentialSection`, `ExtensionsSection` — the bytes of the two sections, which may be empty;
* `AuthenticatorData.Concatenation`, `laidOut_iff_concatenation` — the whole as header, credential and extensions;
* `AuthenticatorData.parse_iff_concatenation` — reading takes exactly the concatenations, and has one way to fail.
-/

namespace WebAuthn

open Audited

/-! ### Credential blocks -/

namespace AttestedCredential

variable {attested : AttestedCredential} {bytes rest : Bytes}

/-- The first item of some bytes is an encoding within the default limits, and the rest is what follows it. -/
theorem parseItem_eq_ok {item : Cbor.Value} :
    parseItem bytes = .ok (item, rest) ↔
      bytes.length ≤ AuthenticatorData.maximumLength ∧
        ∃ front, bytes = front ++ rest ∧ Cbor.Admitted {} 8 item front := by
  refine Iff.trans ?_ (@Cbor.start_next_iff {} bytes item rest)
  unfold parseItem
  cases Cbor.Decoder.start {} bytes with
  | error e => simp [bind, Except.bind]
  | ok decoder =>
    rcases hn : decoder.next with ⟨result, after⟩
    cases result <;> simp [bind, Except.bind, pure, Except.pure, hn]

/-- The bytes are a credential block: they end with the encoding of the key. -/
def Block (attested : AttestedCredential) (bytes : Bytes) : Prop :=
  1 ≤ attested.credentialId.length ∧ attested.credentialId.length ≤ maximumIdLength ∧
    ∃ item key, Cbor.Admitted {} 8 item key ∧
      (Cose.Key.ofCbor item).outcome = .ok attested.publicKey ∧
      bytes = attested.aaguid.bytes ++ (Bytes.ofNat 2 attested.credentialId.length ++
        (attested.credentialId ++ key))

/-- What stands behind the id is the key and what follows it. -/
theorem drop_keyStart (attested : AttestedCredential) (keyed : Bytes) :
    (attested.aaguid.bytes ++ (Bytes.ofNat 2 attested.credentialId.length ++
      (attested.credentialId ++ keyed))).drop attested.keyStart = keyed := by
  have hfixed : (attested.aaguid.bytes ++ Bytes.ofNat 2 attested.credentialId.length).length = 18 := by
    rw [List.length_append, attested.aaguid.length_eq, Bytes.ofNat_length]
  rw [keyStart, ← List.drop_drop, ← List.append_assoc, List.drop_left' hfixed, List.drop_left]

/-- A block at the front of some bytes is a block with a rest; only the bytes from its key on are bounded. -/
theorem heads_iff_block :
    attested.Heads bytes rest ↔
      (bytes.drop attested.keyStart).length ≤ AuthenticatorData.maximumLength ∧
        ∃ block, attested.Block block ∧ bytes = block ++ rest := by
  constructor
  · intro h
    obtain ⟨hpos, hmax, keyed, item, rfl, hitem, hkey⟩ := h
    obtain ⟨hlong, key, rfl, ha⟩ := parseItem_eq_ok.1 hitem
    rw [drop_keyStart]
    exact ⟨hlong, _, ⟨hpos, hmax, item, key, ha, hkey, rfl⟩, by simp only [List.append_assoc]⟩
  · intro h
    obtain ⟨hlong, _, ⟨hpos, hmax, item, key, ha, hkey, rfl⟩, rfl⟩ := h
    simp only [List.append_assoc, drop_keyStart] at hlong ⊢
    exact ⟨hpos, hmax, key ++ rest, item, rfl, parseItem_eq_ok.2 ⟨hlong, key, rfl, ha⟩, hkey⟩

theorem Heads.iff_block (hlong : bytes.length ≤ AuthenticatorData.maximumLength) :
    attested.Heads bytes rest ↔ ∃ block, attested.Block block ∧ bytes = block ++ rest := by
  have hkeyed : (bytes.drop attested.keyStart).length ≤ AuthenticatorData.maximumLength := by
    rw [List.length_drop]
    exact Nat.le_trans (Nat.sub_le _ _) hlong
  exact heads_iff_block.trans (and_iff_right hkeyed)

end AttestedCredential

/-! ### Authenticator data -/

namespace AuthenticatorData

variable {data : AuthenticatorData} {bytes : Bytes}

/-- The bytes of the credential section: a block where the flag for it is set, else none. -/
def CredentialSection (flags : Flags) : Option AttestedCredential → Bytes → Prop
  | none, bytes => flags.bit 6 = false ∧ bytes = []
  | some attested, bytes => flags.bit 6 = true ∧ attested.Block bytes

/-- The bytes of the extension section: one map where the flag for it is set, else none. -/
def ExtensionsSection (flags : Flags) :
    Option (List (Cbor.Value × Cbor.Value)) → Bytes → Prop
  | none, bytes => flags.bit 7 = false ∧ bytes = []
  | some entries, bytes => flags.bit 7 = true ∧ Cbor.Admitted {} 8 (.map entries) bytes

/-- The bytes are the fields of the data, one after the other. -/
def Concatenation (data : AuthenticatorData) (bytes : Bytes) : Prop :=
  bytes.length ≤ maximumLength ∧ (data.flags.bit 4 = true → data.flags.bit 3 = true) ∧
    ∃ credential extensions,
      CredentialSection data.flags data.attested credential ∧
      ExtensionsSection data.flags data.extensions extensions ∧
      bytes = data.rpIdHash.bytes ++ ([data.flags.byte] ++
        (Bytes.ofNat 4 data.signCount.toNat ++ (credential ++ extensions)))

theorem attestedSection_iff {flags : Flags} {attested : Option AttestedCredential} {rest : Bytes}
    (hlong : bytes.length ≤ maximumLength) :
    AttestedSection flags attested bytes rest ↔
      ∃ credential, CredentialSection flags attested credential ∧ bytes = credential ++ rest := by
  cases attested with
  | none =>
    constructor
    · intro h
      obtain ⟨hf, rfl⟩ := h
      exact ⟨[], ⟨hf, rfl⟩, rfl⟩
    · intro h
      obtain ⟨_, ⟨hf, rfl⟩, rfl⟩ := h
      exact ⟨hf, rfl⟩
  | some attested =>
    simp only [AttestedSection, CredentialSection, AttestedCredential.Heads.iff_block hlong]
    constructor
    · intro h
      obtain ⟨hf, block, hb, hbytes⟩ := h
      exact ⟨block, ⟨hf, hb⟩, hbytes⟩
    · intro h
      obtain ⟨block, ⟨hf, hb⟩, hbytes⟩ := h
      exact ⟨hf, block, hb, hbytes⟩

theorem extensionSection_iff {flags : Flags}
    {extensions : Option (List (Cbor.Value × Cbor.Value))} (hlong : bytes.length ≤ maximumLength) :
    ExtensionSection flags extensions bytes ↔ ExtensionsSection flags extensions bytes := by
  cases extensions with
  | none => exact Iff.rfl
  | some entries =>
    refine and_congr_right fun _ => Cbor.decode_eq_ok_iff.trans ?_
    exact ⟨And.right, fun h => ⟨hlong, h⟩⟩

/-- The layout is the concatenation. -/
theorem laidOut_iff_concatenation : data.LaidOut bytes ↔ data.Concatenation bytes := by
  constructor
  · intro h
    obtain ⟨hlong, sections, ⟨hb, rest, ha, he⟩, rfl⟩ := h
    have hsections : sections.length ≤ maximumLength := by
      simp only [List.length_append] at hlong
      omega
    obtain ⟨credential, hc, rfl⟩ := (attestedSection_iff hsections).1 ha
    have hrest : rest.length ≤ maximumLength := by
      rw [List.length_append] at hsections
      omega
    exact ⟨hlong, hb, credential, rest, hc, (extensionSection_iff hrest).1 he, rfl⟩
  · intro h
    obtain ⟨hlong, hb, credential, extensions, hc, he, rfl⟩ := h
    have hsections : (credential ++ extensions).length ≤ maximumLength := by
      simp only [List.length_append] at hlong ⊢
      omega
    have hrest : extensions.length ≤ maximumLength := by
      rw [List.length_append] at hsections
      omega
    exact ⟨hlong, credential ++ extensions, ⟨hb, extensions,
      (attestedSection_iff hsections).2 ⟨credential, hc, rfl⟩, (extensionSection_iff hrest).2 he⟩, rfl⟩

/-- The sections are there exactly when their flags are set. -/
theorem Concatenation.present (h : data.Concatenation bytes) :
    data.attested.isSome = data.flags.bit 6 ∧ data.extensions.isSome = data.flags.bit 7 := by
  obtain ⟨_, _, credential, extensions, hc, he, _⟩ := h
  constructor
  · cases ha : data.attested with
    | none =>
      rw [ha] at hc
      exact hc.1.symm
    | some attested =>
      rw [ha] at hc
      exact hc.1.symm
  · cases hx : data.extensions with
    | none =>
      rw [hx] at he
      exact he.1.symm
    | some entries =>
      rw [hx] at he
      exact he.1.symm

/-- Bytes are read as authenticator data if they are the concatenation of its fields; its sections are there exactly
when their flags are set; and bytes that are the concatenation of no fields fail in one way. -/
theorem parse_iff_concatenation (bytes : Bytes) :
    (∀ data : AuthenticatorData,
      (parse bytes).outcome = .ok data ↔ data.Concatenation bytes) ∧
    (∀ data : AuthenticatorData, (parse bytes).outcome = .ok data →
      data.attested.isSome = data.flags.bit 6 ∧ data.extensions.isSome = data.flags.bit 7) ∧
    ((∀ data : AuthenticatorData, ¬ data.Concatenation bytes) →
      (parse bytes).outcome = .error .invalidAttestationObject) := by
  have hparse : ∀ data : AuthenticatorData,
      (parse bytes).outcome = .ok data ↔ data.Concatenation bytes := fun data =>
    parse_eq_ok.trans laidOut_iff_concatenation
  refine ⟨hparse, fun data h => ((hparse data).1 h).present, fun hnone => ?_⟩
  obtain ⟨data, hdata⟩ | hfailed := (failsOnlyWith_parse bytes).outcome_eq
  · exact absurd ((hparse data).1 hdata) (hnone data)
  · exact hfailed

/-- Data with a sign count and an empty extension map, and no credential. -/
theorem sample_extensions_read :
    ∃ data : AuthenticatorData,
      (parse (List.replicate 32 0 ++ [0x80, 0, 0, 0, 7, 0xa0])).outcome = .ok data ∧
        data.signCount = 7 ∧ data.attested.isSome = false ∧ data.extensions.isSome = true := by
  have hread : (parse (List.replicate 32 0 ++ [0x80, 0, 0, 0, 7, 0xa0])).outcome =
      .ok ⟨.zeros, ⟨0x80⟩, 7, none, some []⟩ := rfl
  obtain ⟨hattested, hextensions⟩ := (parse_iff_concatenation _).2.1 _ hread
  exact ⟨_, hread, rfl, hattested, hextensions⟩

end AuthenticatorData

end WebAuthn
