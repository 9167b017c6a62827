import WebAuthn.Proofs.Layout.BuiltObject
import WebAuthn.Proofs.Layout.ReadKey

/-!
# Where authenticator data and its sections end

No length is written in front of a credential block, of the extensions, or of the whole. Each of them ends where its
last data item does, and no encoding of a data item is the front of another one; so where they end is told by their own
bytes, whatever follows.

* `PrefixFree`, `PrefixFree.append_inj` — no byte string of a language is the front of another one, so that bytes that
  begin in the language can be cut in one way only;
* `Cbor.prefixFree_admitted`, `AttestedCredential.prefixFree_block`, `AuthenticatorData.prefixFree_concatenation` — the
  encodings of data items, the credential blocks and authenticator data, each from the ones before;
* `AttestedCredential.block_delimits_itself` — a block that is read with more bytes behind it is read from its own bytes,
  and from these with others behind them;
* `AuthenticatorData.accepted_prefix_free` — what is cut off accepted data or added to it makes it refused.
-/

namespace WebAuthn

open Audited

/-! ### Languages without prefixes -/

/-- No byte string of the language is the front of another one. -/
def PrefixFree (L : Bytes → Prop) : Prop :=
  ∀ a b, L a → L b → a <+: b → a = b

namespace PrefixFree

variable {L M : Bytes → Prop} {a b front back : Bytes}

theorem mono (h : PrefixFree L) (hML : ∀ bytes, M bytes → L bytes) : PrefixFree M :=
  fun a b ha hb => h a b (hML a ha) (hML b hb)

/-- What follows does not change where a byte string of the language ends. -/
theorem append_inj (h : PrefixFree L) (ha : L a) (hb : L b) (he : a ++ front = b ++ back) :
    a = b ∧ front = back := by
  have hsame : a = b := by
    have hfront : a <+: b ++ back := ⟨front, he⟩
    obtain hab | hba := List.prefix_or_prefix_of_prefix hfront (List.prefix_append b back)
    · exact h a b ha hb hab
    · exact (h b a hb ha hba).symm
  subst hsame
  exact ⟨rfl, List.append_cancel_left he⟩

/-- A part that is there by a flag: a byte string of the language, or no bytes. -/
theorem optional (h : PrefixFree L) (present : Bool) :
    PrefixFree fun bytes => present = false ∧ bytes = [] ∨ present = true ∧ L bytes := by
  intro a b ha hb hfront
  obtain ⟨rfl, rfl⟩ | ⟨rfl, ha⟩ := ha
  · obtain ⟨_, rfl⟩ | ⟨hpresent, _⟩ := hb
    · rfl
    · cases hpresent
  · obtain ⟨hpresent, _⟩ | ⟨_, hb⟩ := hb
    · cases hpresent
    · exact h a b ha hb hfront

end PrefixFree

/-- No encoding within the limits is the front of another one. -/
theorem Cbor.prefixFree_admitted (limits : Limits) (levels : Nat) :
    PrefixFree fun bytes => ∃ value, Admitted limits levels value bytes := by
  intro a b ha hb hfront
  obtain ⟨value, ha⟩ := ha
  obtain ⟨other, hb⟩ := hb
  obtain ⟨rest, he⟩ := hfront
  rw [← List.append_nil b] at he
  exact ((recognizes_item limits levels).unique ha hb he).2

/-! ### Credential blocks -/

namespace AttestedCredential

variable {attested : AttestedCredential} {bytes block rest : Bytes} {count : Nat}

/-- The lengths of ids that are read are told by two bytes. -/
theorem idLength_inj {m n : Nat} (hm : m ≤ maximumIdLength) (hn : n ≤ maximumIdLength)
    (h : Bytes.ofNat 2 m = Bytes.ofNat 2 n) : m = n := by
  have hbound : maximumIdLength < Nat.pow 256 2 := by decide
  have hread := congrArg Bytes.toNat h
  rwa [Bytes.toNat_ofNat_of_lt (Nat.lt_of_le_of_lt hm hbound),
    Bytes.toNat_ofNat_of_lt (Nat.lt_of_le_of_lt hn hbound)] at hread

/-- No credential block is the front of another one: the fixed part tells how long the id is, and the key ends where its
encoding does. -/
theorem prefixFree_block : PrefixFree fun bytes => ∃ attested, Block attested bytes := by
  intro a b ha hb hfront
  obtain ⟨x, _, hx, item, key, hkey, _, rfl⟩ := ha
  obtain ⟨y, _, hy, other, otherKey, hother, _, rfl⟩ := hb
  obtain ⟨rest, he⟩ := hfront
  simp only [List.append_assoc] at he
  obtain ⟨haaguid, he⟩ := List.append_inj he (x.aaguid.length_eq.trans y.aaguid.length_eq.symm)
  obtain ⟨hlength, he⟩ := List.append_inj he ((Bytes.ofNat_length _ _).trans (Bytes.ofNat_length _ _).symm)
  obtain ⟨hid, he⟩ := List.append_inj he (idLength_inj hx hy hlength)
  have hkeys : key = otherKey :=
    Cbor.prefixFree_admitted {} 8 key otherKey ⟨item, hkey⟩ ⟨other, hother⟩ ⟨rest, he⟩
  rw [haaguid, hid, hkeys]

/-- What is read for the first data item of some bytes is its encoding. -/
theorem itemLength_append {item : Cbor.Value} {key : Bytes} (h : Cbor.Admitted {} 8 item key)
    (hlong : (key ++ rest).length ≤ AuthenticatorData.maximumLength) :
    itemLength (key ++ rest) = key.length := by
  have hread : Cbor.item {} 8 ⟨key ++ rest, 0⟩ = (.ok item, ⟨rest, 0 + key.length⟩) :=
    (Cbor.recognizes_item {} 8 _ _ _).2 ⟨key, h, rfl, rfl⟩
  have hstart : Cbor.Decoder.start {} (key ++ rest) = .ok ⟨{}, ⟨key ++ rest, 0⟩⟩ :=
    Cbor.start_eq_ok_iff.2 ⟨hlong, rfl⟩
  rw [itemLength, hstart]
  show (Cbor.item {} 8 ⟨key ++ rest, 0⟩).2.position = key.length
  rw [hread]
  exact Nat.zero_add _

/-- The bytes before the key of a block and those of the key are the whole block. -/
theorem Block.length_eq (h : attested.Block block)
    (hlong : ((block ++ rest).drop attested.keyStart).length ≤ AuthenticatorData.maximumLength) :
    attested.keyStart + itemLength ((block ++ rest).drop attested.keyStart) = block.length := by
  obtain ⟨_, _, item, key, ha, _, rfl⟩ := h
  simp only [List.append_assoc, drop_keyStart] at hlong ⊢
  rw [itemLength_append ha hlong]
  simp only [List.length_append, attested.aaguid.length_eq, Bytes.ofNat_length, keyStart]
  omega

/-- What is read as a block, and how many bytes it takes. -/
theorem parseCounted_eq_ok :
    (parseCounted bytes).outcome = .ok (attested, count) ↔
      (bytes.drop attested.keyStart).length ≤ AuthenticatorData.maximumLength ∧
        ∃ block, attested.Block block ∧ block <+: bytes ∧ count = block.length := by
  unfold parseCounted
  rw [outcome_bind_ok]
  constructor
  · intro h
    obtain ⟨⟨found, rest⟩, hparse, hcount⟩ := h
    cases hcount
    obtain ⟨hlong, block, hblock, rfl⟩ := heads_iff_block.1 (parse_eq_ok.1 hparse)
    exact ⟨hlong, block, hblock, List.prefix_append block rest, hblock.length_eq hlong⟩
  · intro h
    obtain ⟨hlong, block, hblock, ⟨rest, rfl⟩, rfl⟩ := h
    refine ⟨(attested, rest), parse_eq_ok.2 (heads_iff_block.2 ⟨hlong, block, hblock, rfl⟩), ?_⟩
    rw [← hblock.length_eq hlong]
    rfl

/-- The bytes of a block from its key on are read as this key. -/
theorem Block.decode_key (h : attested.Block block)
    (hlong : (block.drop attested.keyStart).length ≤ AuthenticatorData.maximumLength) :
    (Cose.Key.decode (block.drop attested.keyStart)).outcome = .ok attested.publicKey := by
  obtain ⟨_, _, item, key, ha, hkey, rfl⟩ := h
  rw [drop_keyStart] at hlong ⊢
  exact Cose.Key.outcome_decode.2 ⟨item, Cbor.decode_eq_ok_iff.2 ⟨hlong, ha⟩, hkey⟩

/-- A block that is read takes some of the bytes, and what follows it is the rest of them. Those bytes alone are read as
the same block, and so they are with any others behind them, as long as these do not make the part from the key on too
long to be read. The part of the block from the key on is the whole of an input that is read as its key. -/
theorem block_delimits_itself (h : (parseCounted bytes).outcome = .ok (attested, count)) :
    count ≤ bytes.length ∧
    (parse bytes).outcome = .ok (attested, bytes.drop count) ∧
    (parseCounted (bytes.take count)).outcome = .ok (attested, count) ∧
    (∀ suffix : Bytes,
      (parseCounted (bytes.take count ++ suffix)).outcome = .ok (attested, count) ↔
        ((bytes.take count ++ suffix).drop (18 + attested.credentialId.length)).length ≤ 65536) ∧
    (Cose.Key.decode (bytes.extract (18 + attested.credentialId.length) count)).outcome =
      .ok attested.publicKey := by
  obtain ⟨hlong, block, hblock, ⟨rest, rfl⟩, rfl⟩ := parseCounted_eq_ok.1 h
  have hkeyed : (block.drop attested.keyStart).length ≤ AuthenticatorData.maximumLength := by
    simp only [List.length_drop, List.length_append] at hlong ⊢
    omega
  have hextract : (block ++ rest).extract attested.keyStart block.length = block.drop attested.keyStart := by
    rw [List.extract_eq_take_drop, ← List.drop_take, List.take_left]
  rw [List.take_left, List.drop_left]
  refine ⟨?_, ?_, ?_, fun suffix => ?_, ?_⟩
  · rw [List.length_append]
    exact Nat.le_add_right _ _
  · exact parse_eq_ok.2 (heads_iff_block.2 ⟨hlong, block, hblock, rfl⟩)
  · exact parseCounted_eq_ok.2 ⟨hkeyed, block, hblock, List.prefix_refl block, rfl⟩
  · refine parseCounted_eq_ok.trans ⟨And.left, fun hshort => ?_⟩
    exact ⟨hshort, block, hblock, List.prefix_append block suffix, rfl⟩
  · show (Cose.Key.decode ((block ++ rest).extract attested.keyStart block.length)).outcome = _
    rw [hextract]
    exact hblock.decode_key hkeyed

/-- A block with an RSA key. -/
def sampleBlock : AttestedCredential :=
  ⟨.zeros, [1, 2, 3], Cose.Key.sampleKey .ps256⟩

set_option maxRecDepth 100000 in
/-- It is read where extensions follow it, alone, and with another item behind it. -/
theorem sample_block_read :
    (parseCounted (sampleBlock.encode ++ [0xa0])).outcome = .ok (sampleBlock, 293) ∧
      (parseCounted sampleBlock.encode).outcome = .ok (sampleBlock, 293) ∧
      (parseCounted (sampleBlock.encode ++ [0x82, 0x01, 0xf6])).outcome = .ok (sampleBlock, 293) := by
  have hread : (parseCounted (sampleBlock.encode ++ [0xa0])).outcome = .ok (sampleBlock, 293) :=
    toOption_outcome_iff.1 (by decide +kernel)
  have htake : (sampleBlock.encode ++ [0xa0]).take 293 = sampleBlock.encode := by decide +kernel
  have hlength : sampleBlock.encode.length = 293 := by decide +kernel
  obtain ⟨_, _, halone, hfollowed, _⟩ := block_delimits_itself hread
  rw [htake] at halone hfollowed
  refine ⟨hread, halone, (hfollowed _).2 ?_⟩
  rw [List.length_drop, List.length_append, hlength]
  decide

end AttestedCredential

/-! ### Authenticator data -/

namespace AuthenticatorData

variable {data : AuthenticatorData} {bytes : Bytes}

theorem prefixFree_credentialSection (flags : Flags) :
    PrefixFree fun bytes => ∃ attested, CredentialSection flags attested bytes := by
  refine (AttestedCredential.prefixFree_block.optional (flags.bit 6)).mono fun _ h => ?_
  obtain ⟨attested, h⟩ := h
  cases attested with
  | none => exact .inl h
  | some attested => exact .inr ⟨h.1, attested, h.2⟩

theorem prefixFree_extensionsSection (flags : Flags) :
    PrefixFree fun bytes => ∃ extensions, ExtensionsSection flags extensions bytes := by
  refine ((Cbor.prefixFree_admitted {} 8).optional (flags.bit 7)).mono fun _ h => ?_
  obtain ⟨extensions, h⟩ := h
  cases extensions with
  | none => exact .inl h
  | some entries => exact .inr ⟨h.1, .map entries, h.2⟩

/-- No authenticator data is the front of other authenticator data: the header tells which sections there are, and each
of them ends by itself. -/
theorem prefixFree_concatenation : PrefixFree fun bytes => ∃ data, Concatenation data bytes := by
  intro a b ha hb hfront
  obtain ⟨x, _, _, credential, extensions, hc, he, rfl⟩ := ha
  obtain ⟨y, _, _, otherCredential, otherExtensions, hc', he', rfl⟩ := hb
  obtain ⟨rest, hsame⟩ := hfront
  simp only [List.append_assoc] at hsame
  obtain ⟨hhash, hsame⟩ := List.append_inj hsame (x.rpIdHash.length_eq.trans y.rpIdHash.length_eq.symm)
  obtain ⟨hflags, hsame⟩ := List.append_inj hsame rfl
  obtain ⟨hcount, hsame⟩ :=
    List.append_inj hsame ((Bytes.ofNat_length _ _).trans (Bytes.ofNat_length _ _).symm)
  have hflag : x.flags = y.flags := congrArg Flags.mk (List.cons.inj hflags).1
  rw [hflag] at hc he
  obtain ⟨hcredential, hsame⟩ :=
    (prefixFree_credentialSection y.flags).append_inj ⟨_, hc⟩ ⟨_, hc'⟩ hsame
  have hextensions : extensions = otherExtensions :=
    prefixFree_extensionsSection y.flags _ _ ⟨_, he⟩ ⟨_, he'⟩ ⟨rest, hsame⟩
  rw [hhash, hflags, hcount, hcredential, hextensions]

theorem prefixFree_parse : PrefixFree fun bytes => ∃ data, (parse bytes).outcome = .ok data :=
  prefixFree_concatenation.mono fun _ h =>
    h.imp fun _ hdata => laidOut_iff_concatenation.1 (parse_eq_ok.1 hdata)

theorem refused_of_not_accepted (h : ∀ data, (parse bytes).outcome ≠ .ok data) :
    (parse bytes).outcome = .error .invalidAttestationObject := by
  obtain ⟨data, hdata⟩ | hfails := (failsOnlyWith_parse bytes).outcome_eq
  · exact absurd hdata (h data)
  · exact hfails

/-- What is left of accepted authenticator data when bytes are cut off its end is refused, and so is what it becomes
when bytes are added; so a message that begins with accepted authenticator data is such data and a digest in one way
only. -/
theorem accepted_prefix_free (h : (parse bytes).outcome = .ok data) :
    (∀ front : Bytes, front <+: bytes → front ≠ bytes →
      (parse front).outcome = .error .invalidAttestationObject) ∧
    (∀ longer : Bytes, bytes <+: longer → longer ≠ bytes →
      (parse longer).outcome = .error .invalidAttestationObject) ∧
    ∀ (other digest otherDigest : Bytes) (otherData : AuthenticatorData),
      (parse other).outcome = .ok otherData → bytes ++ digest = other ++ otherDigest →
        other = bytes ∧ otherDigest = digest := by
  refine ⟨fun front hfront hne => ?_, fun longer hlonger hne => ?_, ?_⟩
  · refine refused_of_not_accepted fun found hfound => hne ?_
    exact prefixFree_parse front bytes ⟨found, hfound⟩ ⟨data, h⟩ hfront
  · refine refused_of_not_accepted fun found hfound => hne ?_
    exact (prefixFree_parse bytes longer ⟨data, h⟩ ⟨found, hfound⟩ hlonger).symm
  · intro other digest otherDigest otherData hother he
    obtain ⟨hsame, hdigest⟩ := prefixFree_parse.append_inj ⟨data, h⟩ ⟨otherData, hother⟩ he
    exact ⟨hsame.symm, hdigest.symm⟩

open AttestationObject (sampleDraft) in
/-- Data with a credential and extensions is accepted. It is refused if it is cut where the key of the credential ends,
and if a byte is added. -/
theorem sample_cut_refused :
    (parse sampleDraft.encode).outcome = .ok sampleDraft.written ∧
      (parse (sampleDraft.encode.take (37 + sampleDraft.attestedBytes.length))).outcome =
        .error .invalidAttestationObject ∧
      (parse (sampleDraft.encode ++ [0xa0])).outcome = .error .invalidAttestationObject := by
  have hlong : sampleDraft.encode.length ≤ maximumLength :=
    Nat.le_trans (AttestationObject.length_le_length_encode _ _ _) AttestationObject.length_sample_le
  have haccepted : (parse sampleDraft.encode).outcome = .ok sampleDraft.written :=
    parse_eq_ok.2 (laidOut_iff_concatenation.2 (AttestationObject.sampleDraft_wellFormed.concatenation hlong))
  have hextensions : sampleDraft.extensionBytes.length = 14 := by decide
  have hlength := sampleDraft.length_encode
  obtain ⟨hcut, hadded, _⟩ := accepted_prefix_free haccepted
  refine ⟨haccepted, hcut _ (List.take_prefix _ _) fun hsame => ?_, hadded _ (List.prefix_append _ _) ?_⟩
  · have htake := congrArg List.length hsame
    rw [List.length_take] at htake
    omega
  · exact fun hsame => List.cons_ne_nil _ _ (List.append_right_eq_self.1 hsame)

end AuthenticatorData

end WebAuthn
