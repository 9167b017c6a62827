import Mathlib.Data.List.TakeWhile
import WebAuthn.Base64Url

/-!
# Base64url texts are read back

* `Utf8.encode_ofList_ascii` — a text of ASCII characters is its bytes;
* `Base64Url.octets_sextets`, `spareBits_sextets` — six-bit values hold the bytes that they were made of, and nothing else;
* `Base64Url.decode_encode` — the text of a byte string is read as this byte string.
-/

namespace WebAuthn

/-! ### ASCII texts -/

namespace Utf8

theorem encode_ofList (characters : List Char) :
    encode (String.ofList characters) = characters.flatMap String.utf8EncodeChar := by
  show (List.flatMap String.utf8EncodeChar characters).toByteArray.data.toList = _
  rw [List.data_toByteArray]

theorem utf8EncodeChar_ascii {b : UInt8} (h : b.toNat < 128) :
    String.utf8EncodeChar (Char.ofNat b.toNat) = [b] := by
  have hvalid : b.toNat.isValidChar := .inl (by omega)
  have hval : (Char.ofNat b.toNat).val.toNat = b.toNat := by
    rw [Char.ofNat, dif_pos hvalid]
    rfl
  have hle : (Char.ofNat b.toNat).val.toNat ≤ 127 := by omega
  unfold String.utf8EncodeChar
  simp only [if_pos hle]
  rw [hval, UInt8.ofNat_toNat]

theorem encode_ofList_ascii {bytes : Bytes} (h : ∀ b ∈ bytes, b.toNat < 128) :
    encode (String.ofList (bytes.map fun b => Char.ofNat b.toNat)) = bytes := by
  rw [encode_ofList]
  induction bytes with
  | nil => rfl
  | cons b rest ih =>
    obtain ⟨hb, hrest⟩ := List.forall_mem_cons.1 h
    rw [List.map_cons, List.flatMap_cons, utf8EncodeChar_ascii hb, ih hrest]
    rfl

end Utf8

namespace Base64Url

/-! ### Six-bit values -/

theorem symbol_lt {value : Nat} (h : value < 64) : (symbol value).toNat < 128 := by
  revert value
  decide

theorem sextets_lt (bytes : Bytes) : ∀ value ∈ sextets bytes, value < 64 := by
  induction bytes using sextets.induct with
  | case1 => simp [sextets]
  | case2 a =>
    have ha := a.toNat_lt
    simp only [sextets, List.forall_mem_cons]
    exact ⟨by omega, by omega, List.forall_mem_nil _⟩
  | case3 a b =>
    have ha := a.toNat_lt
    have hb := b.toNat_lt
    simp only [sextets, List.forall_mem_cons]
    exact ⟨by omega, by omega, by omega, List.forall_mem_nil _⟩
  | case4 a b c rest ih =>
    have ha := a.toNat_lt
    have hb := b.toNat_lt
    have hc := c.toNat_lt
    simp only [sextets, List.forall_mem_cons]
    exact ⟨by omega, by omega, by omega, by omega, ih⟩

/-- No text is one symbol past a group of four. -/
theorem length_sextets_mod (bytes : Bytes) : (sextets bytes).length % 4 ≠ 1 := by
  induction bytes using sextets.induct with
  | case1 => decide
  | case2 a => exact (by decide : 2 % 4 ≠ 1)
  | case3 a b => exact (by decide : 3 % 4 ≠ 1)
  | case4 a b c rest ih =>
    simp only [sextets, List.length_cons]
    omega

theorem ofNat_eq_of_mod {n : Nat} {b : UInt8} (h : n % 256 = b.toNat) : UInt8.ofNat n = b := by
  apply UInt8.toNat_inj.1
  rw [UInt8.toNat_ofNat']
  exact h

/-- The bytes are put together again. -/
theorem octets_sextets (bytes : Bytes) : octets (sextets bytes) = bytes := by
  induction bytes using sextets.induct with
  | case1 => rfl
  | case2 a =>
    have ha := a.toNat_lt
    have hfirst : UInt8.ofNat (a.toNat / 4 * 4 + a.toNat % 4 * 16 / 16) = a :=
      ofNat_eq_of_mod (by omega)
    rw [sextets, octets, hfirst]
  | case3 a b =>
    have ha := a.toNat_lt
    have hb := b.toNat_lt
    have hfirst : UInt8.ofNat (a.toNat / 4 * 4 + (a.toNat % 4 * 16 + b.toNat / 16) / 16) = a :=
      ofNat_eq_of_mod (by omega)
    have hsecond : UInt8.ofNat ((a.toNat % 4 * 16 + b.toNat / 16) % 16 * 16 + b.toNat % 16 * 4 / 4) = b :=
      ofNat_eq_of_mod (by omega)
    rw [sextets, octets, hfirst, hsecond]
  | case4 a b c rest ih =>
    have ha := a.toNat_lt
    have hb := b.toNat_lt
    have hc := c.toNat_lt
    have hfirst : UInt8.ofNat (a.toNat / 4 * 4 + (a.toNat % 4 * 16 + b.toNat / 16) / 16) = a :=
      ofNat_eq_of_mod (by omega)
    have hsecond : UInt8.ofNat ((a.toNat % 4 * 16 + b.toNat / 16) % 16 * 16 +
        (b.toNat % 16 * 4 + c.toNat / 64) / 4) = b :=
      ofNat_eq_of_mod (by omega)
    have hthird : UInt8.ofNat ((b.toNat % 16 * 4 + c.toNat / 64) % 4 * 64 + c.toNat % 64) = c :=
      ofNat_eq_of_mod (by omega)
    rw [sextets, octets, hfirst, hsecond, hthird, ih]

theorem spareBits_group (a b c d : Nat) (rest : List Nat) :
    spareBits (a :: b :: c :: d :: rest) = spareBits rest := by
  have hmod : (rest.length + 1 + 1 + 1 + 1) % 4 = rest.length % 4 := by omega
  unfold spareBits
  cases rest with
  | nil => simp
  | cons e rest =>
    simp only [List.length_cons] at hmod ⊢
    rw [hmod]
    rfl

/-- The last value has no bits of its own. -/
theorem spareBits_sextets (bytes : Bytes) : spareBits (sextets bytes) = 0 := by
  induction bytes using sextets.induct with
  | case1 => rfl
  | case2 a =>
    show a.toNat % 4 * 16 % 16 = 0
    omega
  | case3 a b =>
    show b.toNat % 16 * 4 % 4 = 0
    omega
  | case4 a b c rest ih => rw [sextets, spareBits_group, ih]

/-! ### Texts -/

theorem filterMap_value?_symbol {values : List Nat} (h : ∀ value ∈ values, value < 64) :
    (values.map symbol).filterMap value? = values := by
  induction values with
  | nil => rfl
  | cons value rest ih =>
    obtain ⟨hvalue, hrest⟩ := List.forall_mem_cons.1 h
    rw [List.map_cons, List.filterMap_cons_some (value?_symbol hvalue), ih hrest]

theorem encode_encode (bytes : Bytes) : Utf8.encode (encode bytes) = encodeBytes bytes := by
  refine Utf8.encode_ofList_ascii fun b hb => ?_
  obtain ⟨value, hvalue, rfl⟩ := List.mem_map.1 hb
  exact symbol_lt (sextets_lt bytes value hvalue)

theorem isSome_value?_of_mem_encodeBytes {bytes : Bytes} :
    ∀ b ∈ encodeBytes bytes, (value? b).isSome = true := by
  intro b hb
  obtain ⟨value, hvalue, rfl⟩ := List.mem_map.1 hb
  rw [value?_symbol (sextets_lt bytes value hvalue)]
  rfl

theorem length_encodeBytes_mod (bytes : Bytes) : (encodeBytes bytes).length % 4 ≠ 1 := by
  rw [encodeBytes, List.length_map]
  exact length_sextets_mod bytes

theorem decodeSymbols_encodeBytes (bytes : Bytes) : decodeSymbols (encodeBytes bytes) = .ok bytes := by
  have hvalues : (encodeBytes bytes).filterMap value? = sextets bytes :=
    filterMap_value?_symbol (sextets_lt bytes)
  rw [decodeSymbols, hvalues, if_pos (spareBits_sextets bytes), octets_sextets]

theorem decodeBytes_encodeBytes (bytes : Bytes) : decodeBytes (encodeBytes bytes) = .ok bytes := by
  have hrest : (encodeBytes bytes).dropWhile (fun b => (value? b).isSome) = [] :=
    List.dropWhile_eq_nil_iff.2 isSome_value?_of_mem_encodeBytes
  have hall : (encodeBytes bytes).takeWhile (fun b => (value? b).isSome) = encodeBytes bytes :=
    List.takeWhile_eq_self_iff.2 isSome_value?_of_mem_encodeBytes
  unfold decodeBytes
  rw [if_neg (length_encodeBytes_mod bytes)]
  simp only [hrest, hall, decodeSymbols_encodeBytes]

/-- The text of a byte string is read as this byte string. -/
theorem decode_encode (bytes : Bytes) : decode (encode bytes) = .ok bytes := by
  rw [decode, encode_encode, decodeBytes_encodeBytes]

end Base64Url

end WebAuthn
