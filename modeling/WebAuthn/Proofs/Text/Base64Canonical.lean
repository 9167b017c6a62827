import WebAuthn.Proofs.Text.Base64Url

/-!
# One base64url text for each byte string, up to padding

Reading a text back loses nothing: the symbols that are accepted are the ones that would be written, because a symbol
has one value, bits that fill no byte have to be zero, and padding completes the last group of four or is left out.

* `Base64Url.padding`, `missing` — a run of `=`, and how many of them complete the last group of a text;
* `Base64Url.sextets_octets` — six-bit values without spare bits are those of their bytes;
* `Base64Url.decodeSymbols_eq_ok`, `decodeBytes_eq_ok`, `decode_eq_ok` — what is accepted, for runs of symbols, for bytes,
  and for texts;
* `Base64Url.decode_canonical` — the same with what it rules out: two texts of one byte string that differ in more than
  padding, symbols of the standard alphabet, and spare bits.
-/

namespace WebAuthn.Base64Url

/-! ### Texts with padding -/

/-- A run of `=`. -/
def padding (count : Nat) : String :=
  String.ofList (List.replicate count '=')

/-- The number of `=` that complete the last group of four. -/
def missing (text : String) : Nat :=
  (4 - text.length % 4) % 4

/-- The text of six-bit values, whether they make up bytes or not. -/
def ofValues (values : List Nat) : String :=
  String.ofList ((values.map symbol).map fun b => Char.ofNat b.toNat)

theorem ofValues_sextets (bytes : Bytes) : ofValues (sextets bytes) = encode bytes := rfl

theorem length_ofValues (values : List Nat) : (ofValues values).length = values.length := by
  rw [ofValues, String.length_ofList, List.length_map, List.length_map]

theorem encode_ofValues_padding {values : List Nat} (h : ∀ value ∈ values, value < 64) (count : Nat) :
    Utf8.encode (ofValues values ++ padding count) =
      values.map symbol ++ List.replicate count pad := by
  have hpad : List.replicate count '=' =
      (List.replicate count pad).map fun b => Char.ofNat b.toNat := by
    rw [List.map_replicate]
    rfl
  rw [ofValues, padding, hpad, ← String.ofList_append, ← List.map_append]
  refine Utf8.encode_ofList_ascii fun b hb => ?_
  obtain hb | hb := List.mem_append.1 hb
  · obtain ⟨value, hvalue, rfl⟩ := List.mem_map.1 hb
    exact symbol_lt (h value hvalue)
  · rw [List.eq_of_mem_replicate hb]
    decide

/-! ### Symbols and values -/

set_option maxRecDepth 4000 in
/-- A symbol has one value, which is written as this symbol. -/
theorem symbol_of_value? {b : UInt8} {value : Nat} (h : value? b = some value) :
    value < 64 ∧ symbol value = b := by
  have hall : ∀ n < 256, ∀ found ∈ value? (UInt8.ofNat n),
      found < 64 ∧ symbol found = UInt8.ofNat n := by decide
  have hb := hall b.toNat b.toNat_lt value
  rw [UInt8.ofNat_toNat] at hb
  exact hb h

theorem filterMap_value?_lt (symbols : Bytes) : ∀ value ∈ symbols.filterMap value?, value < 64 := by
  intro value hvalue
  obtain ⟨b, _, hb⟩ := List.mem_filterMap.1 hvalue
  exact (symbol_of_value? hb).1

theorem map_symbol_filterMap_value? {symbols : Bytes} (h : ∀ b ∈ symbols, (value? b).isSome = true) :
    (symbols.filterMap value?).map symbol = symbols := by
  induction symbols with
  | nil => rfl
  | cons b rest ih =>
    obtain ⟨hb, hrest⟩ := List.forall_mem_cons.1 h
    obtain ⟨value, hvalue⟩ := Option.isSome_iff_exists.1 hb
    rw [List.filterMap_cons_some hvalue, List.map_cons, ih hrest, (symbol_of_value? hvalue).2]

theorem toNat_octet {n : Nat} (h : n < 256) : (UInt8.ofNat n).toNat = n :=
  UInt8.toNat_ofNat_of_lt' h

/-- Six-bit values that fill bytes and have no bits beyond them are the ones of these bytes. -/
theorem sextets_octets {values : List Nat} (h : ∀ value ∈ values, value < 64)
    (hlength : values.length % 4 ≠ 1) (hspare : spareBits values = 0) :
    sextets (octets values) = values := by
  -- by the groups that are taken, of which only the last one can have spare bits
  induction values using octets.induct with
  | case1 a b c d rest ih =>
    simp only [List.forall_mem_cons] at h
    obtain ⟨ha, hb, hc, hd, hrest⟩ := h
    rw [spareBits_group] at hspare
    simp only [List.length_cons] at hlength
    rw [octets, sextets, toNat_octet (by omega), toNat_octet (by omega), toNat_octet (by omega),
      ih hrest (by omega) hspare]
    have hfirst : (a * 4 + b / 16) / 4 = a := by omega
    have hsecond : (a * 4 + b / 16) % 4 * 16 + (b % 16 * 16 + c / 4) / 16 = b := by omega
    have hthird : (b % 16 * 16 + c / 4) % 16 * 4 + (c % 4 * 64 + d) / 64 = c := by omega
    have hfourth : (c % 4 * 64 + d) % 64 = d := by omega
    rw [hfirst, hsecond, hthird, hfourth]
  | case2 a b c =>
    simp only [List.forall_mem_cons] at h
    obtain ⟨ha, hb, hc, _⟩ := h
    have hspare : c % 4 = 0 := hspare
    rw [octets, sextets, toNat_octet (by omega), toNat_octet (by omega)]
    have hfirst : (a * 4 + b / 16) / 4 = a := by omega
    have hsecond : (a * 4 + b / 16) % 4 * 16 + (b % 16 * 16 + c / 4) / 16 = b := by omega
    have hthird : (b % 16 * 16 + c / 4) % 16 * 4 = c := by omega
    rw [hfirst, hsecond, hthird]
  | case3 a b =>
    simp only [List.forall_mem_cons] at h
    obtain ⟨ha, hb, _⟩ := h
    have hspare : b % 16 = 0 := hspare
    rw [octets, sextets, toNat_octet (by omega)]
    have hfirst : (a * 4 + b / 16) / 4 = a := by omega
    have hsecond : (a * 4 + b / 16) % 4 * 16 = b := by omega
    rw [hfirst, hsecond]
  | case4 values hfour hthree htwo =>
    rcases values with _ | ⟨a, _ | ⟨b, _ | ⟨c, _ | ⟨d, rest⟩⟩⟩⟩
    · rfl
    · exact absurd rfl hlength
    · exact absurd rfl (htwo a b)
    · exact absurd rfl (hthree a b c)
    · exact absurd rfl (hfour a b c d rest)

/-! ### What is accepted -/

variable {bytes : Bytes}

theorem decodeSymbols_eq_ok {symbols : Bytes} (h : ∀ b ∈ symbols, (value? b).isSome = true)
    (hlength : symbols.length % 4 ≠ 1) :
    decodeSymbols symbols = .ok bytes ↔ symbols = encodeBytes bytes := by
  constructor
  · intro hread
    have hvalues := map_symbol_filterMap_value? h
    have hcount : (symbols.filterMap value?).length = symbols.length :=
      (List.length_map symbol).symm.trans (congrArg List.length hvalues)
    rw [decodeSymbols] at hread
    split at hread
    · next hspare =>
      obtain rfl := Except.ok.inj hread
      rw [encodeBytes, sextets_octets (filterMap_value?_lt symbols) (by rwa [hcount]) hspare, hvalues]
    · cases hread
  · rintro rfl
    exact decodeSymbols_encodeBytes bytes

theorem padsGroup_iff {count : Nat} {rest : Bytes} :
    padsGroup count rest = true ↔
      rest = List.replicate rest.length pad ∧ 2 ≤ count % 4 ∧ count % 4 + rest.length ≤ 4 := by
  simp [padsGroup, List.eq_replicate_iff, and_assoc]

/-- Padding that completes the last group of four, or less of it, is passed over. -/
theorem decodeBytes_padded {symbols : Bytes} (h : ∀ b ∈ symbols, (value? b).isSome = true) {count : Nat}
    (htwo : 2 ≤ symbols.length % 4) (hfour : symbols.length % 4 + (count + 1) ≤ 4) :
    decodeBytes (symbols ++ List.replicate (count + 1) pad) = decodeSymbols symbols := by
  rw [List.replicate_succ]
  have hrest : (symbols ++ pad :: List.replicate count pad).dropWhile (fun b => (value? b).isSome) =
      pad :: List.replicate count pad := List.dropWhile_append_of_pos h
  have hall : (symbols ++ pad :: List.replicate count pad).takeWhile (fun b => (value? b).isSome) =
      symbols := (List.takeWhile_append_of_pos h).trans (List.append_nil _)
  have hpads : padsGroup symbols.length (pad :: List.replicate count pad) = true := by
    rw [padsGroup_iff, ← List.replicate_succ, List.length_replicate]
    exact ⟨rfl, htwo, hfour⟩
  have hlength : (symbols ++ pad :: List.replicate count pad).length % 4 ≠ 1 := by
    rw [List.length_append, List.length_cons, List.length_replicate]
    omega
  unfold decodeBytes
  rw [if_neg hlength]
  simp only [hrest, hall, if_pos hpads]

/-- What is read is the symbols of the byte string, with padding that completes their last group or with less. -/
theorem decodeBytes_eq_ok {text : Bytes} :
    decodeBytes text = .ok bytes ↔
      ∃ count, count ≤ (4 - (encodeBytes bytes).length % 4) % 4 ∧
        text = encodeBytes bytes ++ List.replicate count pad := by
  have hlength := length_encodeBytes_mod bytes
  constructor
  · intro hread
    have hsplit := List.takeWhile_append_dropWhile (p := fun b => (value? b).isSome) (l := text)
    have hsymbols : ∀ b ∈ text.takeWhile fun b => (value? b).isSome, (value? b).isSome = true :=
      fun b hb => List.mem_takeWhile_imp (p := fun b => (value? b).isSome) hb
    simp only [decodeBytes] at hread
    split at hread
    · split at hread
      · cases hread
      · cases hread
    next hlong =>
    split at hread
    · next hrest =>
      rw [hrest, List.append_nil] at hsplit
      rw [decodeSymbols_eq_ok hsymbols (by rwa [hsplit]), hsplit] at hread
      exact ⟨0, Nat.zero_le _, by rw [hread]; exact (List.append_nil _).symm⟩
    · next b rest hrest =>
      split at hread
      · next hpads =>
        obtain ⟨hpad, htwo, hfour⟩ := padsGroup_iff.1 hpads
        rw [decodeSymbols_eq_ok hsymbols (by omega)] at hread
        rw [hread] at htwo hfour
        rw [hrest, hread, hpad] at hsplit
        rw [List.length_cons] at hfour hsplit
        exact ⟨rest.length + 1, by omega, hsplit.symm⟩
      · cases hread
  · rintro ⟨count, hcount, rfl⟩
    cases count with
    | zero => rw [List.replicate_zero, List.append_nil, decodeBytes_encodeBytes]
    | succ count =>
      rw [decodeBytes_padded isSome_value?_of_mem_encodeBytes (by omega) (by omega),
        decodeSymbols_encodeBytes]

theorem encode_encode_padding (bytes : Bytes) (count : Nat) :
    Utf8.encode (encode bytes ++ padding count) = encodeBytes bytes ++ List.replicate count pad :=
  encode_ofValues_padding (sextets_lt bytes) count

/-- The texts of a byte string are the written one with padding that completes its last group or with less. -/
theorem decode_eq_ok {text : String} :
    decode text = .ok bytes ↔
      ∃ count, count ≤ missing (encode bytes) ∧ text = encode bytes ++ padding count := by
  have hmissing : missing (encode bytes) = (4 - (encodeBytes bytes).length % 4) % 4 := by
    rw [missing, ← ofValues_sextets, length_ofValues, encodeBytes, List.length_map]
  rw [decode, decodeBytes_eq_ok, hmissing]
  constructor
  · rintro ⟨count, hcount, htext⟩
    rw [← encode_encode_padding] at htext
    exact ⟨count, hcount, Utf8.encode_injective htext⟩
  · rintro ⟨count, hcount, rfl⟩
    exact ⟨count, hcount, encode_encode_padding bytes count⟩

/-! ### What is not accepted -/

/-- The characters that are written are neither padding nor the symbols that only the standard alphabet has. -/
theorem ne_of_mem_encode {c : Char} (h : c ∈ (encode bytes).toList) : c ≠ '=' ∧ c ≠ '+' ∧ c ≠ '/' := by
  have hall : ∀ value < 64, Char.ofNat (symbol value).toNat ≠ '=' ∧
      Char.ofNat (symbol value).toNat ≠ '+' ∧ Char.ofNat (symbol value).toNat ≠ '/' := by decide
  rw [← ofValues_sextets, ofValues, String.toList_ofList, List.map_map] at h
  obtain ⟨value, hvalue, rfl⟩ := List.mem_map.1 h
  exact hall value (sextets_lt bytes value hvalue)

theorem decode_eq_error {text : String} (h : ∀ bytes, decode text ≠ .ok bytes) :
    ∃ error, decode text = .error error := by
  cases hread : decode text with
  | ok bytes => exact absurd hread (h bytes)
  | error error => exact ⟨error, rfl⟩

theorem refuses_standard {text : String} {c : Char} (hmem : c ∈ text.toList) (hc : c = '+' ∨ c = '/') :
    ∃ error, decode text = .error error := by
  refine decode_eq_error fun bytes hread => ?_
  obtain ⟨count, _, rfl⟩ := decode_eq_ok.1 hread
  rw [String.toList_append, List.mem_append] at hmem
  obtain hmem | hmem := hmem
  · obtain ⟨_, hplus, hslash⟩ := ne_of_mem_encode hmem
    exact hc.elim hplus hslash
  · rw [padding, String.toList_ofList] at hmem
    obtain rfl := List.eq_of_mem_replicate hmem
    revert hc
    decide

/-- Bits that fill no byte have to be zero. -/
theorem refuses_spareBits {values : List Nat} (h : ∀ value ∈ values, value < 64)
    (hspare : spareBits values ≠ 0) (count : Nat) :
    ∃ error, decode (ofValues values ++ padding count) = .error error := by
  refine decode_eq_error fun bytes hread => ?_
  obtain ⟨_, _, htext⟩ := decodeBytes_eq_ok.1 hread
  rw [encode_ofValues_padding h] at htext
  have hvalues := congrArg (List.filterMap value?) htext
  rw [List.filterMap_append, List.filterMap_append, encodeBytes, filterMap_value?_symbol h,
    filterMap_value?_symbol (sextets_lt bytes), List.filterMap_replicate_of_none value?_pad,
    List.filterMap_replicate_of_none value?_pad, List.append_nil, List.append_nil] at hvalues
  rw [hvalues] at hspare
  exact hspare (spareBits_sextets bytes)

theorem padding_append (count more : Nat) : padding count ++ padding more = padding (count + more) := by
  rw [padding, padding, padding, ← String.ofList_append, List.replicate_append_replicate]

/-- Texts of one byte string are the same but for padding behind one of them. -/
theorem same_up_to_padding {text other : String} (h : decode text = .ok bytes)
    (hother : decode other = .ok bytes) :
    ∃ more, other = text ++ padding more ∨ text = other ++ padding more := by
  obtain ⟨count, _, rfl⟩ := decode_eq_ok.1 h
  obtain ⟨count', _, rfl⟩ := decode_eq_ok.1 hother
  obtain hle | hle := Nat.le_total count count'
  · refine ⟨count' - count, .inl ?_⟩
    rw [String.append_assoc, padding_append, Nat.add_sub_cancel' hle]
  · refine ⟨count - count', .inr ?_⟩
    rw [String.append_assoc, padding_append, Nat.add_sub_cancel' hle]

/-- A text is read as a byte string exactly if it is the text of this byte string with padding that completes its last
group of four, or with less of it; and that text has neither padding nor a symbol that only the standard alphabet has.
So two texts of one byte string differ in padding behind them only, and a symbol of the standard alphabet or bits other
than zero that fill no byte are refused in any text. -/
theorem decode_canonical (text : String) (bytes : Bytes) :
    (decode text = .ok bytes ↔
      ∃ count, count ≤ missing (encode bytes) ∧ text = encode bytes ++ padding count) ∧
    (∀ c ∈ (encode bytes).toList, c ≠ '=' ∧ c ≠ '+' ∧ c ≠ '/') ∧
    (∀ other, decode text = .ok bytes → decode other = .ok bytes →
      ∃ more, other = text ++ padding more ∨ text = other ++ padding more) ∧
    (∀ c ∈ text.toList, c = '+' ∨ c = '/' → ∃ error, decode text = .error error) ∧
    ∀ (values : List Nat) (count : Nat), (∀ value ∈ values, value < 64) → spareBits values ≠ 0 →
      text = ofValues values ++ padding count → ∃ error, decode text = .error error := by
  refine ⟨decode_eq_ok, fun c hc => ne_of_mem_encode hc, fun other h hother => same_up_to_padding h hother,
    fun c hmem hc => refuses_standard hmem hc, ?_⟩
  rintro values count h hspare rfl
  exact refuses_spareBits h hspare count

/-- Two bytes with and without padding, and the same symbols but for one spare bit. -/
theorem sample_padding_read :
    decode "-_8=" = .ok [0xfb, 0xff] ∧ decode "-_8" = .ok [0xfb, 0xff] ∧
      (∃ error, decode "+/8" = .error error) ∧ ∃ error, decode "-_9" = .error error := by
  have hpadded := (decode_canonical "-_8=" [0xfb, 0xff]).1.2 ⟨1, by decide, by decide⟩
  have hbare := (decode_canonical "-_8" [0xfb, 0xff]).1.2 ⟨0, by decide, by decide⟩
  have hstandard := (decode_canonical "+/8" []).2.2.2.1 '+' (by decide) (.inl rfl)
  have hspare := (decode_canonical "-_9" []).2.2.2.2 [62, 63, 61] 0 (by decide) (by decide) (by decide)
  exact ⟨hpadded, hbare, hstandard, hspare⟩

end WebAuthn.Base64Url
