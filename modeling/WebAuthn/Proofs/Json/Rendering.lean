import WebAuthn.Json.Record
import WebAuthn.Proofs.Json.Scanning

/-!
# JSON texts are read back

* `Value.reread` — what the text of a value is read as: the same value but for the pieces of its string literals;
* `scan?_render` — the tokens of the text of a value, by induction on the value;
* `Value.ofTokens?_tokens` — the tokens of a value denote it;
* `parse?_render` — the text of a value is read as the value, reread;
* `Text.toString?_reread`, `Record.ofValue?_reread` — texts and records come back as they were.
-/

namespace WebAuthn.Json

/-! ### What comes back -/

mutual
/-- The value that a rendered value is read as. -/
def Value.reread : Value → Value
  | .text text => .text (text.map Piece.reread)
  | .array items => .array (rereadItems items)
  | .object members => .object (rereadMembers members)
  | .null => .null
  | .bool value => .bool value
  | .number literal => .number literal

def rereadItems : List Value → List Value
  | [] => []
  | item :: rest => item.reread :: rereadItems rest

def rereadMembers : List (Text × Value) → List (Text × Value)
  | [] => []
  | (name, value) :: rest => (name.map Piece.reread, value.reread) :: rereadMembers rest
end

mutual
/-- The number literals in the value are number literals. -/
def Value.Readable : Value → Prop
  | .number literal => isNumber literal = true
  | .array items => ReadableItems items
  | .object members => ReadableMembers members
  | _ => True

def ReadableItems : List Value → Prop
  | [] => True
  | item :: rest => item.Readable ∧ ReadableItems rest

def ReadableMembers : List (Text × Value) → Prop
  | [] => True
  | (_, value) :: rest => value.Readable ∧ ReadableMembers rest
end

/-! ### Tokens of values -/

section Scanning

variable {scanner : Scanner} {before : List Token}

/-- The scanner after the texts of some tokens. -/
def scanTokens (scanner : Scanner) (tokens : List Token) : Option Scanner :=
  (tokens.flatMap Token.render).foldlM Scanner.step scanner

theorem scanTokens_append (front back : List Token) :
    scanTokens scanner (front ++ back) = (scanTokens scanner front).bind (scanTokens · back) := by
  rw [scanTokens, List.flatMap_append, List.foldlM_append]
  rfl

theorem scanTokens_cons {token : Token} {next : Scanner}
    (h : token.render.foldlM Scanner.step scanner = some next) (rest : List Token) :
    scanTokens scanner (token :: rest) = scanTokens next rest := by
  rw [scanTokens, List.flatMap_cons, List.foldlM_append, h]
  rfl

theorem scanTokens_punctuation (h : scanner.finish = some before) {token : Token} {b : UInt8}
    (hr : token.render = [b]) (hp : punctuation? b = some token) (rest : List Token) :
    scanTokens scanner (token :: rest) = scanTokens (.behind (before ++ [token])) rest := by
  refine scanTokens_cons ?_ rest
  rw [hr, Scanner.foldlM_cons (Scanner.step_punctuation h hp)]
  rfl

theorem scanTokens_text (h : scanner.finish = some before) (pieces : Text) (rest : List Token) :
    scanTokens scanner (.text pieces :: rest) =
      scanTokens (.behind (before ++ [.text (pieces.map Piece.reread)])) rest := by
  have hquote : scanner.step 0x22 = some ⟨before.reverse, .text []⟩ :=
    Scanner.step_of_endsWord h rfl
  refine scanTokens_cons ?_ rest
  show (0x22 :: (pieces.flatMap Piece.render ++ [0x22])).foldlM Scanner.step scanner = _
  rw [Scanner.foldlM_cons hquote, List.foldlM_append, Scanner.foldlM_pieces, Option.bind_eq_bind,
    Option.bind_some, Scanner.foldlM_cons (Scanner.step_text _), List.append_nil, List.reverse_reverse,
    Scanner.behind, List.reverse_append]
  rfl

/-- A word is read when its text is over, be it by the end of the input. -/
theorem scanTokens_word {token : Token} (h : token.IsWord) (before : List Token) :
    (scanTokens (.behind before) [token]).bind Scanner.finish = some (before ++ [token]) := by
  obtain ⟨hw, hne, hb⟩ := h.word?_render
  cases hr : token.render with
  | nil => exact absurd hr hne
  | cons b word =>
    rw [hr] at hw hb
    obtain ⟨hhead, hrest⟩ := List.forall_mem_cons.1 hb
    have hbegin : Scanner.step (.behind before) b = some ⟨before.reverse, .word [b]⟩ :=
      congrArg some (Scanner.begin_of_endsWord hhead)
    have hread : (word.reverse ++ [b]).reverse = b :: word := by
      rw [List.reverse_append, List.reverse_reverse, List.reverse_singleton, List.singleton_append]
    have hscan : token.render.foldlM Scanner.step (.behind before) =
        some ⟨before.reverse, .word (word.reverse ++ [b])⟩ := by
      rw [hr, Scanner.foldlM_cons hbegin, Scanner.foldlM_word hrest]
    rw [scanTokens_cons hscan]
    show (word? (word.reverse ++ [b]).reverse).map (fun t => (t :: before.reverse).reverse) = _
    rw [hread, hw, Option.map_some, List.reverse_cons, List.reverse_reverse]

mutual
theorem Value.scanTokens_tokens : (value : Value) → value.Readable → (before : List Token) →
    (scanTokens (.behind before) value.tokens).bind Scanner.finish = some (before ++ value.reread.tokens)
  | .null, _, before => scanTokens_word .null before
  | .bool value, _, before => scanTokens_word (.bool value) before
  | .number _, h, before => scanTokens_word (.number h) before
  | .text text, _, before => by
    rw [Value.tokens, scanTokens_text (Scanner.finish_behind _)]
    exact Scanner.finish_behind _
  | .array [], _, before => by
    rw [Value.tokens, scanTokens_punctuation (Scanner.finish_behind _) rfl rfl,
      scanTokens_punctuation (Scanner.finish_behind _) rfl rfl, List.append_assoc]
    exact Scanner.finish_behind _
  | .array (item :: rest), h, before => by
    obtain ⟨next, hitem, hnext⟩ :=
      Option.bind_eq_some_iff.1 (item.scanTokens_tokens h.1 (before ++ [.openArray]))
    rw [Value.tokens, scanTokens_punctuation (Scanner.finish_behind _) rfl rfl, scanTokens_append,
      hitem, Option.bind_some, scanTokens_itemTokens rest h.2 hnext, Value.reread, rereadItems,
      Value.tokens, List.append_assoc, List.append_assoc]
    rfl
  | .object [], _, before => by
    rw [Value.tokens, scanTokens_punctuation (Scanner.finish_behind _) rfl rfl,
      scanTokens_punctuation (Scanner.finish_behind _) rfl rfl, List.append_assoc]
    exact Scanner.finish_behind _
  | .object ((name, value) :: rest), h, before => by
    obtain ⟨next, hvalue, hnext⟩ := Option.bind_eq_some_iff.1 (value.scanTokens_tokens h.1
      (before ++ [.openObject] ++ [.text (name.map Piece.reread)] ++ [.colon]))
    rw [Value.tokens, scanTokens_punctuation (Scanner.finish_behind _) rfl rfl,
      scanTokens_text (Scanner.finish_behind _),
      scanTokens_punctuation (Scanner.finish_behind _) rfl rfl, scanTokens_append,
      hvalue, Option.bind_some, scanTokens_memberTokens rest h.2 hnext, Value.reread, rereadMembers,
      Value.tokens]
    simp only [List.append_assoc]
    rfl

theorem scanTokens_itemTokens : (items : List Value) → ReadableItems items →
    {scanner : Scanner} → {before : List Token} → scanner.finish = some before →
    (scanTokens scanner (itemTokens items)).bind Scanner.finish =
      some (before ++ itemTokens (rereadItems items))
  | [], _, _, _, h => by
    rw [itemTokens, scanTokens_punctuation h rfl rfl]
    exact Scanner.finish_behind _
  | item :: rest, hr, _, before, h => by
    obtain ⟨next, hitem, hnext⟩ :=
      Option.bind_eq_some_iff.1 (item.scanTokens_tokens hr.1 (before ++ [.comma]))
    rw [itemTokens, scanTokens_punctuation h rfl rfl, scanTokens_append, hitem, Option.bind_some,
      scanTokens_itemTokens rest hr.2 hnext, rereadItems, itemTokens]
    simp only [List.append_assoc]
    rfl

theorem scanTokens_memberTokens : (members : List (Text × Value)) → ReadableMembers members →
    {scanner : Scanner} → {before : List Token} → scanner.finish = some before →
    (scanTokens scanner (memberTokens members)).bind Scanner.finish =
      some (before ++ memberTokens (rereadMembers members))
  | [], _, _, _, h => by
    rw [memberTokens, scanTokens_punctuation h rfl rfl]
    exact Scanner.finish_behind _
  | (name, value) :: rest, hr, _, before, h => by
    obtain ⟨next, hvalue, hnext⟩ := Option.bind_eq_some_iff.1 (value.scanTokens_tokens hr.1
      (before ++ [.comma] ++ [.text (name.map Piece.reread)] ++ [.colon]))
    rw [memberTokens, scanTokens_punctuation h rfl rfl, scanTokens_text (Scanner.finish_behind _),
      scanTokens_punctuation (Scanner.finish_behind _) rfl rfl, scanTokens_append, hvalue,
      Option.bind_some, scanTokens_memberTokens rest hr.2 hnext, rereadMembers, memberTokens]
    simp only [List.append_assoc]
    rfl
end

/-- The text of a value is made of its tokens, reread. -/
theorem scan?_render {value : Value} (h : value.Readable) :
    Token.scan? (render value) = some value.reread.tokens :=
  value.scanTokens_tokens h []

end Scanning

/-! ### Values of tokens -/

/-- An item may stand wherever a first item may. -/
theorem Value.foldlM_firstItem (value : Value) (around : List Frame) :
    value.tokens.foldlM Expecting.step (.firstItem around) =
      value.tokens.foldlM Expecting.step (.value (.array [] :: around)) := by
  cases value with
  | array items => cases items <;> rfl
  | object members => cases members <;> rfl
  | _ => rfl

mutual
theorem Value.foldlM_tokens : (value : Value) → (around : List Frame) →
    value.tokens.foldlM Expecting.step (.value around) = some (.after value around)
  | .null, _ => rfl
  | .bool _, _ => rfl
  | .number _, _ => rfl
  | .text _, _ => rfl
  | .array [], _ => rfl
  | .array (item :: rest), around => by
    show (item.tokens ++ itemTokens rest).foldlM Expecting.step (.firstItem around) = _
    rw [List.foldlM_append, item.foldlM_firstItem, item.foldlM_tokens, Option.bind_eq_bind,
      Option.bind_some, foldlM_itemTokens rest item []]
    rfl
  | .object [], _ => rfl
  | .object ((name, value) :: rest), around => by
    show (value.tokens ++ memberTokens rest).foldlM Expecting.step
      (.value (.object [] name :: around)) = _
    rw [List.foldlM_append, value.foldlM_tokens, Option.bind_eq_bind, Option.bind_some,
      foldlM_memberTokens rest name value []]
    rfl

theorem foldlM_itemTokens : (items : List Value) → (item : Value) → (before : List Value) →
    {around : List Frame} →
    (itemTokens items).foldlM Expecting.step (.after item (.array before :: around)) =
      some (.after (.array ((item :: before).reverse ++ items)) around)
  | [], item, before, _ => by
    rw [List.append_nil]
    rfl
  | next :: rest, item, before, around => by
    show (next.tokens ++ itemTokens rest).foldlM Expecting.step
      (.value (.array (item :: before) :: around)) = _
    rw [List.foldlM_append, next.foldlM_tokens, Option.bind_eq_bind, Option.bind_some,
      foldlM_itemTokens rest next (item :: before), List.reverse_cons, List.append_assoc,
      List.singleton_append]

theorem foldlM_memberTokens : (members : List (Text × Value)) → (name : Text) → (value : Value) →
    (before : List (Text × Value)) → {around : List Frame} →
    (memberTokens members).foldlM Expecting.step (.after value (.object before name :: around)) =
      some (.after (.object (((name, value) :: before).reverse ++ members)) around)
  | [], name, value, before, _ => by
    rw [List.append_nil]
    rfl
  | (next, content) :: rest, name, value, before, around => by
    show (content.tokens ++ memberTokens rest).foldlM Expecting.step
      (.value (.object ((name, value) :: before) next :: around)) = _
    rw [List.foldlM_append, content.foldlM_tokens, Option.bind_eq_bind, Option.bind_some,
      foldlM_memberTokens rest next content ((name, value) :: before), List.reverse_cons,
      List.append_assoc, List.singleton_append]
end

/-- The tokens of a value denote it. -/
theorem Value.ofTokens?_tokens (value : Value) : Value.ofTokens? value.tokens = some value := by
  rw [Value.ofTokens?, value.foldlM_tokens]
  rfl

/-- The text of a value is read as the value, reread. -/
theorem parse?_render {value : Value} (h : value.Readable) :
    parse? (render value) = some value.reread := by
  rw [parse?, scan?_render h, Option.bind_some, Value.ofTokens?_tokens]

/-! ### Texts -/

namespace Text

theorem codePoint_ascii {b : UInt8} (h : b.toNat < 128) : codePoint b.toNat = [b] := by
  have hb : ∀ c ∈ [b], c.toNat < 128 := List.forall_mem_singleton.2 h
  exact Utf8.encode_ofList_ascii hb

/-- A unit that is no surrogate spells its code point, whatever follows. -/
theorem bytes?_unit {code : Nat} (h : code < 0xD800 ∨ 0xE000 ≤ code) (rest : Text) :
    bytes? (.unit code :: rest) = (bytes? rest).map (codePoint code ++ ·) := by
  have hhigh : isHighSurrogate code = false := by
    rw [isHighSurrogate, Bool.and_eq_false_iff, decide_eq_false_iff_not, decide_eq_false_iff_not]
    omega
  have hlow : isLowSurrogate code = false := by
    rw [isLowSurrogate, Bool.and_eq_false_iff, decide_eq_false_iff_not, decide_eq_false_iff_not]
    omega
  cases rest with
  | nil => simp only [bytes?, hhigh, hlow, Bool.or_self, Bool.false_eq_true, if_false]
  | cons piece rest =>
    cases piece <;> simp only [bytes?, hhigh, hlow, Bool.or_self, Bool.false_eq_true, if_false]

/-- The bytes of a text come back under whatever escapes. -/
theorem bytes?_reread (bytes : Bytes) :
    bytes? ((bytes.map Piece.byte).map Piece.reread) = some bytes := by
  induction bytes with
  | nil => rfl
  | cons b rest ih =>
    rw [List.map_cons, List.map_cons]
    by_cases hunit : b.toNat < 0x20 ∧ b ∉ [0x08, 0x09, 0x0a, 0x0c, 0x0d]
    · rw [Piece.reread, if_pos hunit, bytes?_unit (by omega), ih, codePoint_ascii (by omega)]
      rfl
    · rw [Piece.reread, if_neg hunit, bytes?, ih, Option.map_some]

theorem toString?_reread (text : String) : toString? ((ofString text).map Piece.reread) = some text := by
  rw [toString?, ofString, bytes?_reread, Option.bind_some, Utf8.decode?_eq_some_iff]

end Text

/-! ### Records -/

theorem Value.text?_reread (text : String) : (Value.ofString text).reread.text? = some text :=
  Text.toString?_reread text

namespace Record

theorem rereadMembers_ofFields (fields : Record) :
    rereadMembers (fields.map fun field => (Text.ofString field.1, field.2)) =
      fields.map fun field => ((Text.ofString field.1).map Piece.reread, field.2.reread) := by
  induction fields with
  | nil => rfl
  | cons field rest ih => rw [List.map_cons, rereadMembers, ih, List.map_cons]

theorem mapM_reread (fields : Record) :
    (fields.map fun field => ((Text.ofString field.1).map Piece.reread, field.2.reread)).mapM
        (fun member => (Text.toString? member.1).map fun name => (name, member.2)) =
      some (fields.map fun field => (field.1, field.2.reread)) := by
  induction fields with
  | nil => rfl
  | cons field rest ih =>
    rw [List.map_cons, List.mapM_cons, Text.toString?_reread, ih]
    rfl

/-- Which fields occur twice does not depend on what they hold. -/
theorem distinct_map (names : List String) (fields : Record) (f : Value → Value) :
    distinct names (fields.map fun field => (field.1, f field.2)) = distinct names fields := by
  simp only [distinct, List.filter_map, List.length_map, Function.comp_def]

/-- The fields of a record come back under their names. -/
theorem ofValue?_reread {names : List String} {fields : Record} (h : distinct names fields = true) :
    ofValue? names (Value.ofFields fields).reread =
      some (fields.map fun field => (field.1, field.2.reread)) := by
  rw [Value.ofFields, Value.reread, rereadMembers_ofFields, ofValue?, mapM_reread, Option.bind_eq_bind,
    Option.bind_some, distinct_map, if_pos h]

end Record

end WebAuthn.Json
