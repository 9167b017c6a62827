import Mathlib.Data.List.Chain
import WebAuthn.Proofs.Json.Grammar
import WebAuthn.Proofs.Json.Rendering

/-!
# Every JSON text of a value is read as the value

* `Scanner.foldlM_written` — a written string literal is read piece by piece, whichever escapes it uses;
* `Value.apart` — a value has no two words side by side;
* `Scanner.HasRead.foldlM_blanks`, `Scanner.HasRead.foldlM_token` — what a scanner has read after blanks and after a
  token, unless the token is a word behind an open one;
* `scan?_of_layout` — the tokens of a layout, by induction on the layout;
* `parse?_of_writtenAs` — the value of a JSON text.
-/

namespace WebAuthn.Json

namespace Scanner

variable {scanner : Scanner} {tokens before : List Token} {read : Text} {bytes : Bytes}

/-! ### String literals -/

theorem hexValue?_of_hexDigit {value : Nat} {b : UInt8} (h : HexDigit value b) :
    hexValue? b = some value := by
  have hdecimal : ∀ n < 10, hexValue? (UInt8.ofNat (48 + n)) = some n := by decide
  have hlower : ∀ n < 16, 10 ≤ n → hexValue? (UInt8.ofNat (87 + n)) = some n := by decide
  have hupper : ∀ n < 16, 10 ≤ n → hexValue? (UInt8.ofNat (55 + n)) = some n := by decide
  cases h with
  | decimal h => exact hdecimal value h
  | lower hlow hhigh => exact hlower value hhigh hlow
  | upper hlow hhigh => exact hupper value hhigh hlow

theorem escaped?_of_mem {letter b : UInt8} (h : (letter, b) ∈ escapes) :
    letter ≠ 0x75 ∧ escaped? letter = some b := by
  have hall : escapes.all (fun escape => escape.1 != 0x75 && escaped? escape.1 == some escape.2) = true := by
    decide
  simpa using List.all_eq_true.1 hall _ h

theorem foldlM_writtenPiece {piece : Piece} (h : piece.WrittenAs bytes) :
    bytes.foldlM step ⟨tokens, .text read⟩ = some ⟨tokens, .text (piece :: read)⟩ := by
  cases h with
  | @plain b hlow hquote hbackslash =>
    have hb : step ⟨tokens, .text read⟩ b = some ⟨tokens, .text (.byte b :: read)⟩ := by
      rw [step_text, if_neg hquote, if_neg hbackslash, if_neg (Nat.not_lt.2 hlow)]
    rw [foldlM_cons hb]
    rfl
  | @escape letter b hescape =>
    obtain ⟨hne, hb⟩ := escaped?_of_mem hescape
    have hletter : step ⟨tokens, .escape read⟩ letter = some ⟨tokens, .text (.byte b :: read)⟩ := by
      rw [step_escape, if_neg hne, hb, Option.map_some]
    have hbackslash : step ⟨tokens, .text read⟩ 0x5c = some ⟨tokens, .escape read⟩ := rfl
    rw [foldlM_cons hbackslash, foldlM_cons hletter]
    rfl
  | @unit i j k l a b c d ha hb hc hd =>
    have hbackslash : step ⟨tokens, .text read⟩ 0x5c = some ⟨tokens, .escape read⟩ := rfl
    have hletter : step ⟨tokens, .escape read⟩ 0x75 = some ⟨tokens, .hex read 3 0⟩ := rfl
    have hdigit : ∀ {value : Nat} {digit : UInt8} (missing code : Nat), HexDigit value digit →
        step ⟨tokens, .hex read (missing + 1) code⟩ digit =
          some ⟨tokens, .hex read missing (16 * code + value)⟩ := fun missing code hv =>
      congrArg (Option.map _) (hexValue?_of_hexDigit hv)
    have hlast : ∀ code : Nat, step ⟨tokens, .hex read 0 code⟩ d =
        some ⟨tokens, .text (.unit (16 * code + l) :: read)⟩ := fun code =>
      congrArg (Option.map _) (hexValue?_of_hexDigit hd)
    have hcode : 16 * (16 * (16 * (16 * 0 + i) + j) + k) + l = 4096 * i + 256 * j + 16 * k + l := by
      omega
    rw [foldlM_cons hbackslash, foldlM_cons hletter, foldlM_cons (hdigit _ _ ha),
      foldlM_cons (hdigit _ _ hb), foldlM_cons (hdigit _ _ hc), foldlM_cons (hlast _), hcode]
    rfl

/-- A written string literal is read piece by piece. -/
theorem foldlM_written {text : Text} (h : text.WrittenAs bytes) :
    bytes.foldlM step ⟨tokens, .text read⟩ = some ⟨tokens, .text (text.reverse ++ read)⟩ := by
  induction h generalizing read with
  | nil => rfl
  | cons hpiece _ ih =>
    rw [List.foldlM_append, foldlM_writtenPiece hpiece, Option.bind_eq_bind, Option.bind_some, ih,
      List.reverse_cons, List.append_assoc, List.singleton_append]

end Scanner

/-! ### Words stand apart -/

/-- Whether the token is a word, which only what follows it ends. -/
def Token.isWord : Token → Bool
  | .number _ => true
  | .bool _ => true
  | .null => true
  | _ => false

/-- One of two tokens is not a word. -/
def Token.Apart (a b : Token) : Prop :=
  a.isWord = false ∨ b.isWord = false

/-- The tokens begin with one that is not a word, if there are any. -/
def BeginsApart (tokens : List Token) : Prop :=
  ∀ token ∈ tokens.head?, token.isWord = false

theorem isChain_cons_of_not_word {token : Token} {rest : List Token} (h : token.isWord = false)
    (hr : rest.IsChain Token.Apart) : (token :: rest).IsChain Token.Apart :=
  List.isChain_cons.2 ⟨fun _ _ => .inl h, hr⟩

theorem isChain_append_of_beginsApart {front back : List Token} (hf : front.IsChain Token.Apart)
    (hb : back.IsChain Token.Apart) (h : BeginsApart back) : (front ++ back).IsChain Token.Apart :=
  List.isChain_append.2 ⟨hf, hb, fun _ _ token ht => .inr (h token ht)⟩

theorem beginsApart_itemTokens (items : List Value) : BeginsApart (itemTokens items) := by
  cases items with
  | nil => rintro token ⟨⟩; rfl
  | cons item rest => rintro token ⟨⟩; rfl

theorem beginsApart_memberTokens (members : List (Text × Value)) :
    BeginsApart (memberTokens members) := by
  cases members with
  | nil => rintro token ⟨⟩; rfl
  | cons member rest => rintro token ⟨⟩; rfl

mutual
theorem Value.apart : (value : Value) → value.tokens.IsChain Token.Apart
  | .null => .singleton _
  | .bool _ => .singleton _
  | .number _ => .singleton _
  | .text _ => .singleton _
  | .array [] => isChain_cons_of_not_word rfl (.singleton _)
  | .array (item :: rest) =>
    isChain_cons_of_not_word rfl <|
      isChain_append_of_beginsApart item.apart (apart_itemTokens rest) (beginsApart_itemTokens rest)
  | .object [] => isChain_cons_of_not_word rfl (.singleton _)
  | .object ((_, value) :: rest) =>
    isChain_cons_of_not_word rfl <| isChain_cons_of_not_word rfl <| isChain_cons_of_not_word rfl <|
      isChain_append_of_beginsApart value.apart (apart_memberTokens rest)
        (beginsApart_memberTokens rest)

theorem apart_itemTokens : (items : List Value) → (itemTokens items).IsChain Token.Apart
  | [] => .singleton _
  | item :: rest =>
    isChain_cons_of_not_word rfl <|
      isChain_append_of_beginsApart item.apart (apart_itemTokens rest) (beginsApart_itemTokens rest)

theorem apart_memberTokens : (members : List (Text × Value)) →
    (memberTokens members).IsChain Token.Apart
  | [] => .singleton _
  | (_, value) :: rest =>
    isChain_cons_of_not_word rfl <| isChain_cons_of_not_word rfl <| isChain_cons_of_not_word rfl <|
      isChain_append_of_beginsApart value.apart (apart_memberTokens rest)
        (beginsApart_memberTokens rest)
end

/-! ### Tokens -/

section Layouts

variable {scanner : Scanner} {tokens before : List Token} {token : Token} {bytes blanks : Bytes}

/-- The scanner has read some tokens, of which the last may be a word that is still open. -/
structure Scanner.HasRead (scanner : Scanner) (before : List Token) (openWord : Bool) : Prop where
  finish_eq : scanner.finish = some before
  eq_behind : openWord = false → scanner = .behind before

theorem Scanner.hasRead_behind (before : List Token) (openWord : Bool) :
    HasRead (behind before) before openWord :=
  ⟨finish_behind before, fun _ => rfl⟩

/-- Blanks end words and change nothing else. -/
theorem Scanner.HasRead.foldlM_blanks {openWord : Bool} (h : scanner.HasRead before openWord)
    (hb : Blanks blanks) :
    ∃ next, blanks.foldlM step scanner = some next ∧ next.HasRead before openWord := by
  induction blanks generalizing scanner with
  | nil => exact ⟨scanner, rfl, h⟩
  | cons b blanks ih =>
    obtain ⟨hblank, hblanks⟩ := List.forall_mem_cons.1 hb
    have hall : ∀ b ∈ ([0x20, 0x09, 0x0a, 0x0d] : Bytes), isBlank b = true := by decide +kernel
    have hends : endsWord b = true := by rw [endsWord, hall b hblank, Bool.true_or, Bool.true_or]
    have hstep : scanner.step b = some (behind before) := by
      rw [step_of_endsWord h.finish_eq hends, begin, if_pos (hall b hblank), behind]
    rw [foldlM_cons hstep]
    exact ih (hasRead_behind before openWord) hblanks

theorem Scanner.HasRead.foldlM_punctuation {openWord : Bool} (h : scanner.HasRead before openWord)
    {b : UInt8} (hp : punctuation? b = some token) :
    ∃ next, [b].foldlM step scanner = some next ∧ next.HasRead (before ++ [token]) token.isWord :=
  ⟨behind (before ++ [token]), by rw [foldlM_cons (step_punctuation h.finish_eq hp)]; rfl,
    hasRead_behind _ _⟩

/-- A word is read by a scanner that has no word open. -/
theorem Scanner.foldlM_isWord (h : token.IsWord) (before : List Token) :
    ∃ next, token.render.foldlM step (behind before) = some next ∧
      next.finish = some (before ++ [token]) := by
  obtain ⟨next, hnext, hfinish⟩ := Option.bind_eq_some_iff.1 (scanTokens_word h before)
  rw [scanTokens, List.flatMap_singleton] at hnext
  exact ⟨next, hnext, hfinish⟩

/-- A written token is read, unless it is a word behind an open one. -/
theorem Scanner.HasRead.foldlM_token {openWord : Bool} (h : scanner.HasRead before openWord)
    (ha : openWord = false ∨ token.isWord = false) (ht : token.WrittenAs bytes) :
    ∃ next, bytes.foldlM step scanner = some next ∧ next.HasRead (before ++ [token]) token.isWord := by
  have hword : ∀ word : Token, word.IsWord → word.isWord = true → openWord = false →
      ∃ next, word.render.foldlM step scanner = some next ∧
        next.HasRead (before ++ [word]) word.isWord := by
    intro word hw hopen hclosed
    obtain ⟨next, hnext, hfinish⟩ := foldlM_isWord hw before
    rw [h.eq_behind hclosed]
    exact ⟨next, hnext, hfinish, fun hno => by rw [hopen] at hno; cases hno⟩
  have hclosed : token.isWord = true → openWord = false := fun hopen =>
    ha.resolve_right (by rw [hopen]; decide)
  cases ht with
  | openArray => exact h.foldlM_punctuation rfl
  | closeArray => exact h.foldlM_punctuation rfl
  | openObject => exact h.foldlM_punctuation rfl
  | closeObject => exact h.foldlM_punctuation rfl
  | comma => exact h.foldlM_punctuation rfl
  | colon => exact h.foldlM_punctuation rfl
  | @text text body hbody =>
    have hquote : scanner.step 0x22 = some ⟨before.reverse, .text []⟩ := step_of_endsWord h.finish_eq rfl
    refine ⟨behind (before ++ [.text text]), ?_, hasRead_behind _ _⟩
    rw [foldlM_cons hquote, List.foldlM_append, foldlM_written hbody, Option.bind_eq_bind,
      Option.bind_some, foldlM_cons (step_text _), List.append_nil, List.reverse_reverse, behind,
      List.reverse_append]
    rfl
  | number hn =>
    exact hword _ (.number (isNumber_of_numeral hn)) rfl (hclosed rfl)
  | true => exact hword (.bool true) (.bool true) rfl (hclosed rfl)
  | false => exact hword (.bool false) (.bool false) rfl (hclosed rfl)
  | null => exact hword .null .null rfl (hclosed rfl)

/-! ### Layouts -/

theorem foldlM_layout (h : Layout tokens bytes) {openWord : Bool} (hs : scanner.HasRead before openWord)
    (hc : tokens.IsChain Token.Apart) (ho : openWord = false ∨ BeginsApart tokens) :
    (bytes.foldlM Scanner.step scanner).bind Scanner.finish = some (before ++ tokens) := by
  -- the invariant is that the tokens so far were read, the last of which may be a word that is still open
  induction h generalizing scanner before openWord with
  | nil hb =>
    obtain ⟨next, hnext, hread⟩ := hs.foldlM_blanks hb
    rw [hnext, Option.bind_some, hread.finish_eq, List.append_nil]
  | @cons token rest blanks front back hb ht _ ih =>
    obtain ⟨next, hblanks, hread⟩ := hs.foldlM_blanks hb
    obtain ⟨last, htoken, hlast⟩ := hread.foldlM_token (ho.imp_right fun h => h token rfl) ht
    obtain ⟨happart, hrest⟩ := List.isChain_cons.1 hc
    have hopen : token.isWord = false ∨ BeginsApart rest := by
      cases hw : token.isWord with
      | false => exact .inl rfl
      | true => exact .inr fun second hsecond =>
          (happart second hsecond).resolve_left fun h => by rw [hw] at h; cases h
    rw [List.foldlM_append, hblanks, Option.bind_eq_bind, Option.bind_some, List.foldlM_append, htoken,
      Option.bind_eq_bind, Option.bind_some, ih hlast hrest hopen, List.append_assoc,
      List.singleton_append]

/-- The tokens of a layout without two words side by side are read. -/
theorem scan?_of_layout (h : Layout tokens bytes) (hc : tokens.IsChain Token.Apart) :
    Token.scan? bytes = some tokens :=
  foldlM_layout h (Scanner.hasRead_behind [] false) hc (.inl rfl)

/-- Every JSON text of a value is read as the value. -/
theorem parse?_of_writtenAs {value : Value} (h : value.WrittenAs bytes) : parse? bytes = some value := by
  rw [parse?, scan?_of_layout h value.apart, Option.bind_some, Value.ofTokens?_tokens]

end Layouts

end WebAuthn.Json
