import WebAuthn.Json.Value
import WebAuthn.Proofs.Text.Base64Url

/-!
# Scanning the text of a token

A scanner that meets the text of a token reads the token, except for one thing: a control character without a letter of
its own is escaped to a unit, and read as that unit. It spells the same text.

* `Piece.reread`, `Scanner.foldlM_pieces` — what the pieces of a string literal are read as;
* `Token.IsWord`, `Token.IsWord.word?_render` — words, no byte of which ends them;
* `Scanner.behind` — the scanner between two tokens; `Scanner.step_of_endsWord`, `Scanner.step_punctuation` say how the
  next token begins, whether or not the one before is a word that is still open.
-/

namespace WebAuthn.Json

/-! ### String literals -/

def Piece.reread : Piece → Piece
  | .unit code => .unit (code % 65536)
  | .byte b =>
    if b.toNat < 0x20 ∧ b ∉ [0x08, 0x09, 0x0a, 0x0c, 0x0d] then .unit b.toNat else .byte b

theorem hexValue?_hexDigit {value : Nat} (h : value < 16) : hexValue? (hexDigit value) = some value := by
  revert value
  decide

namespace Scanner

variable {tokens : List Token} {read : Text}

theorem foldlM_cons {scanner next : Scanner} {b : UInt8} (h : scanner.step b = some next)
    (rest : Bytes) : (b :: rest).foldlM step scanner = rest.foldlM step next := by
  rw [List.foldlM_cons, h, Option.bind_eq_bind, Option.bind_some]

theorem step_word {word : Bytes} (b : UInt8) : step ⟨tokens, .word word⟩ b =
    if endsWord b then (word? word.reverse).map fun token => begin (token :: tokens) b
    else some ⟨tokens, .word (b :: word)⟩ := rfl

theorem step_text (b : UInt8) : step ⟨tokens, .text read⟩ b =
    if b = 0x22 then some ⟨.text read.reverse :: tokens, .between⟩
    else if b = 0x5c then some ⟨tokens, .escape read⟩
    else if b.toNat < 0x20 then none
    else some ⟨tokens, .text (.byte b :: read)⟩ := rfl

theorem step_escape (letter : UInt8) : step ⟨tokens, .escape read⟩ letter =
    if letter = 0x75 then some ⟨tokens, .hex read 3 0⟩
    else (escaped? letter).map fun b => ⟨tokens, .text (.byte b :: read)⟩ := rfl

theorem step_hexDigit {missing code value : Nat} (h : value < 16) :
    step ⟨tokens, .hex read (missing + 1) code⟩ (hexDigit value) =
      some ⟨tokens, .hex read missing (16 * code + value)⟩ := by
  show (hexValue? (hexDigit value)).map _ = _
  rw [hexValue?_hexDigit h, Option.map_some]

theorem step_lastHexDigit {code value : Nat} (h : value < 16) :
    step ⟨tokens, .hex read 0 code⟩ (hexDigit value) =
      some ⟨tokens, .text (.unit (16 * code + value) :: read)⟩ := by
  show (hexValue? (hexDigit value)).map _ = _
  rw [hexValue?_hexDigit h, Option.map_some]

theorem foldlM_escapeUnit (code : Nat) :
    (escapeUnit code).foldlM step ⟨tokens, .text read⟩ =
      some ⟨tokens, .text (.unit (code % 65536) :: read)⟩ := by
  have hlt : ∀ n : Nat, n % 16 < 16 := fun n => Nat.mod_lt n (by decide)
  have hbackslash : step ⟨tokens, .text read⟩ 0x5c = some ⟨tokens, .escape read⟩ := rfl
  have hletter : step ⟨tokens, .escape read⟩ 0x75 = some ⟨tokens, .hex read 3 0⟩ := rfl
  have hcode : 16 * (16 * (16 * (16 * 0 + code / 4096 % 16) + code / 256 % 16) + code / 16 % 16) +
      code % 16 = code % 65536 := by
    omega
  rw [escapeUnit, foldlM_cons hbackslash, foldlM_cons hletter, foldlM_cons (step_hexDigit (hlt _)),
    foldlM_cons (step_hexDigit (hlt _)), foldlM_cons (step_hexDigit (hlt _)),
    foldlM_cons (step_lastHexDigit (hlt _)), hcode]
  rfl

/-- A byte is written under a one-letter escape, as a unit or as it stands. -/
theorem render_byte (b : UInt8) :
    (∃ letter, (Piece.byte b).render = [0x5c, letter] ∧ letter ≠ 0x75 ∧ escaped? letter = some b ∧
        (Piece.byte b).reread = .byte b) ∨
      ((Piece.byte b).render = escapeUnit b.toNat ∧ (Piece.byte b).reread = .unit b.toNat) ∨
      ((Piece.byte b).render = [b] ∧ b ≠ 0x22 ∧ b ≠ 0x5c ∧ ¬ b.toNat < 0x20 ∧
        (Piece.byte b).reread = .byte b) := by
  simp only [Piece.render]
  split
  case h_8 hquote hbackslash _ _ _ _ _ =>
    by_cases hlow : b.toNat < 0x20
    · refine .inr (.inl ⟨if_pos hlow, if_pos ⟨hlow, ?_⟩⟩)
      simp only [List.mem_cons, List.not_mem_nil, or_false, not_or]
      exact ⟨‹_›, ‹_›, ‹_›, ‹_›, ‹_›⟩
    · exact .inr (.inr ⟨if_neg hlow, hquote, hbackslash, hlow, if_neg fun h => hlow h.1⟩)
  all_goals exact .inl ⟨_, rfl, by decide, rfl, rfl⟩

theorem foldlM_piece (piece : Piece) :
    piece.render.foldlM step ⟨tokens, .text read⟩ = some ⟨tokens, .text (piece.reread :: read)⟩ := by
  cases piece with
  | unit code => exact foldlM_escapeUnit code
  | byte b =>
    obtain ⟨letter, hr, hne, he, hb⟩ | ⟨hr, hb⟩ | ⟨hr, hquote, hbackslash, hlow, hb⟩ := render_byte b
    · have hletter : step ⟨tokens, .escape read⟩ letter = some ⟨tokens, .text (.byte b :: read)⟩ := by
        rw [step_escape, if_neg hne, he, Option.map_some]
      rw [hr, hb, foldlM_cons rfl, foldlM_cons hletter]
      rfl
    · have hlt := b.toNat_lt
      have hmod : b.toNat % 65536 = b.toNat := Nat.mod_eq_of_lt (by omega)
      rw [hr, hb, foldlM_escapeUnit, hmod]
    · have hbyte : step ⟨tokens, .text read⟩ b = some ⟨tokens, .text (.byte b :: read)⟩ := by
        rw [step_text, if_neg hquote, if_neg hbackslash, if_neg hlow]
      rw [hr, hb, foldlM_cons hbyte]
      rfl

theorem foldlM_pieces (pieces : Text) :
    (pieces.flatMap Piece.render).foldlM step ⟨tokens, .text read⟩ =
      some ⟨tokens, .text ((pieces.map Piece.reread).reverse ++ read)⟩ := by
  induction pieces generalizing read with
  | nil => rfl
  | cons piece rest ih =>
    rw [List.flatMap_cons, List.foldlM_append, foldlM_piece, Option.bind_eq_bind, Option.bind_some, ih,
      List.map_cons, List.reverse_cons, List.append_assoc, List.singleton_append]

end Scanner

/-! ### Words -/

def isNumberByte (b : UInt8) : Bool :=
  Decimal.isDigit b || [0x2b, 0x2d, 0x2e, 0x45, 0x65].contains b

theorem endsWord_of_isNumberByte {b : UInt8} (h : isNumberByte b = true) :
    Scanner.endsWord b = false := by
  have hall : ∀ n < 256, isNumberByte (UInt8.ofNat n) = true →
      Scanner.endsWord (UInt8.ofNat n) = false := by
    decide +kernel
  have hb := hall b.toNat b.toNat_lt
  rw [UInt8.ofNat_toNat] at hb
  exact hb h

theorem isNumberByte_of_isDigit {b : UInt8} (h : Decimal.isDigit b = true) : isNumberByte b = true := by
  rw [isNumberByte, h, Bool.true_or]

section NumberBytes

variable {bytes rest : Bytes}

theorem all_cons {b : UInt8} (hb : isNumberByte b = true) (h : bytes.all isNumberByte = true) :
    (b :: bytes).all isNumberByte = true := by
  rw [List.all_cons, hb, h, Bool.true_and]

theorem all_of_all_dropWhile (h : (bytes.dropWhile Decimal.isDigit).all isNumberByte = true) :
    bytes.all isNumberByte = true := by
  induction bytes with
  | nil => rfl
  | cons b bytes ih =>
    by_cases hb : Decimal.isDigit b = true
    · rw [List.dropWhile_cons_of_pos hb] at h
      exact all_cons (isNumberByte_of_isDigit hb) (ih h)
    · rwa [List.dropWhile_cons_of_neg hb] at h

theorem all_of_afterDigits? (h : afterDigits? bytes = some rest) (hr : rest.all isNumberByte = true) :
    bytes.all isNumberByte = true := by
  cases bytes with
  | nil => cases h
  | cons d bytes =>
    rw [afterDigits?] at h
    split at h
    · next hd =>
      cases h
      exact all_cons (isNumberByte_of_isDigit hd) (all_of_all_dropWhile hr)
    · cases h

theorem all_of_afterInteger? (h : afterInteger? bytes = some rest)
    (hr : rest.all isNumberByte = true) : bytes.all isNumberByte = true := by
  unfold afterInteger? at h
  split at h
  · cases h
    exact all_cons (by decide) hr
  · next d bytes _ => exact @all_of_afterDigits? (d :: bytes) rest h hr
  · cases h

theorem all_of_afterFraction? (h : afterFraction? bytes = some rest)
    (hr : rest.all isNumberByte = true) : bytes.all isNumberByte = true := by
  unfold afterFraction? at h
  split at h
  · exact all_cons (by decide) (all_of_afterDigits? h hr)
  · cases h
    exact hr

theorem all_of_afterSign (hr : (afterSign bytes).all isNumberByte = true) :
    bytes.all isNumberByte = true := by
  unfold afterSign at hr
  split at hr
  · exact all_cons (by decide) hr
  · exact all_cons (by decide) hr
  · exact hr

theorem all_of_afterExponent? (h : afterExponent? bytes = some rest)
    (hr : rest.all isNumberByte = true) : bytes.all isNumberByte = true := by
  unfold afterExponent? at h
  split at h
  · exact all_cons (by decide) (all_of_afterSign (all_of_afterDigits? h hr))
  · exact all_cons (by decide) (all_of_afterSign (all_of_afterDigits? h hr))
  · cases h
    exact hr

theorem all_of_afterMinus (hr : (afterMinus bytes).all isNumberByte = true) :
    bytes.all isNumberByte = true := by
  unfold afterMinus at hr
  split at hr
  · exact all_cons (by decide) hr
  · exact hr

/-- Every byte of a number literal may stand in one. -/
theorem all_of_isNumber (h : isNumber bytes = true) : bytes.all isNumberByte = true := by
  rw [isNumber, beq_iff_eq] at h
  obtain ⟨afterFraction, h, hexponent⟩ := Option.bind_eq_some_iff.1 h
  obtain ⟨afterInteger, hinteger, hfraction⟩ := Option.bind_eq_some_iff.1 h
  have hall := all_of_afterExponent? hexponent rfl
  exact all_of_afterMinus (all_of_afterInteger? hinteger (all_of_afterFraction? hfraction hall))

end NumberBytes

inductive Token.IsWord : Token → Prop where
  | number {literal : Bytes} : isNumber literal = true → IsWord (.number literal)
  | bool (value : Bool) : IsWord (.bool value)
  | null : IsWord .null

/-- The text of a word is the word, and no byte of it ends it. -/
theorem Token.IsWord.word?_render {token : Token} (h : token.IsWord) :
    word? token.render = some token ∧ token.render ≠ [] ∧
      ∀ b ∈ token.render, Scanner.endsWord b = false := by
  cases h with
  | @number literal hn =>
    have hne : ∀ word : Bytes, isNumber word = false → literal ≠ word := by
      rintro word hw rfl
      rw [hw] at hn
      cases hn
    refine ⟨?_, hne [] (by decide), fun b hb => ?_⟩
    · show word? literal = _
      rw [word?, if_neg (hne _ (by decide)), if_neg (hne _ (by decide)), if_neg (hne _ (by decide)),
        if_pos hn]
    · exact endsWord_of_isNumberByte (List.all_eq_true.1 (all_of_isNumber hn) b hb)
  | bool value => cases value <;> decide +kernel
  | null => decide +kernel

namespace Scanner

variable {scanner : Scanner} {before tokens : List Token}

/-- The scanner that stands behind some tokens. -/
def behind (before : List Token) : Scanner :=
  ⟨before.reverse, .between⟩

theorem finish_behind (before : List Token) : (behind before).finish = some before :=
  congrArg some before.reverse_reverse

/-- What ends a word begins anew behind it. -/
theorem step_of_endsWord (h : scanner.finish = some before) {b : UInt8} (hb : endsWord b = true) :
    scanner.step b = some (begin before.reverse b) := by
  obtain ⟨tokens, mode⟩ := scanner
  cases mode with
  | between =>
    cases h
    rw [List.reverse_reverse]
    rfl
  | word read =>
    obtain ⟨token, hw, rfl⟩ := Option.map_eq_some_iff.1 h
    rw [step_word, if_pos hb, hw, Option.map_some, List.reverse_reverse]
  | _ => cases h

theorem step_punctuation (h : scanner.finish = some before) {b : UInt8} {token : Token}
    (hp : punctuation? b = some token) : scanner.step b = some (behind (before ++ [token])) := by
  have hends : endsWord b = true := by rw [endsWord, hp, Option.isSome_some, Bool.or_true]
  have hbegin : begin before.reverse b = ⟨token :: before.reverse, .between⟩ := by
    unfold punctuation? at hp
    split at hp
    all_goals cases hp
    all_goals rfl
  rw [step_of_endsWord h hends, hbegin, behind, List.reverse_append]
  rfl

theorem begin_of_endsWord {b : UInt8} (hb : endsWord b = false) :
    begin tokens b = ⟨tokens, .word [b]⟩ := by
  simp only [endsWord, Bool.or_eq_false_iff, beq_eq_false_iff_ne, Option.isSome_eq_false_iff,
    Option.isNone_iff_eq_none] at hb
  obtain ⟨⟨hblank, hquote⟩, hpunctuation⟩ := hb
  rw [begin, hblank, if_neg Bool.false_ne_true, if_neg hquote, hpunctuation]

theorem foldlM_word {word : Bytes} (hb : ∀ b ∈ word, endsWord b = false) (read : Bytes) :
    word.foldlM step ⟨tokens, .word read⟩ = some ⟨tokens, .word (word.reverse ++ read)⟩ := by
  induction word generalizing read with
  | nil => rfl
  | cons b word ih =>
    obtain ⟨hhead, hrest⟩ := List.forall_mem_cons.1 hb
    have hstep : step ⟨tokens, .word read⟩ b = some ⟨tokens, .word (b :: read)⟩ := by
      rw [step_word, hhead, if_neg Bool.false_ne_true]
    rw [foldlM_cons hstep, ih hrest, List.reverse_cons, List.append_assoc, List.singleton_append]

end Scanner

end WebAuthn.Json
