import WebAuthn.Toml.Number

/-!
# TOML documents

* `Toml.value?`, `Toml.items?`, `Toml.entries?` — the value, the rest of an array, and the rest of a table in braces at
  the beginning of tokens, with the tokens after it, which are fewer;
* `Toml.Document.line?` — a document with one more line;
* `Toml.parse?` — the table that a text spells.
-/

namespace WebAuthn.Toml

/-- Tokens that are fewer than some others. -/
abbrev Fewer (tokens : List Token) := { rest : List Token // rest.length < tokens.length }

/-! ### Spaces -/

def skipBlanks (tokens : List Token) : List Token :=
  tokens.dropWhile (· = .blank)

/-- The tokens behind blanks and line ends. -/
def skipSpace (tokens : List Token) : List Token :=
  tokens.dropWhile fun token => token = .blank || token = .newline

theorem length_dropWhile_le (p : Token → Bool) (tokens : List Token) :
    (tokens.dropWhile p).length ≤ tokens.length :=
  (List.dropWhile_sublist p).length_le

theorem length_skipBlanks_le (tokens : List Token) : (skipBlanks tokens).length ≤ tokens.length :=
  length_dropWhile_le _ tokens

theorem length_skipSpace_le (tokens : List Token) : (skipSpace tokens).length ≤ tokens.length :=
  length_dropWhile_le _ tokens

/-! ### Keys -/

/-- The key of a token: a word, or a string literal on one line. -/
def key? : Token → Option String
  | .word characters => some (String.ofList characters)
  | .text contents false => some contents
  | _ => none

/-- The keys between periods at the beginning of tokens, and the tokens after them and after blanks. -/
def keys? (tokens : List Token) : Option (List String × Fewer tokens) :=
  match tokens with
  | [] => none
  | token :: rest =>
    match key? token with
    | none => none
    | some key =>
      have hrest := length_skipBlanks_le rest
      match h : skipBlanks rest with
      | .period :: more =>
        have hmore := length_skipBlanks_le more
        match keys? (skipBlanks more) with
        | none => none
        | some (keys, ⟨left, hleft⟩) =>
          some (key :: keys, ⟨left, by simp only [h, List.length_cons] at hrest ⊢; omega⟩)
      | left => some ([key], ⟨left, by simp only [h, List.length_cons] at hrest ⊢; omega⟩)
termination_by tokens.length
decreasing_by simp only [h, List.length_cons] at hrest ⊢; omega

/-! ### Numbers -/

theorem length_exponent?_le {left : List Char} {tokens rest : List Token} {n : Int}
    (h : exponent? left tokens = some (n, rest)) : rest.length ≤ tokens.length := by
  simp only [exponent?] at h
  repeat' split at h
  all_goals simp_all
  all_goals omega

theorem length_real?_le {whole fraction left : List Char} {tokens rest : List Token} {value : Value}
    (h : real? whole fraction left tokens = some (value, rest)) : rest.length ≤ tokens.length := by
  simp only [real?] at h
  split at h
  · obtain ⟨⟨exponent, behind⟩, hread, h⟩ := Option.bind_eq_some_iff.1 h
    split at h
    · obtain ⟨-, rfl⟩ := Prod.mk.inj (Option.some.inj h)
      exact length_exponent?_le hread
    · simp at h
  · simp at h

theorem length_number?_le {word : List Char} {tokens rest : List Token} {value : Value}
    (h : number? word tokens = some (value, rest)) : rest.length ≤ tokens.length := by
  have integer {number : Option Int64}
      (h : (number.map fun n => (Value.integer n, tokens)) = some (value, rest)) :
      rest.length ≤ tokens.length := by
    obtain ⟨n, -, h⟩ := Option.map_eq_some_iff.1 h
    exact (Prod.mk.inj h).2 ▸ Nat.le_refl _
  simp only [number?] at h
  split at h
  · exact integer h
  · exact integer h
  · exact integer h
  · split at h
    · obtain ⟨pair, -, h⟩ := Option.bind_eq_some_iff.1 h
      exact length_real?_le h
    · split at h
      · simp only [withFraction?] at h
        split at h
        · have := length_real?_le h
          simp only [List.length_cons]
          omega
        · simp at h
      · simp at h
      · split at h
        · exact (Prod.mk.inj (Option.some.inj h)).2 ▸ Nat.le_refl _
        · exact integer h

/-! ### Values -/

/-- The value that begins with a word, and the tokens after it. -/
def wordValue? (word : List Char) (tokens : List Token) : Option (Value × List Token) :=
  if word = "true".toList then some (.bool true, tokens)
  else if word = "false".toList then some (.bool false, tokens)
  else if isSpecial word || (sign word).1 || (word.headD ' ').isDigit then number? word tokens
  else none

theorem length_wordValue?_le {word : List Char} {tokens rest : List Token} {value : Value}
    (h : wordValue? word tokens = some (value, rest)) : rest.length ≤ tokens.length := by
  simp only [wordValue?] at h
  split at h
  · exact (Prod.mk.inj (Option.some.inj h)).2 ▸ Nat.le_refl _
  · split at h
    · exact (Prod.mk.inj (Option.some.inj h)).2 ▸ Nat.le_refl _
    · split at h
      · exact length_number?_le h
      · simp at h

mutual

/-- The value at the beginning of tokens. -/
def value? (tokens : List Token) : Option (Value × Fewer tokens) :=
  match tokens with
  | .text contents _ :: rest => some (.text contents, ⟨rest, by simp⟩)
  | .word word :: rest =>
    match h : wordValue? word rest with
    | some (value, left) =>
      some (value, ⟨left, by have := length_wordValue?_le h; simp only [List.length_cons]; omega⟩)
    | none => none
  | .plus :: .word word :: rest =>
    match h : number? word rest with
    | some (value, left) =>
      some (value, ⟨left, by have := length_number?_le h; simp only [List.length_cons]; omega⟩)
    | none => none
  | .openBracket :: rest =>
    match items? rest with
    | some (items, ⟨left, h⟩) => some (.array items, ⟨left, by simp only [List.length_cons]; omega⟩)
    | none => none
  | .openBrace :: rest =>
    have hrest := length_skipBlanks_le rest
    -- an empty table ends at once, but no comma may stand before the brace of another one
    match h : skipBlanks rest with
    | .closeBrace :: left =>
      some (.table .inline [], ⟨left, by simp only [h, List.length_cons] at hrest ⊢; omega⟩)
    | _ =>
      match entries? (skipBlanks rest) [] with
      | some (entries, ⟨left, h⟩) =>
        some (.table .inline entries, ⟨left, by simp only [List.length_cons]; omega⟩)
      | none => none
  | _ => none
termination_by 2 * tokens.length

/-- The rest of an array, with its bracket. Items stand between commas, with one after the last perhaps, and lines can
end anywhere around them. -/
def items? (tokens : List Token) : Option (List Value × Fewer tokens) :=
  have htokens := length_skipSpace_le tokens
  match h : skipSpace tokens with
  | .closeBracket :: left => some ([], ⟨left, by simp only [h, List.length_cons] at htokens; omega⟩)
  | _ =>
    match value? (skipSpace tokens) with
    | none => none
    | some (value, ⟨rest, hrest⟩) =>
      have hspace := length_skipSpace_le rest
      match h : skipSpace rest with
      | .comma :: more =>
        have hmore : more.length < tokens.length := by
          simp only [h, List.length_cons] at hspace
          omega
        match items? more with
        | some (items, ⟨left, hleft⟩) => some (value :: items, ⟨left, by omega⟩)
        | none => none
      | .closeBracket :: left =>
        some ([value], ⟨left, by simp only [h, List.length_cons] at hspace; omega⟩)
      | _ => none
termination_by 2 * tokens.length + 1

/-- The rest of a table in braces, with its brace, where at least one more entry has to come. -/
def entries? (tokens : List Token) (read : Table) : Option (Table × Fewer tokens) :=
  match keys? tokens with
  | none => none
  | some (path, ⟨rest, hrest⟩) =>
    match rest with
    | .equals :: behind =>
      have hbehind : (skipBlanks behind).length < tokens.length := by
        have := length_skipBlanks_le behind
        simp only [List.length_cons] at hrest
        omega
      match value? (skipBlanks behind) with
      | none => none
      | some (value, ⟨rest, hvalue⟩) =>
        have hspace := length_skipBlanks_le rest
        match read.assign? path value, h : skipBlanks rest with
        | some read, .comma :: more =>
          have hmore : (skipBlanks more).length < tokens.length := by
            have := length_skipBlanks_le more
            simp only [h, List.length_cons] at hspace
            omega
          match entries? (skipBlanks more) read with
          | some (entries, ⟨left, hleft⟩) => some (entries, ⟨left, by omega⟩)
          | none => none
        | some read, .closeBrace :: left =>
          some (read, ⟨left, by simp only [h, List.length_cons] at hspace; omega⟩)
        | _, _ => none
    | _ => none
termination_by 2 * tokens.length + 1

end

/-! ### Lines -/

/-- A document that is being read: its table, and the path of the last header, to whose table lines belong. -/
structure Document where
  table : Table
  path : List String

namespace Document

def empty : Document := ⟨[], []⟩

/-- The document after a header. -/
def declare? (document : Document) (repeated : Bool) (path : List String) : Option Document :=
  (document.table.declare? repeated path).map fun table => ⟨table, path⟩

/-- The document after a `key = value` line. -/
def assign? (document : Document) (path : List String) (value : Value) : Option Document :=
  (Table.change? document.table document.path fun table => table.assign? path value).map fun table =>
    ⟨table, document.path⟩

/-- The document after the header or `key = value` line at the beginning of tokens, and the tokens behind it. -/
def line? (document : Document) (tokens : List Token) : Option (Document × Fewer tokens) :=
  match tokens with
  | .openBracket :: .openBracket :: rest =>
    have hrest := length_skipBlanks_le rest
    match keys? (skipBlanks rest) with
    | some (path, ⟨.closeBracket :: .closeBracket :: left, h⟩) =>
      (document.declare? true path).map (·, ⟨left, by simp only [List.length_cons] at *; omega⟩)
    | _ => none
  | .openBracket :: rest =>
    have hrest := length_skipBlanks_le rest
    match keys? (skipBlanks rest) with
    | some (path, ⟨.closeBracket :: left, h⟩) =>
      (document.declare? false path).map (·, ⟨left, by simp only [List.length_cons] at *; omega⟩)
    | _ => none
  | tokens =>
    match keys? tokens with
    | some (path, ⟨.equals :: rest, h⟩) =>
      have hrest := length_skipBlanks_le rest
      (value? (skipBlanks rest)).bind fun (value, ⟨left, hleft⟩) =>
        (document.assign? path value).map (·, ⟨left, by simp only [List.length_cons] at *; omega⟩)
    | _ => none

/-- The document after all lines. -/
def lines? (document : Document) (tokens : List Token) : Option Document :=
  have htokens := length_skipSpace_le tokens
  match h : skipSpace tokens with
  | [] => some document
  | first :: others =>
    match document.line? (first :: others) with
    | none => none
    | some (document, ⟨rest, hrest⟩) =>
      have hblanks := length_skipBlanks_le rest
      match hr : skipBlanks rest with
      | [] => some document
      | .newline :: behind =>
        have : behind.length < tokens.length := by
          simp only [h, hr, List.length_cons] at *
          omega
        document.lines? behind
      | _ => none
termination_by tokens.length

end Document

def parse? (text : String) : Option Table :=
  (Token.scan? text).bind fun tokens =>
    (Document.empty.lines? tokens).map (·.table)

end WebAuthn.Toml
