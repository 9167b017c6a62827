import WebAuthn.Idna.Label
import WebAuthn.Unicode.Normalization

/-!
# Plain code points

Letters in lower case, digits, hyphens and full stops are in none of the tables: nothing maps, composes or reorders
them, and they are not written from right to left. Each table is looked through once, line by line.

* `Unicode.isPlain` — these code points;
* `CodeRanges.forall_ofLines`, `CodeTable.forall_ofLines` — what holds of each text of each line holds of the table;
* `Unicode.isBeyond` — texts that begin with three digits of a number, which is above all plain code points;
* `Unicode.tablesMiss` — no table has a plain code point;
* `Idna.map?_of_isPlain`, `Unicode.pairOf?_of_isPlain`, `Unicode.combiningClass_of_isPlain`,
  `Idna.isRightToLeft_of_isPlain` — what the tables have to say.
-/

namespace WebAuthn

/-! ### Tables line by line -/

section Lines

/-- Lines are the texts of lists of characters, one line at a time. Each literal is compared with its characters, as
taking it apart would be slow. -/
theorem cons_eq_map_ofList {line : String} {characters : List Char} {rest : List String}
    {others : List (List Char)} (hline : line = String.ofList characters)
    (hrest : rest = others.map String.ofList) :
    line :: rest = (characters :: others).map String.ofList := by
  rw [List.map_cons, ← hline, ← hrest]

/-- A check of lines is a check of their characters. -/
theorem forall_mem_lines {check : List Char → Bool} {lines : List String} {texts : List (List Char)}
    (hlines : lines = texts.map String.ofList) (h : texts.all check = true) :
    ∀ line ∈ lines, check line.toList = true := by
  intro line hline
  rw [hlines] at hline
  obtain ⟨text, htext, rfl⟩ := List.mem_map.1 hline
  rw [String.toList_ofList]
  exact List.all_eq_true.1 h text htext

/-- Whether all texts of a line pass a check. -/
def lineAll (check : List Char → Bool) (line : List Char) : Bool :=
  (Fields.split ' ' line).all check

variable {lines : List String} {check : List Char → Bool}

theorem CodeRanges.forall_ofLines {property : Nat × Nat → Prop}
    (hcheck : ∀ text, check text = true → property (rangeOfText text))
    (h : ∀ line ∈ lines, lineAll check line.toList = true) :
    ∀ range ∈ (ofLines lines).ranges, property range := by
  intro range hrange
  obtain ⟨line, hline, hrange⟩ := List.mem_flatMap.1 hrange
  obtain ⟨text, htext, rfl⟩ := List.mem_map.1 hrange
  exact hcheck text (List.all_eq_true.1 (h line hline) text htext)

theorem CodeTable.forall_ofLines {property : CodeRow → Prop}
    (hcheck : ∀ text, check text = true → property (CodeRow.ofText text))
    (h : ∀ line ∈ lines, lineAll check line.toList = true) :
    ∀ row ∈ (ofLines lines).rows, property row := by
  intro row hrow
  obtain ⟨line, hline, hrow⟩ := List.mem_flatMap.1 hrow
  obtain ⟨text, htext, rfl⟩ := List.mem_map.1 hrow
  exact hcheck text (List.all_eq_true.1 (h line hline) text htext)

end Lines

namespace Unicode

/-! ### Ranges without plain code points -/

/-- Whether a code point is a letter in lower case, a digit, a hyphen or a full stop. -/
def isPlain (code : Nat) : Bool :=
  (45 ≤ code && code ≤ 46) || (48 ≤ code && code ≤ 57) || (97 ≤ code && code ≤ 122)

/-- Whether a range begins behind, ends before or lies between the plain code points. -/
def misses (range : Nat × Nat) : Bool :=
  122 < range.1 || range.2 < 45 || (46 < range.1 && range.2 < 48) || (57 < range.1 && range.2 < 97)

/-- Whether a row has no plain code point. -/
def rowMisses (row : CodeRow) : Bool :=
  misses (row.low, row.high)

variable {code : Nat} {text : List Char}

theorem not_mem_of_misses {range : Nat × Nat} (h : misses range = true) (hplain : isPlain code = true) :
    ¬ (range.1 ≤ code ∧ code ≤ range.2) := by
  simp only [misses, isPlain, Bool.or_eq_true, Bool.and_eq_true, decide_eq_true_eq] at h hplain
  omega

theorem contains_eq_false {set : CodeRanges} (h : ∀ range ∈ set.ranges, misses range = true)
    (hplain : isPlain code = true) : set.contains code = false := by
  refine List.any_eq_false.2 fun range hrange => ?_
  rw [Bool.and_eq_true, decide_eq_true_eq, decide_eq_true_eq]
  exact not_mem_of_misses (h range hrange) hplain

theorem find?_eq_none {table : CodeTable} (h : ∀ row ∈ table.rows, rowMisses row = true)
    (hplain : isPlain code = true) : table.find? code = none := by
  unfold CodeTable.find?
  rw [Option.map_eq_none_iff, List.find?_eq_none]
  intro row hrow
  unfold CodeRow.covers
  rw [Bool.and_eq_true, Bool.and_eq_true, decide_eq_true_eq, decide_eq_true_eq]
  exact fun hcovers => not_mem_of_misses (h row hrow) hplain hcovers.1

/-! ### Texts of ranges and rows -/

/-- Whether a character is none of the signs in the text of a range or row, nor any before the digits. -/
def isDigitMark (c : Char) : Bool :=
  48 ≤ c.toNat && c.toNat ≠ 62

/-- Whether a text begins with three digits, the first of which is not zero. -/
def isBeyond : List Char → Bool
  | a :: b :: c :: _ => isDigitMark a && a.toNat ≠ 48 && isDigitMark b && isDigitMark c
  | _ => false

theorem exists_of_isBeyond (h : isBeyond text = true) : ∃ a b c rest, text = a :: b :: c :: rest ∧
    isDigitMark a = true ∧ a.toNat ≠ 48 ∧ isDigitMark b = true ∧ isDigitMark c = true := by
  match text, h with
  | a :: b :: c :: rest, h =>
    simp only [isBeyond, Bool.and_eq_true, decide_eq_true_eq] at h
    exact ⟨a, b, c, rest, rfl, h.1.1.1, h.1.1.2, h.1.2, h.2⟩

/-- Three digits are at least 256, whatever follows them. -/
theorem le_hexNumber (h : isBeyond text = true) : 256 ≤ Fields.hexNumber text := by
  have hgrows : ∀ (rest : List Char) (n : Nat),
      n ≤ rest.foldl (fun n c => 16 * n + Fields.hexDigit c) n := by
    intro rest
    induction rest with
    | nil => exact Nat.le_refl
    | cons c rest ih => exact fun n => Nat.le_trans (by omega) (ih (16 * n + Fields.hexDigit c))
  obtain ⟨a, b, c, rest, rfl, ha, hzero, _⟩ := exists_of_isBeyond h
  have hdigit : 1 ≤ Fields.hexDigit a := by
    have hnine : '9'.toNat = 57 ∧ '0'.toNat = 48 := by decide
    simp only [isDigitMark, Bool.and_eq_true, decide_eq_true_eq] at ha
    unfold Fields.hexDigit
    split <;> omega
  refine Nat.le_trans ?_ (hgrows rest _)
  show 256 ≤ 16 * (16 * (16 * 0 + Fields.hexDigit a) + Fields.hexDigit b) + Fields.hexDigit c
  omega

/-- The first field of such a text is such a text. -/
theorem isBeyond_split (separator : Char) (hseparator : isDigitMark separator = false)
    (h : isBeyond text = true) :
    ∃ first others, Fields.split separator text = first :: others ∧ isBeyond first = true := by
  obtain ⟨a, b, c, rest, rfl, ha, hzero, hb, hc⟩ := exists_of_isBeyond h
  have hne : ∀ {d : Char}, isDigitMark d = true → d ≠ separator := by
    rintro d hd rfl
    rw [hd] at hseparator
    cases hseparator
  refine ⟨a :: b :: c :: (Fields.split separator rest).headD [], (Fields.split separator rest).tail, ?_, ?_⟩
  · simp only [Fields.split, hne ha, hne hb, hne hc, if_false, List.headD_cons, List.tail_cons]
  · simp only [isBeyond, ha, hb, hc, Bool.and_true, Bool.true_and, decide_eq_true_eq]
    exact hzero

theorem le_low_rangeOfText (h : isBeyond text = true) : 256 ≤ (rangeOfText text).1 := by
  obtain ⟨first, others, hsplit, hfirst⟩ := isBeyond_split '-' (by decide) h
  unfold rangeOfText
  rw [hsplit]
  split
  · next hfields =>
    cases hfields
    exact le_hexNumber hfirst
  · exact le_hexNumber h

theorem misses_of_le {range : Nat × Nat} (h : 256 ≤ range.1) : misses range = true := by
  have hlt : 122 < range.1 := Nat.lt_of_lt_of_le (by decide) h
  simp only [misses, hlt, decide_true, Bool.true_or]

/-- Whether a text of a set shows that its range has no plain code points; most texts show it by their length. -/
def rangeCheck (text : List Char) : Bool :=
  isBeyond text || misses (rangeOfText text)

theorem misses_rangeOfText (text : List Char) (h : rangeCheck text = true) :
    misses (rangeOfText text) = true := by
  obtain h | h := (Bool.or_eq_true _ _).mp h
  · exact misses_of_le (le_low_rangeOfText h)
  · exact h

/-- Whether a text of a table shows that its row has no plain code points. -/
def rowCheck (text : List Char) : Bool :=
  isBeyond text || rowMisses (CodeRow.ofText text)

theorem rowMisses_ofText (text : List Char) (h : rowCheck text = true) :
    rowMisses (CodeRow.ofText text) = true := by
  obtain h | h := (Bool.or_eq_true _ _).mp h
  · obtain ⟨source, _, hsplit, hsource⟩ := isBeyond_split '>' (by decide) h
    obtain ⟨range, _, hsplit', hrange⟩ := isBeyond_split '/' (by decide) hsource
    unfold CodeRow.ofText
    rw [hsplit]
    split
    · next hfields =>
      cases hfields
      simp only
      rw [hsplit']
      split
      · next hfields =>
        cases hfields
        exact misses_of_le (le_low_rangeOfText hrange)
      · exact misses_of_le (le_low_rangeOfText hsource)
    · rfl
  · exact h

def pairMisses (row : CodeRow) : Bool :=
  rowMisses row && !(row.values.drop 1).any isPlain

/-- Whether a text of a table shows this of its row. -/
def pairCheck (text : List Char) : Bool :=
  pairMisses (CodeRow.ofText text)

/-! ### The tables -/

/-- No table has a plain code point. -/
structure TablesMiss : Prop where
  disallowed : ∀ range ∈ Idna.disallowed.ranges, misses range = true
  ignored : ∀ range ∈ Idna.ignored.ranges, misses range = true
  mappings : ∀ row ∈ Idna.mappings.rows, rowMisses row = true
  canonicalPairs : ∀ row ∈ canonicalPairs.rows, pairMisses row = true
  combiningClasses : ∀ row ∈ combiningClasses.rows, rowMisses row = true
  rightToLeft : ∀ range ∈ rightToLeft.ranges, misses range = true
  arabicLetters : ∀ range ∈ arabicLetters.ranges, misses range = true
  arabicNumbers : ∀ range ∈ arabicNumbers.ranges, misses range = true

theorem tablesMiss : TablesMiss := by
  constructor
  case' disallowed | ignored | rightToLeft | arabicLetters | arabicNumbers =>
    refine CodeRanges.forall_ofLines misses_rangeOfText ?_
  case' mappings | combiningClasses =>
    refine CodeTable.forall_ofLines rowMisses_ofText ?_
  case' canonicalPairs =>
    refine CodeTable.forall_ofLines (fun text (h : pairCheck text = true) => h) ?_
  -- what is left of each table is its lines, whose checks are evaluated together
  all_goals
    apply forall_mem_lines
    · repeat apply cons_eq_map_ofList rfl
      exact List.map_nil.symm
    · decide +kernel

/-! ### Composition -/

variable {code : Nat}

theorem le_of_isPlain (h : isPlain code = true) : code ≤ 122 := by
  simp only [isPlain, Bool.or_eq_true, Bool.and_eq_true, decide_eq_true_eq] at h
  omega

/-- A plain code point is not made of two. -/
theorem pairOf?_of_isPlain (h : isPlain code = true) : pairOf? code = none := by
  have hle := le_of_isPlain h
  have hsyllable : syllablePair? code = none := by
    unfold syllablePair? syllableBase
    rw [if_neg (by omega)]
  unfold pairOf?
  rw [hsyllable, find?_eq_none (fun row hrow => (Bool.and_eq_true_iff.1 (tablesMiss.canonicalPairs row hrow)).1) h]

/-- A plain code point does not compose with one before it. -/
theorem compose?_of_isPlain (first : Nat) (h : isPlain code = true) : compose? first code = none := by
  have hle := le_of_isPlain h
  have hsyllable : composeSyllable? first code = none := by
    unfold composeSyllable? vowelBase trailingBase
    rw [if_neg (by omega), if_neg (by omega)]
  unfold compose?
  rw [hsyllable]
  simp only [Option.map_eq_none_iff, List.find?_eq_none, beq_iff_eq]
  intro row hrow hvalues
  have hmisses := (Bool.and_eq_true_iff.1 (tablesMiss.canonicalPairs row hrow)).2
  rw [hvalues] at hmisses
  simp [h] at hmisses

/-- A plain code point is no mark. -/
theorem combiningClass_of_isPlain (h : isPlain code = true) : combiningClass code = 0 := by
  unfold combiningClass
  rw [find?_eq_none tablesMiss.combiningClasses h]

end Unicode

/-! ### Mapping and directions -/

namespace Idna

open Unicode

variable {code : Nat}

/-- A plain code point stands for itself. -/
theorem map?_of_isPlain (h : isPlain code = true) : map? code = some [code] := by
  unfold map?
  rw [contains_eq_false tablesMiss.disallowed h, contains_eq_false tablesMiss.ignored h,
    find?_eq_none tablesMiss.mappings h]
  rfl

/-- A plain code point is not written from right to left. -/
theorem isRightToLeft_of_isPlain (h : isPlain code = true) : isRightToLeft code = false := by
  unfold isRightToLeft direction
  simp only [contains_eq_false tablesMiss.rightToLeft h, contains_eq_false tablesMiss.arabicLetters h,
    contains_eq_false tablesMiss.arabicNumbers h, Bool.false_eq_true, if_false]
  grind

end Idna

end WebAuthn
