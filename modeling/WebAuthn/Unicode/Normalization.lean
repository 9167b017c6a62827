import WebAuthn.Unicode.CombiningClass
import WebAuthn.Unicode.Composition

/-!
# Composed form

* `Unicode.decompose` — the parts of a code point that cannot be taken apart further;
* `Unicode.reorder` — marks behind a starter in ascending order of their classes, equal classes as they stand;
* `Unicode.compose` — pairs put together wherever no mark of the same or a higher class stands between them;
* `Unicode.composedForm` — the three in a row. It is the canonical composition of texts whose code points have no
  canonical equivalent of a single code point.
-/

namespace WebAuthn.Unicode

/-- The most steps in which a composed code point unfolds. -/
def unfoldingDepth : Nat := 8

/-- The parts of a code point, unfolded from the front. -/
def parts : (depth : Nat) → (code : Nat) → List Nat
  | 0, code => [code]
  | depth + 1, code =>
    match pairOf? code with
    | some (first, second) => parts depth first ++ [second]
    | none => [code]

def decompose (codes : List Nat) : List Nat :=
  codes.flatMap (parts unfoldingDepth)

/-- Puts a mark into a reversed text, before the marks of higher classes. -/
def placeMark (code : Nat) : List Nat → List Nat
  | [] => [code]
  | last :: before =>
    if combiningClass code ≠ 0 ∧ combiningClass code < combiningClass last then
      last :: placeMark code before
    else code :: last :: before

def reorder (codes : List Nat) : List Nat :=
  (codes.foldl (fun text code => placeMark code text) []).reverse

/-- A text being composed, in reverse: what is finished, the last starter and the marks behind it. -/
structure Composing where
  finished : List Nat
  starter : Option Nat
  marks : List Nat

namespace Composing

/-- The text as it stands, in reverse. -/
def text (c : Composing) : List Nat :=
  c.marks ++ c.starter.toList ++ c.finished

/-- Whether a code point is next to the starter but for marks of lower classes. -/
def reaches (c : Composing) (code : Nat) : Bool :=
  match c.marks with
  | [] => true
  | last :: _ => combiningClass last < combiningClass code

/-- The starter composed with a code point, if they compose. -/
def composed? (c : Composing) (code : Nat) : Option Nat :=
  if c.reaches code then c.starter.bind fun starter => compose? starter code else none

/-- The text with one more code point. -/
def add (c : Composing) (code : Nat) : Composing :=
  match c.composed? code with
  | some starter => { c with starter := some starter }
  | none =>
    if combiningClass code = 0 then ⟨c.text, some code, []⟩
    else { c with marks := code :: c.marks }

end Composing

/-- The text with its pairs put together. -/
def compose (codes : List Nat) : List Nat :=
  (codes.foldl Composing.add ⟨[], none, []⟩).text.reverse

def composedForm (codes : List Nat) : List Nat :=
  compose (reorder (decompose codes))

end WebAuthn.Unicode
