import WebAuthn.Idna.Mapping
import WebAuthn.Unicode.CombiningClass
import WebAuthn.Unicode.Direction
import WebAuthn.Unicode.Joining
import WebAuthn.Unicode.Mark

/-!
# Which labels a domain name may have

* `Idna.joinersFit` — every joiner stands behind a virama or, if it only separates, between letters that would
  join;
* `Idna.isDirected` — the label keeps to one direction of writing;
* `Idna.isWellFormed` — no mark begins the label and its joiners fit.
-/

namespace WebAuthn.Idna

open Unicode

/-! ### Joiners -/

/-- The code point that asks its neighbours not to join. -/
def nonJoiner : Nat := 0x200C

/-- The code point that asks its neighbours to join. -/
def joiner : Nat := 0x200D

/-- The joining type of the first code point that joining does not pass over. -/
def nextJoining : List Nat → Joining
  | [] => .none
  | code :: rest => if joining code = .transparent then nextJoining rest else joining code

/-- Whether a non-joiner may stand between the code points before it, nearest first, and those behind it. -/
def separates (before behind : List Nat) : Bool :=
  (nextJoining before = .left || nextJoining before = .dual) &&
    (nextJoining behind = .right || nextJoining behind = .dual)

/-- Whether every joiner of a label fits, given the code points before it, nearest first. -/
def joinersFit : (before label : List Nat) → Bool
  | _, [] => true
  | before, code :: rest =>
    (if code = nonJoiner then
      (before.head?.any isVirama) || separates before rest
    else if code = joiner then before.head?.any isVirama
    else true) && joinersFit (code :: before) rest

/-! ### Directions -/

/-- Whether a code point makes a domain name one with letters written from right to left. -/
def isRightToLeft (code : Nat) : Bool :=
  match direction code with
  | .right | .arabicLetter | .arabicNumber => true
  | _ => false

/-- The classes that a label written from left to right may hold. -/
def fitsLeftToRight (code : Nat) : Bool :=
  match direction code with
  | .right | .arabicLetter | .arabicNumber => false
  | _ => true

/-- The classes that a label written from right to left may hold. -/
def fitsRightToLeft (code : Nat) : Bool :=
  direction code ≠ .left

/-- The class of the last code point that is not a nonspacing mark. -/
def lastDirection (label : List Nat) : Option Direction :=
  ((label.reverse.map direction).dropWhile (· = .nonspacing)).head?

/-- Whether a label is written in one direction. -/
def isDirected (label : List Nat) : Bool :=
  match label.head?.map direction with
  | none => true
  | some .left =>
    label.all fitsLeftToRight &&
      (lastDirection label = some .left || lastDirection label = some .europeanNumber)
  | some .right | some .arabicLetter =>
    label.all fitsRightToLeft &&
      (match lastDirection label with
        | some .right | some .arabicLetter | some .europeanNumber | some .arabicNumber => true
        | _ => false) &&
      !(label.any (direction · = .europeanNumber) && label.any (direction · = .arabicNumber))
  | _ => false

/-! ### Labels -/

/-- Whether no mark begins a label and its joiners fit. -/
def isWellFormed (label : List Nat) : Bool :=
  !label.head?.any marks.contains && joinersFit [] label

end WebAuthn.Idna
