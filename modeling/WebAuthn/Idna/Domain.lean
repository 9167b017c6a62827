import WebAuthn.Idna.Label
import WebAuthn.Idna.Punycode
import WebAuthn.Text.Fields
import WebAuthn.Unicode.Normalization

/-!
# Domain names in ASCII

* `Idna.mapped?` — the code points of a domain name after mapping and composition;
* `Idna.Label`, `Idna.Label.ofCodes?` — a label in both of its forms;
* `Idna.toAscii?` — the ASCII form of a domain name whose labels are all valid. Labels may be empty and of any
  length that Punycode is used for, and hyphens may stand anywhere.
-/

namespace WebAuthn.Idna

/-! ### Code points -/

/-- The ASCII code points that no domain name of a URL holds. -/
def isForbidden (code : Nat) : Bool :=
  code ≤ 0x20 || code = 0x7F || "%#/:<>?@[\\]^|".toList.any fun c => c.toNat = code

/-- The code points of a domain name after mapping and composition, if none of them is disallowed or forbidden. -/
def mapped? (name : List Nat) : Option (List Nat) := do
  let mapped ← name.mapM map?
  let codes := Unicode.composedForm mapped.flatten
  if codes.any isForbidden then none else some codes

/-! ### Labels -/

/-- A label: its code points, and its ASCII form. -/
structure Label where
  codes : List Nat
  ascii : List Char

def isAscii (codes : List Nat) : Bool :=
  codes.all (· < 128)

/-- What begins the ASCII form of a label that is not ASCII. -/
def encodedMark : List Char := ['x', 'n', '-', '-']

/-- The most code points of a label that is encoded. -/
def maximumEncodable : Nat := 1000

/-- The most characters of an encoded label behind its mark. -/
def maximumDecodable : Nat := 2000

/-- Whether a code point may stand in a label as it is. -/
def isLabelCode (code : Nat) : Bool :=
  isValid code && !isForbidden code && code ≠ '.'.toNat

/-- The label of an encoded form without its mark. It has to stand for a composed text of valid code points that
is not ASCII and not itself marked. -/
def Label.ofEncoded? (form : List Char) : Option Label :=
  if maximumDecodable < form.length then none
  else
    match Punycode.decode? form with
    | some codes =>
      if !isAscii codes && codes.all isLabelCode && Unicode.composedForm codes = codes &&
          !encodedMark.map Char.toNat <+: codes && isWellFormed codes then
        some ⟨codes, encodedMark ++ form⟩
      else none
    | none => none

/-- The label of mapped and composed code points. -/
def Label.ofCodes? (codes : List Nat) : Option Label :=
  if encodedMark.map Char.toNat <+: codes then
    if isAscii codes then Label.ofEncoded? ((codes.drop encodedMark.length).map Char.ofNat) else none
  else if isAscii codes then some ⟨codes, codes.map Char.ofNat⟩
  else if isWellFormed codes && codes.length ≤ maximumEncodable then
    some ⟨codes, encodedMark ++ Punycode.encode codes⟩
  else none

/-! ### Domain names -/

/-- The labels between full stops. -/
def splitLabels (codes : List Nat) : List (List Nat) :=
  (Fields.split '.' (codes.map Char.ofNat)).map fun label => label.map Char.toNat

/-- The ASCII form of a domain name, if its labels are valid and, as soon as one of them has letters written from
right to left, all of them are written in one direction. -/
def toAscii? (name : List Char) : Option (List Char) := do
  let codes ← mapped? (name.map Char.toNat)
  let labels ← (splitLabels codes).mapM Label.ofCodes?
  if labels.any (fun label => label.codes.any isRightToLeft) &&
      !labels.all fun label => isDirected label.codes then none
  else some (['.'].intercalate (labels.map Label.ascii))

end WebAuthn.Idna
