import WebAuthn.Text.Fields
import WebAuthn.Text.Hex

/-!
# Universally unique identifiers

* `Uuid` — sixteen bytes;
* `Uuid.toText` — the hyphenated lower-case form, 8-4-4-4-12 digits; `Uuid.ofText?` reads it.
-/

namespace WebAuthn

/-- An identifier of sixteen bytes. -/
structure Uuid where
  content : FixedBytes 16
  deriving DecidableEq

namespace Uuid

def bytes (uuid : Uuid) : Bytes :=
  uuid.content.bytes

def groupLengths : List Nat := [8, 4, 4, 4, 12]

/-- Cuts digits into groups of the given lengths. -/
def groups : (lengths : List Nat) → List Char → List (List Char)
  | [], _ => []
  | length :: rest, digits => digits.take length :: groups rest (digits.drop length)

def toText (uuid : Uuid) : String :=
  String.ofList (['-'].intercalate (groups groupLengths (Hex.encode uuid.bytes)))

def ofText? (text : String) : Option Uuid :=
  let fields := Fields.split '-' text.toList
  if fields.map List.length = groupLengths then do
    let bytes ← Hex.decode? fields.flatten
    return ⟨← FixedBytes.ofBytes? bytes⟩
  else none

end Uuid

end WebAuthn
