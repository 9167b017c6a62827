/-!
# Why a CBOR input is refused

* `Cbor.Limits` — the bounds that an input is read under, with their defaults;
* `Cbor.Error` — one constructor for each cause, carrying the offset where it shows;
* `Cbor.Error.message` — its wording.
-/

namespace WebAuthn.Cbor

/-- The bounds on an input. -/
structure Limits where
  /-- The most bytes an input may have. -/
  maxLength : Nat := 65536
  /-- The most levels of nesting; a scalar alone is one level. -/
  maxDepth : Nat := 8
  /-- The most entries of one map. -/
  maxMapEntries : Nat := 64
  deriving DecidableEq, Repr

/-- Why an input, or the next item of it, is refused. -/
inductive Error where
  /-- The input is longer than the limit. -/
  | tooLong (length limit : Nat)
  /-- An item would stand deeper than the limit. -/
  | tooDeep (limit : Nat)
  /-- The input ends, or must end, inside an item; the offset is the reader's position. -/
  | truncated (offset : Nat)
  /-- An item begun at the offset has no declared length. -/
  | indefiniteLength (offset : Nat)
  /-- An item begun at the offset is none of the supported kinds. -/
  | unsupported (major info offset : Nat)
  /-- The text begun at the offset is not UTF-8. -/
  | invalidUtf8 (offset : Nat)
  /-- The map begun at the offset declares more entries than the limit. -/
  | tooManyEntries (count limit offset : Nat)
  /-- The key begun at the offset stands earlier in the same map. -/
  | duplicateKey (offset : Nat)
  /-- Bytes follow the one item that was asked for. -/
  | trailingBytes (count : Nat)
  deriving DecidableEq, Repr

def Error.message : Error → String
  | .tooLong length limit => s!"input of {length} bytes exceeds limit of {limit}"
  | .tooDeep limit => s!"nesting exceeds depth limit of {limit}"
  | .truncated offset => s!"unexpected end of input at offset {offset}"
  | .indefiniteLength offset => s!"indefinite length item at offset {offset}"
  | .unsupported major info offset =>
    s!"unsupported item (major {major}, info {info}) at offset {offset}"
  | .invalidUtf8 offset => s!"invalid utf-8 text at offset {offset}"
  | .tooManyEntries count limit offset =>
    s!"map of {count} entries at offset {offset} exceeds limit of {limit}"
  | .duplicateKey offset => s!"duplicate map key at offset {offset}"
  | .trailingBytes count => s!"{count} trailing bytes"

end WebAuthn.Cbor
