import WebAuthn.Cbor.Value
import WebAuthn.Text.Utf8

/-!
# Writing CBOR

`Cbor.encode` writes every argument in the fewest bytes and every length ahead of its content; entries keep
their order. Integers lie in `-2^64 … 2^64 - 1` and lengths below `2^64` wherever it is used.
-/

namespace WebAuthn.Cbor

/-- The head of an item: its major type and the shortest form of its argument. -/
def head (major argument : Nat) : Bytes :=
  let first := fun info => UInt8.ofNat (32 * major + info)
  if argument < 24 then [first argument]
  else if argument < 256 then first 24 :: Bytes.ofNat 1 argument
  else if argument < 65536 then first 25 :: Bytes.ofNat 2 argument
  else if argument < 4294967296 then first 26 :: Bytes.ofNat 4 argument
  else first 27 :: Bytes.ofNat 8 argument

mutual
/-- The shortest definite-length encoding of a data item. -/
def encode : Value → Bytes
  | .int n => if n < 0 then head 1 (-1 - n).toNat else head 0 n.toNat
  | .bytes content => head 2 content.length ++ content
  | .text content => head 3 (Utf8.encode content).length ++ Utf8.encode content
  | .array items => head 4 items.length ++ encodeItems items
  | .map entries => head 5 entries.length ++ encodeEntries entries
  | .tag number content => head 6 number ++ encode content
  | .bool value => [if value then 0xf5 else 0xf4]
  | .null => [0xf6]

def encodeItems : List Value → Bytes
  | [] => []
  | value :: rest => encode value ++ encodeItems rest

def encodeEntries : List (Value × Value) → Bytes
  | [] => []
  | (key, value) :: rest => encode key ++ (encode value ++ encodeEntries rest)
end

end WebAuthn.Cbor
