import WebAuthn.Idna.Domain
import WebAuthn.Text.Utf8
import WebAuthn.Url.Ipv6

/-!
# Hosts of URLs

* `Host` — a domain, an address, or the host of a scheme whose hosts are not interpreted;
* `Host.ofDomain?`, `Host.uninterpreted?` — the host that a text names in either kind of scheme;
* `Host.toText` — its text in a URL.
-/

namespace WebAuthn

inductive Host where
  | domain (name : String)
  | ipv4 (address : Nat)
  | ipv6 (pieces : List Nat)
  | uninterpreted (text : String)
  deriving DecidableEq, Repr

namespace Host

/-- The bytes of a text with its percent escapes resolved; a percent sign without two digits stands for itself. -/
def percentDecode : Bytes → Bytes
  | [] => []
  | [b] => [b]
  | [b, c] => [b, c]
  | 0x25 :: high :: low :: rest =>
    match Radix.digitValue? 16 (Char.ofNat high.toNat), Radix.digitValue? 16 (Char.ofNat low.toNat) with
    | some h, some l => UInt8.ofNat (16 * h + l) :: percentDecode rest
    | _, _ => 0x25 :: percentDecode (high :: low :: rest)
  | b :: rest => b :: percentDecode rest

/-- The address between brackets. -/
def bracketed? (text : List Char) : Option Host :=
  match text with
  | '[' :: rest =>
    if rest.getLast? = some ']' then (Ipv6.parse? rest.dropLast).map .ipv6 else none
  | _ => none

def ofDomain? (text : List Char) : Option Host :=
  if text.head? = some '[' then bracketed? text
  else do
    let decoded ← Utf8.decode? (percentDecode (Utf8.encode (String.ofList text)))
    let name ← Idna.toAscii? decoded.toList
    if name.isEmpty then none
    else if Ipv4.endsInNumber name then (Ipv4.parse? name).map .ipv4
    else some (.domain (String.ofList name))

/-- Whether a character cannot stand in a host that is not interpreted. -/
def isExcluded (c : Char) : Bool :=
  "\x00\t\n\r #/:<>?@[\\]^|".toList.contains c

/-- The host of a scheme whose hosts are not interpreted. -/
def uninterpreted? (text : List Char) : Option Host :=
  if text.head? = some '[' then bracketed? text
  else if text.any isExcluded then none
  else some (.uninterpreted (String.ofList text))

def toText : Host → String
  | .domain name => name
  | .ipv4 address => Ipv4.toText address
  | .ipv6 pieces => "[" ++ Ipv6.toText pieces ++ "]"
  | .uninterpreted text => text

end Host

end WebAuthn
