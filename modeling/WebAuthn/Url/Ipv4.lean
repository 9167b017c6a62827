import WebAuthn.Number.Radix
import WebAuthn.Text.Fields

/-!
# Addresses of four bytes

* `Ipv4.number?` — a part of an address: decimal, octal behind `0`, hexadecimal behind `0x`;
* `Ipv4.endsInNumber` — whether a host has to be read as an address;
* `Ipv4.parse?` — the address of up to four parts, of which the last fills the bytes that are left;
* `Ipv4.toText` — the four bytes in decimal.
-/

namespace WebAuthn.Ipv4

def number? : List Char → Option Nat
  | [] => none
  | '0' :: 'x' :: digits => Radix.ofDigits? 16 digits
  | '0' :: 'X' :: digits => Radix.ofDigits? 16 digits
  | '0' :: d :: digits => Radix.ofDigits? 8 (d :: digits)
  | digits => Radix.ofDigits? 10 digits

/-- The parts of a host; an empty one at the end does not count. -/
def parts (host : List Char) : List (List Char) :=
  let parts := Fields.split '.' host
  if parts.getLast? = some [] then parts.dropLast else parts

/-- Whether the last part is a number, or at least made of decimal digits. -/
def endsInNumber (host : List Char) : Bool :=
  match (parts host).getLast? with
  | some last => (!last.isEmpty && last.all Char.isDigit) || (number? last).isSome
  | none => false

def parse? (host : List Char) : Option Nat := do
  let numbers ← (parts host).mapM number?
  let last ← numbers.getLast?
  let front := numbers.dropLast
  if front.length < 4 ∧ front.all (· < 256) ∧ last < Nat.pow 256 (4 - front.length) then
    some (front.foldl (fun n part => 256 * n + part) 0 * Nat.pow 256 (4 - front.length) + last)
  else none

def toText (address : Nat) : String :=
  let byte := fun i => toString (address / Nat.pow 256 i % 256)
  byte 3 ++ "." ++ byte 2 ++ "." ++ byte 1 ++ "." ++ byte 0

end WebAuthn.Ipv4
