import WebAuthn.Curve.P256
import WebAuthn.Hash.Hmac
import WebAuthn.Signature.Der

/-!
# ECDSA on P-256 with SHA-256

* `Ecdsa.Signature` — two residues, neither of them zero; `Signature.ofDer?` reads the encoded form;
* `Ecdsa.verify` — whether a signature of a message belongs to a public point;
* `Ecdsa.sign` — the signature whose nonce is derived from key and message, with the second residue as it
  comes out, in either half of the range.
-/

namespace WebAuthn.Ecdsa

/-- A signature: two residues modulo the group order. -/
structure Signature where
  r : Nat
  s : Nat
  deriving DecidableEq, Repr

/-- The signature of an encoding whose residues are reduced and not zero. -/
def Signature.ofDer? (bytes : Bytes) : Option Signature :=
  match Der.decodePair? bytes with
  | some (r, s) =>
    if 0 < r ∧ r < P256.order ∧ 0 < s ∧ s < P256.order then some ⟨r, s⟩ else none
  | none => none

def Signature.toDer (signature : Signature) : Bytes :=
  Der.encodePair signature.r signature.s

/-- The number that a message is signed as. -/
def messageNumber (message : Bytes) : Nat :=
  Bytes.toNat (sha256 message) % P256.order

def verify (key : P256.Point) (message : Bytes) (signature : Signature) : Bool :=
  let inverse := Modular.inverse P256.order signature.s
  let u := messageNumber message * inverse % P256.order
  let v := signature.r * inverse % P256.order
  match ((P256.Point.base.scale u).add (key.scale v)).affineX? with
  | some x => x % P256.order == signature.r
  | none => false

/-! ### Signing -/

structure NonceState where
  key : Bytes
  value : Bytes

def NonceState.update (state : NonceState) (data : Bytes) : NonceState :=
  let key := hmacSha256 state.key (state.value ++ data)
  ⟨key, hmacSha256 key state.value⟩

/-- The first nonce of the generator that is a non-zero residue; a generator that yields none in `fuel`
attempts gives one. -/
def NonceState.nonce : (fuel : Nat) → NonceState → Nat
  | 0, _ => 1
  | fuel + 1, state =>
    let value := hmacSha256 state.key state.value
    let candidate := Bytes.toNat value
    if 0 < candidate ∧ candidate < P256.order then candidate
    else nonce fuel (NonceState.update ⟨state.key, value⟩ [0])

/-- The nonce for a secret and a message number. -/
def nonce (secret number : Nat) : Nat :=
  let seed := Bytes.ofNat 32 secret ++ Bytes.ofNat 32 number
  let start : NonceState := ⟨List.replicate 32 0, List.replicate 32 1⟩
  let state := (start.update (0 :: seed)).update (1 :: seed)
  state.nonce 64

def sign (secret : Nat) (message : Bytes) : Signature :=
  let number := messageNumber message
  let k := nonce secret number
  let r := (P256.Point.base.scale k).affineX?.getD 0 % P256.order
  ⟨r, Modular.inverse P256.order k * (number + r * secret) % P256.order⟩

end WebAuthn.Ecdsa
