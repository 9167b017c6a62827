/-!
# Registered identifiers of keys and signatures

* `Cose.KeyType`, `Cose.Algorithm`, `Cose.Curve` — the supported entries of the COSE registries;
* `identifier` and `ofIdentifier?` of each, inverse to each other (`ofIdentifier?_eq_some`);
* `Cose.Algorithm.keyType` — the type of key that an algorithm works with.
-/

namespace WebAuthn.Cose

/-! ### Key types -/

inductive KeyType where
  | okp
  | ec2
  | rsa
  deriving DecidableEq, Repr

namespace KeyType

def identifier : KeyType → Int
  | .okp => 1
  | .ec2 => 2
  | .rsa => 3

def ofIdentifier? (identifier : Int) : Option KeyType :=
  if identifier = 1 then some .okp
  else if identifier = 2 then some .ec2
  else if identifier = 3 then some .rsa
  else none

theorem ofIdentifier?_eq_some {n : Int} {type : KeyType} :
    ofIdentifier? n = some type ↔ type.identifier = n := by
  unfold ofIdentifier? identifier
  cases type <;> grind

theorem eq_of_identifier_eq {first second : KeyType} (h : first.identifier = second.identifier) :
    first = second :=
  Option.some.inj ((ofIdentifier?_eq_some.2 rfl).symm.trans (ofIdentifier?_eq_some.2 h.symm))

end KeyType

/-! ### Algorithms -/

inductive Algorithm where
  | es256
  | edDsa
  | ps256
  | rs256
  deriving DecidableEq, Repr

namespace Algorithm

def identifier : Algorithm → Int
  | .es256 => -7
  | .edDsa => -8
  | .ps256 => -37
  | .rs256 => -257

def ofIdentifier? (identifier : Int) : Option Algorithm :=
  if identifier = -7 then some .es256
  else if identifier = -8 then some .edDsa
  else if identifier = -37 then some .ps256
  else if identifier = -257 then some .rs256
  else none

theorem ofIdentifier?_eq_some {n : Int} {algorithm : Algorithm} :
    ofIdentifier? n = some algorithm ↔ algorithm.identifier = n := by
  unfold ofIdentifier? identifier
  cases algorithm <;> grind

theorem eq_of_identifier_eq {first second : Algorithm} (h : first.identifier = second.identifier) :
    first = second :=
  Option.some.inj ((ofIdentifier?_eq_some.2 rfl).symm.trans (ofIdentifier?_eq_some.2 h.symm))

def name : Algorithm → String
  | .es256 => "ES256"
  | .edDsa => "EdDSA"
  | .ps256 => "PS256"
  | .rs256 => "RS256"

def keyType : Algorithm → KeyType
  | .es256 => .ec2
  | .edDsa => .okp
  | .ps256 => .rsa
  | .rs256 => .rsa

end Algorithm

/-! ### Curves -/

inductive Curve where
  | p256
  | ed25519
  deriving DecidableEq, Repr

namespace Curve

def identifier : Curve → Int
  | .p256 => 1
  | .ed25519 => 6

def ofIdentifier? (identifier : Int) : Option Curve :=
  if identifier = 1 then some .p256
  else if identifier = 6 then some .ed25519
  else none

theorem ofIdentifier?_eq_some {n : Int} {curve : Curve} :
    ofIdentifier? n = some curve ↔ curve.identifier = n := by
  unfold ofIdentifier? identifier
  cases curve <;> grind

theorem eq_of_identifier_eq {first second : Curve} (h : first.identifier = second.identifier) :
    first = second :=
  Option.some.inj ((ofIdentifier?_eq_some.2 rfl).symm.trans (ofIdentifier?_eq_some.2 h.symm))

end Curve

end WebAuthn.Cose
