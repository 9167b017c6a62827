import WebAuthn.Policy.Validation
import WebAuthn.Toml.Document

/-!
# Policies as TOML

* `Policy.ofTable?` — the policy of a table; other keys than those of policies mean nothing;
* `Policy.ofToml` — the policy of a text, which also has to make sense.
-/

namespace WebAuthn.Policy

open Toml (Value Table)

/-! ### Values -/

def textOfToml? : Value → Option String
  | .text contents => some contents
  | _ => none

def boolOfToml? : Value → Option Bool
  | .bool value => some value
  | _ => none

/-- The items of an array that are all of one kind. -/
def listOfToml? {α : Type} (item? : Value → Option α) : Value → Option (List α)
  | .array items => items.mapM item?
  | _ => none

def integerOfToml? : Value → Option Int64
  | .integer value => some value
  | _ => none

def naturalOfToml? : Value → Option UInt64
  | .integer value => if 0 ≤ value then some value.toUInt64 else none
  | _ => none

/-- The level that a string names. -/
def userVerificationOfToml? : Value → Option UserVerification
  | .text name => UserVerification.ofName? name
  | _ => none

/-! ### Tables -/

/-- What a key stands for, which has to be there. -/
def required? {α : Type} (table : Table) (key : String) (read? : Value → Option α) : Option α :=
  (table.get? key).bind read?

/-- What a key stands for, if it is there, and a default otherwise. -/
def withDefault? {α : Type} (table : Table) (key : String) (read? : Value → Option α) (default : α) : Option α :=
  match table.get? key with
  | some value => read? value
  | none => some default

def ofTable? (table : Table) : Option Policy := do
  return {
    rpId := ← required? table "rp_id" textOfToml?
    allowedOrigins := ← required? table "allowed_origins" (listOfToml? textOfToml?)
    userVerification := ← withDefault? table "user_verification" userVerificationOfToml? .preferred
    allowCrossOrigin := ← withDefault? table "allow_cross_origin" boolOfToml? false
    allowedAlgorithms :=
      ← withDefault? table "allowed_algorithms" (listOfToml? integerOfToml?) defaultAlgorithms
    challengeTimeoutSeconds :=
      ← withDefault? table "challenge_timeout_seconds" naturalOfToml? defaultTimeoutSeconds }

def ofToml (text : String) : Audited Policy := do
  match (Toml.parse? text).bind ofTable? with
  | none => invalidPolicy "from_toml"
  | some policy =>
    policy.validate
    return policy

end WebAuthn.Policy
