/-!
# How much user verification a relying party asks for

* `UserVerification` — required, preferred or discouraged;
* `UserVerification.name`, `ofName?` — the words used on the wire and in configurations.
-/

namespace WebAuthn

/-- How much user verification a relying party asks for. Only a requirement is ever enforced. -/
inductive UserVerification where
  | required
  | preferred
  | discouraged
  deriving DecidableEq, Repr

namespace UserVerification

def name : UserVerification → String
  | .required => "required"
  | .preferred => "preferred"
  | .discouraged => "discouraged"

def ofName? (name : String) : Option UserVerification :=
  if name = "required" then some .required
  else if name = "preferred" then some .preferred
  else if name = "discouraged" then some .discouraged
  else none

theorem ofName?_name (level : UserVerification) : ofName? level.name = some level := by
  cases level <;> decide

end UserVerification

end WebAuthn
