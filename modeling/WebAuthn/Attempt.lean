import WebAuthn.Assertion

/-!
# Calls on a credential that is kept in memory

Whoever keeps a credential can present assertions to it without a store. Writing the new sign count down is up to the
caller.

* `Attempt` — a call that presents something to a credential;
* `Attempt.run` — what the caller is told, and the credential that is kept.
-/

namespace WebAuthn

/-- A call that presents something to a credential, with all that it is given. -/
inductive Attempt where
  | authenticate (policy : Policy) (clientDataJson authenticatorData signature : Bytes)
      (challenge : Challenge)
  | authenticateResponse (policy : Policy) (assertion : Assertion) (challenge : Challenge)

namespace Attempt

def policy : Attempt → Policy
  | authenticate policy _ _ _ _ => policy
  | authenticateResponse policy _ _ => policy

/-- What is presented. Bytes alone name neither a credential nor a user. -/
def assertion : Attempt → Assertion
  | authenticate _ clientDataJson authenticatorData signature _ =>
    ⟨clientDataJson, authenticatorData, signature, none, none⟩
  | authenticateResponse _ assertion _ => assertion

def challenge : Attempt → Challenge
  | authenticate _ _ _ _ challenge => challenge
  | authenticateResponse _ _ challenge => challenge

/-- What the caller is told, and the credential that is kept. Its sign count is assigned after all checks passed. -/
def run (attempt : Attempt) (stored : Credential) : Audited Unit × Credential :=
  let result := attempt.assertion.validate attempt.policy stored attempt.challenge
  match result.outcome with
  | .ok signCount => (⟨.ok (), result.log⟩, stored.withSignCount signCount)
  | .error failure => (⟨.error failure, result.log⟩, stored)

end Attempt

end WebAuthn
