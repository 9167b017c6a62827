import WebAuthn.Audited
import WebAuthn.Base64Url

/-!
# Challenges

* `Challenge` — a nonce of at least sixteen bytes;
* `Challenge.ofBytes`, `Challenge.ofBase64Url` — the challenge of a byte string and of its text;
* `Challenge.accepts` — whether presented bytes are the challenge; `accepts_iff` says that it is equality.
-/

namespace WebAuthn

def minimumChallengeLength : Nat := 16

/-- A nonce that a relying party hands out for one ceremony. -/
structure Challenge where
  bytes : Bytes
  long_enough : minimumChallengeLength ≤ bytes.length
  deriving DecidableEq

namespace Challenge

def ofBytes (bytes : Bytes) : Audited Challenge :=
  if h : minimumChallengeLength ≤ bytes.length then pure ⟨bytes, h⟩
  else .refuse (.invalidClientData .challenge)

def ofBase64Url (text : String) : Audited Challenge :=
  match Base64Url.decode text with
  | .ok bytes => ofBytes bytes
  | .error _ =>
    .refuseWith (.invalidClientData .challenge) .debug "challenge base64url decoding error"

/-- The 32-byte challenge of a fresh random value. -/
def ofFixed (bytes : FixedBytes 32) : Challenge :=
  ⟨bytes.bytes, by rw [bytes.length_eq]; decide⟩

def toBase64Url (challenge : Challenge) : String :=
  Base64Url.encode challenge.bytes

def accepts (challenge : Challenge) (presented : Bytes) : Bool :=
  Bytes.same challenge.bytes presented

/-- How a challenge is shown: never its bytes. -/
def shown (_ : Challenge) : String :=
  "Challenge(\"..\")"

theorem accepts_iff (challenge : Challenge) (presented : Bytes) :
    challenge.accepts presented = true ↔ challenge.bytes = presented :=
  Bytes.same_iff _ _

theorem ofBytes_outcome {bytes : Bytes} {challenge : Challenge} :
    (ofBytes bytes).outcome = .ok challenge ↔ challenge.bytes = bytes := by
  obtain ⟨content, long⟩ := challenge
  unfold ofBytes
  by_cases h : minimumChallengeLength ≤ bytes.length
  · rw [dif_pos h]
    simp only [Audited.outcome_pure, Except.ok.injEq, Challenge.mk.injEq]
    exact eq_comm
  · rw [dif_neg h]
    simp only [Audited.outcome_refuse, reduceCtorEq, false_iff]
    rintro rfl
    exact h long

end Challenge

end WebAuthn
