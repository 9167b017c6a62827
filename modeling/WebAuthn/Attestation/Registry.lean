import WebAuthn.Attestation.Statement
import WebAuthn.Text.Quoted

/-!
# The registry of statement formats

* `StatementRegistry` — the verifier that each known format name has. Other names are not accepted;
* `StatementRegistry.register` — gives a name a verifier in place of the one it had;
* `StatementRegistry.lookup?` — the verifier of a name; `lookup?_insert` says what registering changes.
-/

namespace WebAuthn

/-- Format names with their verifiers, each name once. -/
structure StatementRegistry where
  verifiers : List (String × StatementVerifier)

namespace StatementRegistry

def empty : StatementRegistry := ⟨[]⟩

def lookup? (registry : StatementRegistry) (format : String) : Option StatementVerifier :=
  registry.verifiers.lookup format

def insert (registry : StatementRegistry) (format : String) (verifier : StatementVerifier) :
    StatementRegistry :=
  ⟨(format, verifier) :: registry.verifiers.filter fun entry => entry.1 ≠ format⟩

/-- Gives a format name a verifier; replacing one is noted. -/
def register (registry : StatementRegistry) (format : String) (verifier : StatementVerifier) :
    Audited StatementRegistry := do
  if (registry.lookup? format).isSome then
    .note .info s!"attestation verifier replaced -> {format}"
  return registry.insert format verifier

/-- Only the format without proof is known. -/
def standard : StatementRegistry :=
  empty.insert StatementVerifier.noneName StatementVerifier.none

def formats (registry : StatementRegistry) : List String :=
  (registry.verifiers.map (·.1)).mergeSort fun a b => a ≤ b

/-- How a registry is shown: by the names that it knows. -/
def shown (registry : StatementRegistry) : String :=
  "AttestationVerifierRegistry \x7b formats: " ++ Quoted.list registry.formats ++ " \x7d"

def verifierFor (registry : StatementRegistry) (format : String) : Audited StatementVerifier :=
  match registry.lookup? format with
  | some verifier => pure verifier
  | none => .refuse .unsupportedAttestationFormat

private theorem lookup_filter_ne (verifiers : List (String × StatementVerifier)) {format other : String}
    (h : other ≠ format) :
    (verifiers.filter fun entry => entry.1 ≠ format).lookup other = verifiers.lookup other := by
  induction verifiers with
  | nil => rfl
  | cons entry rest ih =>
    obtain ⟨name, verifier⟩ := entry
    by_cases hn : name = format
    · subst hn
      have : (other == name) = false := by simpa using h
      simp only [ne_eq, not_true_eq_false, decide_false, Bool.false_eq_true, not_false_eq_true,
        List.filter_cons_of_neg, List.lookup_cons, this]
      simpa using ih
    · simp only [ne_eq, hn, not_false_eq_true, decide_true, List.filter_cons_of_pos, List.lookup_cons]
      simp only [ne_eq] at ih
      rw [ih]

/-- Registering changes the verifier of one name. -/
theorem lookup?_insert (registry : StatementRegistry) (format other : String)
    (verifier : StatementVerifier) :
    (registry.insert format verifier).lookup? other =
      if other = format then some verifier else registry.lookup? other := by
  unfold insert lookup?
  by_cases h : other = format
  · simp [h]
  · have : (other == format) = false := by simpa using h
    simp only [h, if_false, List.lookup_cons, this]
    exact lookup_filter_ne registry.verifiers h

end StatementRegistry

end WebAuthn
