import WebAuthn.ClientData
import WebAuthn.Proofs.Acceptance.Check

/-!
# Which client data is accepted

* `ClientData.read?` — the client data that a JSON text spells, if it spells any;
* `ClientData.checks` — what has to hold of a JSON text, for a ceremony with a challenge, in the order of the checks;
* `ClientData.accept_bind_decidedBy` — these checks decide acceptance;
* `ClientData.presented?` — the challenge that a JSON text presents; accepted client data presents the expected one.
-/

namespace WebAuthn.ClientData

open Audited

variable {α : Type} {json : Bytes} {policy : OriginPolicy} {ceremony : Ceremony} {challenge : Challenge}

/-! ### The checks -/

def read? (json : Bytes) : Option ClientData :=
  (Json.parse? json).bind ofJson?

/-- The JSON text spells client data with a property. -/
def Spells (json : Bytes) (property : ClientData → Prop) : Prop :=
  ∃ data, read? json = some data ∧ property data

def checks (json : Bytes) (policy : OriginPolicy) (ceremony : Ceremony) (challenge : Challenge) :
    List Check :=
  [⟨∃ data, read? json = some data, .invalidClientData .json⟩,
    ⟨Spells json fun data => data.type = ceremony.name, .invalidClientData .type⟩,
    ⟨Spells json fun data => Base64Url.decode data.challenge = .ok challenge.bytes,
      .invalidClientData .challenge⟩,
    ⟨Spells json fun data => data.origin ∈ policy.allowedOrigins, .invalidClientData .origin⟩,
    ⟨Spells json fun data => data.crossOrigin = some true → policy.allowCrossOrigin = true,
      .invalidClientData .crossOrigin⟩]

/-! ### Reading -/

theorem outcome_parse_ok {data : ClientData} :
    (parse json).outcome = .ok data ↔ read? json = some data := by
  unfold parse read?
  cases (Json.parse? json).bind ofJson? <;> simp

theorem failsOnlyWith_parse : FailsOnlyWith (.invalidClientData .json) (parse json) := by
  unfold parse
  split
  · exact failsOnlyWith_pure _
  · exact failsOnlyWith_refuseWith _ _

/-- A property of client data that was read is a property of its text. -/
theorem spells_iff {data : ClientData} (h : read? json = some data) (property : ClientData → Prop) :
    property data ↔ Spells json property := by
  unfold Spells
  simp only [h, Option.some.injEq, exists_eq_left']

/-! ### Checking -/

theorem decidedBy_requireClientData {condition : Bool} {holds : Prop} {part : ClientDataPart}
    (h : condition = true ↔ holds) :
    (requireClientData condition part).DecidedBy [⟨holds, .invalidClientData part⟩] (.ok ()) := by
  refine decidedBy_of_iff ?_ h
  cases condition <;> rfl

theorem hasChallenge_iff (data : ClientData) (expected : Challenge) :
    data.hasChallenge expected = true ↔ Base64Url.decode data.challenge = .ok expected.bytes := by
  unfold hasChallenge
  cases Base64Url.decode data.challenge with
  | ok presented =>
    show expected.accepts presented = true ↔ _
    rw [Challenge.accepts_iff, Except.ok.injEq, eq_comm]
  | error e => simp

theorem crossOrigin_iff (data : ClientData) (policy : OriginPolicy) :
    (!data.isCrossOrigin || policy.allowCrossOrigin) = true ↔
      (data.crossOrigin = some true → policy.allowCrossOrigin = true) := by
  unfold isCrossOrigin
  cases data.crossOrigin with
  | none => simp
  | some value => cases value <;> simp

/-- The checks decide whether the text is accepted, and what comes after goes on from there. -/
theorem accept_bind_decidedBy {f : ClientData → Audited α} {more : List Check}
    {outcome : Except Failure α}
    (hf : ∀ data, read? json = some data → (f data).DecidedBy more outcome) :
    (accept json policy ceremony challenge >>= f).DecidedBy
      (checks json policy ceremony challenge ++ more) outcome := by
  unfold accept
  simp only [bind_assoc, pure_bind]
  refine failsOnlyWith_parse.decidedBy_bind (by simp only [outcome_parse_ok]) fun data hd => ?_
  have hr : read? json = some data := outcome_parse_ok.1 hd
  unfold verify
  simp only [bind_assoc]
  refine DecidedBy.bind_cons (decidedBy_requireClientData ?_) <|
    DecidedBy.bind_cons (decidedBy_requireClientData ?_) <|
    DecidedBy.bind_cons (decidedBy_requireClientData ?_) <|
    DecidedBy.bind_cons (decidedBy_requireClientData ?_) (hf data hr)
  · rw [← spells_iff hr, decide_eq_true_eq]
  · rw [← spells_iff hr, hasChallenge_iff]
  · rw [← spells_iff hr, List.contains_iff_mem]
  · rw [← spells_iff hr, crossOrigin_iff]

/-! ### The challenge that is presented -/

def presented? (json : Bytes) : Option Bytes :=
  (read? json).bind fun data => (Base64Url.decode data.challenge).toOption

/-- What is accepted presents the expected challenge. -/
theorem presented?_of_accept {data : ClientData}
    (h : (accept json policy ceremony challenge).outcome = .ok data) :
    presented? json = some challenge.bytes := by
  have hd : (accept json policy ceremony challenge >>= fun _ => pure ()).DecidedBy
      (checks json policy ceremony challenge ++ []) (.ok ()) :=
    accept_bind_decidedBy fun _ _ => decidedBy_nil (pure ())
  have hall := (hd.outcome_ok_iff.1 (outcome_bind_of_ok h _)).1
  rw [List.append_nil] at hall
  obtain ⟨found, hr, hc⟩ :
      Spells json fun data => Base64Url.decode data.challenge = .ok challenge.bytes :=
    hall _ (List.mem_cons_of_mem _ (List.mem_cons_of_mem _ List.mem_cons_self))
  unfold presented?
  rw [hr]
  show (Base64Url.decode found.challenge).toOption = _
  rw [hc]
  rfl

end WebAuthn.ClientData
