import WebAuthn.Policy.Toml
import WebAuthn.Proofs.Acceptance.Check
import WebAuthn.Proofs.Url.HostText
import WebAuthn.Proofs.Url.Parsed
import WebAuthn.Proofs.Url.Plain

/-!
# Where the origins of a policy lie

An origin of client data is compared with those of the policy character by character. What such a text can be was
settled when the policy was validated.

* `Policy.Contains` — a host is the relying party id or below it;
* `Policy.WrittenFor` — the texts that are origins of a host;
* `Policy.originFault?_eq_none`, `outcome_validate` — the origins without fault, and the policies that are valid;
* `Policy.originFault?_plain` — the secure origins of hosts with plain names within the id are without fault;
* `Policy.origins_within_id` — every origin that a valid policy accepts is one of these texts for a host within its id.
-/

namespace WebAuthn.Policy

open Audited

/-- The host is the relying party id, or ends with it behind a full stop. -/
def Contains (rpId host : String) : Prop :=
  host = rpId ∨ ∃ front, host = front ++ "." ++ rpId

/-- The text is an origin of the host: its pages are secure, or local ones. A usual port is not written. -/
inductive WrittenFor (host : String) : String → Prop where
  | secure : WrittenFor host ("https://" ++ host)
  | securePort {port : Nat} : port < 65536 → port ≠ 443 →
      WrittenFor host ("https://" ++ host ++ ":" ++ toString port)
  | localhost : host = "localhost" → WrittenFor host "http://localhost"
  | localhostPort {port : Nat} : host = "localhost" → port < 65536 → port ≠ 80 →
      WrittenFor host ("http://localhost:" ++ toString port)

variable {rpId origin : String} {policy : Policy}

/-! ### Origins -/

theorem isWithin_iff {host : String} : isWithin host rpId = true ↔ Contains rpId host := by
  unfold isWithin Contains
  rw [Bool.or_eq_true, decide_eq_true_eq, List.isSuffixOf_iff_suffix]
  refine or_congr_right ⟨?_, ?_⟩
  · intro h
    obtain ⟨front, hfront⟩ := h
    refine ⟨String.ofList front, ?_⟩
    rw [← String.toList_inj, String.toList_append, String.toList_append, String.toList_ofList,
      List.append_assoc, ← hfront]
    rfl
  · intro h
    obtain ⟨front, rfl⟩ := h
    rw [String.toList_append, String.toList_append, List.append_assoc]
    exact ⟨front.toList, rfl⟩

/-- An origin without fault is the serialized origin of a trusted URL without path, whose host is within the id. -/
theorem originFault?_eq_none :
    originFault? rpId origin = none ↔ ∃ url host, Url.parse? origin = some url ∧ url.host = some host ∧
      isSecure url.scheme host = true ∧ url.isBare = true ∧
      Url.origin url.scheme host url.port = origin ∧ Contains rpId host.toText := by
  unfold originFault?
  constructor
  · intro h
    split at h
    · cases h
    · next url hurl =>
      split at h
      · cases h
      · next host hhost =>
        split at h
        · cases h
        · next hsecure =>
          split at h
          · cases h
          · next hbare =>
            split at h
            · cases h
            · next hserialized =>
              split at h
              · cases h
              · next hwithin =>
                simp only [Bool.not_eq_true', Bool.not_eq_false] at hsecure hbare hwithin
                exact ⟨url, host, hurl, hhost, hsecure, hbare, Decidable.of_not_not hserialized,
                  isWithin_iff.1 hwithin⟩
  · intro h
    obtain ⟨url, host, hurl, hhost, hsecure, hbare, hserialized, hwithin⟩ := h
    simp only [hurl, hhost, hsecure, hbare, hserialized, isWithin_iff.2 hwithin, Bool.not_true,
      Bool.false_eq_true, if_false, ne_eq, not_true]

/-- The secure origin of a plain host within the id is one without fault. -/
theorem originFault?_plain {name : List Char} {port : Option Nat}
    (h : ∀ label ∈ Fields.split '.' name, Idna.IsPlainLabel label) (hne : name ≠ [])
    (hnumber : Ipv4.endsInNumber name = false) (hport : ∀ number ∈ port, number < 65536 ∧ number ≠ 443)
    (hwithin : Contains rpId (String.ofList name)) :
    originFault? rpId (Url.origin "https" (.domain (String.ofList name)) port) = none :=
  originFault?_eq_none.2 ⟨_, _, Url.parse?_origin h hne hnumber hport, rfl, rfl, rfl, rfl, hwithin⟩

/-- The serialized origin of a trusted URL is written for its host. -/
theorem writtenFor_origin {scheme : String} {host : Host} {port : Option Nat}
    (hsecure : isSecure scheme host = true) (hlocated : Url.Located scheme (some host) port) :
    WrittenFor host.toText (Url.origin scheme host port) := by
  unfold Url.origin
  simp only [isSecure, Bool.or_eq_true, Bool.and_eq_true, decide_eq_true_eq] at hsecure
  obtain rfl | ⟨rfl, hlocal⟩ := hsecure
  · have hscheme : "https" ++ "://" = "https://" := rfl
    rw [hscheme]
    cases port with
    | none =>
      rw [String.append_empty]
      exact .secure
    | some port =>
      obtain ⟨hlt, hother⟩ := hlocated.2 port rfl
      rw [← String.append_assoc]
      exact .securePort hlt fun hsame => hother (by rw [hsame]; rfl)
  · have hscheme : "http" ++ "://" ++ "localhost" = "http://localhost" := rfl
    have hcolon : "http://localhost" ++ ":" = "http://localhost:" := rfl
    rw [hlocal, hscheme]
    cases port with
    | none =>
      rw [String.append_empty]
      exact .localhost rfl
    | some port =>
      obtain ⟨hlt, hother⟩ := hlocated.2 port rfl
      rw [← String.append_assoc, hcolon]
      exact .localhostPort rfl hlt fun hsame => hother (by rw [hsame]; rfl)

/-- Trusted schemes have a usual port. -/
theorem isSome_defaultPort? {scheme : String} {host : Host} (h : isSecure scheme host = true) :
    (Url.defaultPort? scheme).isSome = true := by
  simp only [isSecure, Bool.or_eq_true, Bool.and_eq_true, decide_eq_true_eq] at h
  obtain rfl | ⟨rfl, _⟩ := h
  · rfl
  · rfl

/-- A host with colons and without full stops, which an address is, is not within an id without colons. -/
theorem Contains.not_address {host : String} (h : Contains rpId host) (hid : ':' ∉ rpId.toList) :
    ¬ (':' ∈ host.toList ∧ '.' ∉ host.toList) := by
  intro haddress
  obtain rfl | ⟨front, rfl⟩ := h
  · exact hid haddress.1
  · refine haddress.2 ?_
    rw [String.toList_append, String.toList_append]
    exact List.mem_append_left _ (List.mem_append_right _ List.mem_cons_self)

/-! ### Policies -/

theorem outcome_validateOrigins {origins : List String} :
    (validateOrigins rpId origins).outcome = .ok () ↔ ∀ origin ∈ origins, originFault? rpId origin = none := by
  induction origins with
  | nil => exact ⟨fun _ => List.forall_mem_nil _, fun _ => rfl⟩
  | cons origin rest ih =>
    unfold validateOrigins
    rw [outcome_bind_ok, List.forall_mem_cons, ← ih]
    unfold validateOrigin
    cases originFault? rpId origin with
    | none => exact ⟨fun ⟨_, _, hrest⟩ => ⟨rfl, hrest⟩, fun ⟨_, hrest⟩ => ⟨(), rfl, hrest⟩⟩
    | some fault => exact ⟨nofun, nofun⟩

/-- A policy is valid if it has an id that is no URL and no host with port, and origins and algorithms, and no origin
has a fault. -/
theorem outcome_validate :
    policy.validate.outcome = .ok () ↔
      (policy.rpId ≠ "" ∧ '/' ∉ policy.rpId.toList ∧ ':' ∉ policy.rpId.toList) ∧
        policy.allowedOrigins ≠ [] ∧ policy.allowedAlgorithms ≠ [] ∧
        ∀ origin ∈ policy.allowedOrigins, originFault? policy.rpId origin = none := by
  have hid : ¬ (decide (policy.rpId = "") || policy.rpId.toList.any fun c => c = '/' || c = ':') = true ↔
      policy.rpId ≠ "" ∧ '/' ∉ policy.rpId.toList ∧ ':' ∉ policy.rpId.toList := by
    simp only [Bool.or_eq_true, List.any_eq_true, decide_eq_true_eq, not_or, not_exists, not_and]
    grind
  rw [← outcome_validateOrigins, ← hid]
  unfold validate
  constructor
  · intro h
    split at h
    · cases h
    · next hvalid =>
      split at h
      · cases h
      · next horigins =>
        split at h
        · cases h
        · next halgorithms =>
          rw [List.isEmpty_iff] at horigins halgorithms
          exact ⟨hvalid, horigins, halgorithms, h⟩
  · intro h
    obtain ⟨hvalid, horigins, halgorithms, h⟩ := h
    rw [if_neg hvalid, if_neg (by rwa [List.isEmpty_iff]), if_neg (by rwa [List.isEmpty_iff])]
    exact h

/-- What is read from a text is valid. -/
theorem valid_of_ofToml {text : String} (h : (ofToml text).outcome = .ok policy) :
    policy.validate.outcome = .ok () := by
  unfold ofToml at h
  split at h
  · cases h
  · obtain ⟨_, hvalid, h⟩ := outcome_bind_ok.1 h
    cases h
    exact hvalid

/-- Whatever origin a valid policy accepts is written as the origin of a host that is the id of the policy or ends with
it behind a full stop, and nothing in the text but the host can be mistaken for one. -/
theorem origins_within_id (policy : Policy)
    (h : policy.validate.outcome = .ok () ∨ ∃ text, (ofToml text).outcome = .ok policy) :
    (policy.rpId ≠ "" ∧ '/' ∉ policy.rpId.toList ∧ ':' ∉ policy.rpId.toList) ∧
    ∀ data : ClientData, (data.verifyOrigin policy.origins).outcome = .ok () →
      ∃ url host, Url.parse? data.origin = some url ∧ url.host = some host ∧ url.isBare = true ∧
        WrittenFor host.toText data.origin ∧ Contains policy.rpId host.toText ∧
        ∀ c ∈ host.toText.toList, c ∉ Idna.hostMarks := by
  have hvalid : policy.validate.outcome = .ok () := by
    obtain hvalid | ⟨_, hread⟩ := h
    · exact hvalid
    · exact valid_of_ofToml hread
  obtain ⟨hid, _, _, horigins⟩ := outcome_validate.1 hvalid
  refine ⟨hid, ?_⟩
  intro data hdata
  have hmem : data.origin ∈ policy.allowedOrigins := by
    unfold ClientData.verifyOrigin requireClientData at hdata
    split at hdata
    · next hcontains => exact List.contains_iff_mem.1 hcontains
    · cases hdata
  obtain ⟨url, host, hurl, hhost, hsecure, hbare, hserialized, hwithin⟩ :=
    originFault?_eq_none.1 (horigins _ hmem)
  have hlocated := Url.located_of_parse? hurl (isSome_defaultPort? hsecure)
  rw [hhost] at hlocated
  obtain ⟨text, htext⟩ := hlocated.1 host rfl
  refine ⟨url, host, hurl, hhost, hbare, ?_, hwithin, ?_⟩
  · rw [← hserialized]
    exact writtenFor_origin hsecure hlocated
  · -- an address with colons is not within an id that has none
    exact (Host.text_of_ofDomain? htext).resolve_right (hwithin.not_address hid.2.2)

/-- An id, with its own origin and that of a domain below it. -/
def samplePolicy : Policy :=
  .standard "fizzy.test" ["https://fizzy.test", "https://app.fizzy.test:8443"]

theorem sample_origins :
    ∀ origin ∈ samplePolicy.allowedOrigins, originFault? samplePolicy.rpId origin = none := by
  have hown : Url.origin "https" (.domain (String.ofList "fizzy.test".toList)) none =
      "https://fizzy.test" := by
    decide
  have hbelow : Url.origin "https" (.domain (String.ofList "app.fizzy.test".toList)) (some 8443) =
      "https://app.fizzy.test:8443" := by
    decide
  refine List.forall_mem_cons.2 ⟨?_, List.forall_mem_singleton.2 ?_⟩
  · rw [← hown]
    exact originFault?_plain (by decide +kernel) (by decide) (by decide +kernel) nofun (.inl (by decide))
  · rw [← hbelow]
    exact originFault?_plain (by decide +kernel) (by decide) (by decide +kernel)
      (by rintro _ ⟨⟩; decide) (.inr ⟨"app", by decide⟩)

/-- The policy is valid, and accepts client data from the origin of the domain below its id. -/
theorem sample_origin_within_id :
    samplePolicy.validate.outcome = .ok () ∧
    ∃ url host, Url.parse? "https://app.fizzy.test:8443" = some url ∧ url.host = some host ∧
      WrittenFor host.toText "https://app.fizzy.test:8443" ∧ Contains "fizzy.test" host.toText := by
  have hvalid : samplePolicy.validate.outcome = .ok () :=
    outcome_validate.2 ⟨by decide, nofun, nofun, sample_origins⟩
  obtain ⟨_, hwithin⟩ := origins_within_id samplePolicy (.inl hvalid)
  obtain ⟨url, host, hurl, hhost, _, hwritten, hcontains, _⟩ := hwithin
    ⟨"webauthn.get", "", "https://app.fizzy.test:8443", none, none⟩ (by decide)
  exact ⟨hvalid, url, host, hurl, hhost, hwritten, hcontains⟩

end WebAuthn.Policy
