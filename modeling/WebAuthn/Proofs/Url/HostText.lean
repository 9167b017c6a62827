import WebAuthn.Url.Host
import WebAuthn.Proofs.Idna.AsciiForm

/-!
# Texts of hosts

* `Ipv4.not_mark_of_toText`, `Ipv6.colon_mem_toText`, `Ipv6.dot_not_mem_toText` — the characters of addresses;
* `Host.text_of_ofDomain?` — a host of a scheme with domains has no character that marks it off, or else it is an
  address with colons and without full stops.
-/

namespace WebAuthn

open Idna (hostMarks)

/-! ### Addresses of four bytes -/

namespace Ipv4

theorem not_mark_of_toString (n : Nat) : ∀ c ∈ (toString n).toList, c ∉ hostMarks := by
  have hmarks : ∀ c ∈ hostMarks, c.isDigit = false := by simp [hostMarks]
  intro c hc hmark
  rw [Nat.toString_eq_ofList_toDigits, String.toList_ofList] at hc
  have hdigit := Nat.isDigit_of_mem_toDigits (by decide) (Nat.le_refl 10) hc
  rw [hmarks c hmark] at hdigit
  cases hdigit

theorem not_mark_of_toText (address : Nat) : ∀ c ∈ (toText address).toList, c ∉ hostMarks := by
  have hdot : ∀ c ∈ ".".toList, c ∉ hostMarks := List.forall_mem_singleton.2 (by decide)
  unfold toText
  simp only [String.toList_append, List.forall_mem_append]
  exact ⟨⟨⟨⟨⟨⟨not_mark_of_toString _, hdot⟩, not_mark_of_toString _⟩, hdot⟩, not_mark_of_toString _⟩,
    hdot⟩, not_mark_of_toString _⟩

end Ipv4

/-! ### Addresses of eight pieces -/

namespace Ipv6

variable {c : Char} {pieces : List Nat}

theorem dot_not_mem_toDigitsCore {fuel n : Nat} {digits : List Char} (hdigits : '.' ∉ digits) :
    '.' ∉ Nat.toDigitsCore 16 fuel n digits := by
  have hdigit : ∀ d < 16, '.' ≠ Nat.digitChar d := by decide
  induction fuel generalizing n digits with
  | zero => exact hdigits
  | succ fuel ih =>
    have hmore : '.' ∉ Nat.digitChar (n % 16) :: digits :=
      List.not_mem_cons_of_ne_of_not_mem (hdigit _ (Nat.mod_lt _ (by decide))) hdigits
    unfold Nat.toDigitsCore
    simp only
    split
    · exact hmore
    · exact ih hmore

theorem dot_not_mem_joined (pieces : List Nat) : '.' ∉ joined pieces := by
  intro hmem
  obtain hcolon | ⟨field, hfield, hdot⟩ := Fields.mem_intercalate hmem
  · exact absurd hcolon (by decide)
  · obtain ⟨piece, _, rfl⟩ := List.mem_map.1 hfield
    exact dot_not_mem_toDigitsCore List.not_mem_nil hdot

theorem dot_not_mem_toText (pieces : List Nat) : '.' ∉ (toText pieces).toList := by
  unfold toText
  simp only
  split
  · rw [String.toList_ofList]
    exact dot_not_mem_joined pieces
  · rw [String.toList_ofList]
    simp only [List.mem_append, not_or]
    exact ⟨⟨dot_not_mem_joined _, by decide⟩, dot_not_mem_joined _⟩

/-- With more than one piece, there is a colon, be it from a run of zeros. -/
theorem colon_mem_toText (h : 2 ≤ pieces.length) : ':' ∈ (toText pieces).toList := by
  unfold toText
  simp only
  split
  · rw [String.toList_ofList]
    obtain ⟨first, rest, rfl⟩ := List.exists_cons_of_length_pos (Nat.lt_of_succ_lt h)
    obtain ⟨second, others, rfl⟩ := List.exists_cons_of_length_pos (Nat.lt_of_succ_lt_succ h)
    unfold joined
    rw [List.map_cons, List.map_cons, List.intercalate_cons_cons]
    exact List.mem_append_left _ (List.mem_append_right _ List.mem_cons_self)
  · rw [String.toList_ofList]
    exact List.mem_append_left _ (List.mem_append_right _ List.mem_cons_self)

/-- Addresses that are read have eight pieces. -/
theorem length_of_parse? {text : List Char} (h : parse? text = some pieces) : pieces.length = 8 := by
  unfold parse? at h
  split at h
  · obtain ⟨front, _, h⟩ := Option.bind_eq_some_iff.1 h
    obtain ⟨back, _, h⟩ := Option.bind_eq_some_iff.1 h
    simp only at h
    split at h
    · cases h
      simp only [List.length_append, List.length_replicate]
      omega
    · cases h
  · obtain ⟨found, _, h⟩ := Option.bind_eq_some_iff.1 h
    split at h
    · next hlength =>
      cases h
      exact hlength
    · cases h

end Ipv6

/-! ### Hosts -/

theorem Host.text_of_ofDomain? {text : List Char} {host : Host} (h : ofDomain? text = some host) :
    (∀ c ∈ host.toText.toList, c ∉ hostMarks) ∨
      ':' ∈ host.toText.toList ∧ '.' ∉ host.toText.toList := by
  unfold ofDomain? at h
  -- in brackets stands an address with colons; anything else ends as a name or an address without marks
  split at h
  · unfold bracketed? at h
    split at h
    · split at h
      · obtain ⟨pieces, hparse, rfl⟩ := Option.map_eq_some_iff.1 h
        have hlength := Ipv6.length_of_parse? hparse
        right
        unfold toText
        rw [String.toList_append, String.toList_append]
        refine ⟨List.mem_append_left _ (List.mem_append_right _ ?_), ?_⟩
        · exact Ipv6.colon_mem_toText (by omega)
        · simp only [List.mem_append, not_or]
          exact ⟨⟨by decide, Ipv6.dot_not_mem_toText pieces⟩, by decide⟩
      · cases h
    · cases h
  · obtain ⟨decoded, _, h⟩ := Option.bind_eq_some_iff.1 h
    obtain ⟨name, hname, h⟩ := Option.bind_eq_some_iff.1 h
    left
    split at h
    · cases h
    · split at h
      · obtain ⟨address, _, rfl⟩ := Option.map_eq_some_iff.1 h
        exact Ipv4.not_mark_of_toText address
      · cases h
        unfold toText
        rw [String.toList_ofList]
        exact Idna.not_mark_of_toAscii? hname

end WebAuthn
