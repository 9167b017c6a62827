import WebAuthn.Idna.Domain
import WebAuthn.Proofs.Text.Fields

/-!
# Characters of ASCII forms

* `Punycode.forall_mem_encode` — what holds of the ASCII code points of a text, of digits and of hyphens holds of the
  characters of its encoding, one lemma for each loop of the encoder;
* `Idna.hostMarks` — the characters that mark off a host in a URL;
* `Idna.not_mark_of_toAscii?` — none of them is in the ASCII form of a domain name, although Punycode and the mapping
  are applied before the labels are put together.
-/

namespace WebAuthn

/-! ### Punycode -/

namespace Punycode

variable {property : Char → Prop} (hdigit : ∀ value < 36, property (digit value))
include hdigit

theorem forall_mem_digits (bias position n : Nat) : ∀ c ∈ digits bias position n, property c := by
  induction position, n using digits.induct bias with
  | case1 position n h =>
    have hb := threshold_bounds position bias
    rw [digits, dif_pos h]
    intro c hc
    rw [List.mem_singleton.1 hc]
    exact hdigit n (by omega)
  | case2 position n h ih =>
    have hb := threshold_bounds position bias
    have hlt := Nat.mod_lt (n - threshold position bias) (show 36 - threshold position bias > 0 by omega)
    rw [digits, dif_neg h]
    exact List.forall_mem_cons.2 ⟨hdigit _ (by omega), ih⟩

theorem Encoding.forall_mem_pass (code next : Nat) {e : Encoding}
    (h : ∀ c ∈ e.written, property c) : ∀ c ∈ (pass code e next).written, property c := by
  unfold pass
  split
  · exact h
  · split
    · exact List.forall_mem_append.2 ⟨h, forall_mem_digits hdigit _ _ _⟩
    · exact h

theorem Encoding.forall_mem_foldl_pass (code : Nat) (text : List Nat) {e : Encoding}
    (h : ∀ c ∈ e.written, property c) : ∀ c ∈ (text.foldl (pass code) e).written, property c := by
  induction text generalizing e with
  | nil => exact h
  | cons next rest ih => exact ih (forall_mem_pass hdigit code next h)

theorem Encoding.forall_mem_place (text codes : List Nat) (next : Nat) {e : Encoding}
    (h : ∀ c ∈ e.written, property c) : ∀ c ∈ (place text codes next e).written, property c := by
  induction codes generalizing next e with
  | nil => exact h
  | cons code rest ih => exact ih _ (forall_mem_foldl_pass hdigit code text h)

theorem forall_mem_encode {text : List Nat} (hdash : property '-')
    (hbasic : ∀ code ∈ text, property (Char.ofNat code)) : ∀ c ∈ encode text, property c := by
  refine Encoding.forall_mem_place hdigit text _ _ (List.forall_mem_append.2 ⟨?_, ?_⟩)
  · intro c hc
    obtain ⟨code, hcode, rfl⟩ := List.mem_map.1 hc
    exact hbasic code (List.mem_filter.1 hcode).1
  · split
    · exact List.forall_mem_nil _
    · exact List.forall_mem_singleton.2 hdash

end Punycode

/-! ### Domain names -/

namespace Idna

/-- The characters that end a host in a URL or stand around it. -/
def hostMarks : List Char := ['/', '\\', '?', '#', '@', ':', '[', ']']

/-- A code point that is not forbidden is none of these characters, nor is what stands in for it if it is no
character. -/
theorem not_mark_of_not_forbidden {code : Nat} (h : isForbidden code = false) :
    Char.ofNat code ∉ hostMarks := by
  have hmarks : ∀ c ∈ hostMarks, isForbidden c.toNat = true := List.all_eq_true.1 (by decide +kernel)
  intro hmem
  by_cases hvalid : code.isValidChar
  · have hcode : (Char.ofNat code).toNat = code := by
      rw [Char.ofNat, dif_pos hvalid]
      rfl
    have hforbidden := hmarks _ hmem
    rw [hcode, h] at hforbidden
    cases hforbidden
  · rw [Char.ofNat, dif_neg hvalid] at hmem
    exact absurd hmem (by decide)

theorem Label.not_mark_of_ofCodes? {codes : List Nat} {label : Label} (h : ofCodes? codes = some label)
    (hcodes : ∀ code ∈ codes, Char.ofNat code ∉ hostMarks) : ∀ c ∈ label.ascii, c ∉ hostMarks := by
  have hmark : ∀ c ∈ encodedMark, c ∉ hostMarks := by simp [encodedMark, hostMarks]
  -- an encoded label is kept, one in ASCII is copied, and any other one is encoded
  unfold ofCodes? at h
  split at h
  · split at h
    · unfold ofEncoded? at h
      split at h
      · cases h
      · split at h
        · split at h
          · cases h
            refine List.forall_mem_append.2 ⟨hmark, ?_⟩
            intro c hc
            obtain ⟨code, hcode, rfl⟩ := List.mem_map.1 hc
            exact hcodes code (List.mem_of_mem_drop hcode)
          · cases h
        · cases h
    · cases h
  · split at h
    · cases h
      intro c hc
      obtain ⟨code, hcode, rfl⟩ := List.mem_map.1 hc
      exact hcodes code hcode
    · split at h
      · cases h
        have hdigit : ∀ value < 36, Punycode.digit value ∉ hostMarks := by decide
        exact List.forall_mem_append.2
          ⟨hmark, Punycode.forall_mem_encode hdigit (by decide) hcodes⟩
      · cases h

theorem exists_of_mem_mapM {α β : Type} {f : α → Option β} {items : List α} {results : List β} {b : β}
    (h : items.mapM f = some results) (hb : b ∈ results) : ∃ a ∈ items, f a = some b := by
  induction items generalizing results with
  | nil =>
    cases h
    cases hb
  | cons a rest ih =>
    rw [List.mapM_cons] at h
    obtain ⟨first, hfirst, h⟩ := Option.bind_eq_some_iff.1 h
    obtain ⟨others, hothers, h⟩ := Option.bind_eq_some_iff.1 h
    cases h
    obtain rfl | hb := List.mem_cons.1 hb
    · exact ⟨a, List.mem_cons_self, hfirst⟩
    · obtain ⟨found, hmem, hfound⟩ := ih hothers hb
      exact ⟨found, List.mem_cons_of_mem _ hmem, hfound⟩

/-- The code points of labels are those of the text, as far as they are characters. -/
theorem ofNat_mem_of_mem_splitLabels {codes label : List Nat} (h : label ∈ splitLabels codes) {code : Nat}
    (hcode : code ∈ label) : Char.ofNat code ∈ codes.map Char.ofNat := by
  obtain ⟨field, hfield, rfl⟩ := List.mem_map.1 h
  obtain ⟨c, hc, rfl⟩ := List.mem_map.1 hcode
  rw [Char.ofNat_toNat]
  exact Fields.mem_of_mem_split hfield hc

/-- An ASCII form has no character that marks off a host. -/
theorem not_mark_of_toAscii? {name text : List Char} (h : toAscii? name = some text) :
    ∀ c ∈ text, c ∉ hostMarks := by
  obtain ⟨codes, hmapped, h⟩ := Option.bind_eq_some_iff.1 h
  obtain ⟨labels, hlabels, h⟩ := Option.bind_eq_some_iff.1 h
  have hcodes : ∀ c ∈ codes.map Char.ofNat, c ∉ hostMarks := by
    obtain ⟨_, _, hmapped⟩ := Option.bind_eq_some_iff.1 hmapped
    simp only at hmapped
    split at hmapped
    · cases hmapped
    · next hallowed =>
      cases hmapped
      intro c hc
      obtain ⟨code, hcode, rfl⟩ := List.mem_map.1 hc
      refine not_mark_of_not_forbidden (Bool.eq_false_iff.2 fun hforbidden => hallowed ?_)
      exact List.any_eq_true.2 ⟨code, hcode, hforbidden⟩
  split at h
  · cases h
  · cases h
    intro c hc
    obtain rfl | ⟨field, hfield, hc⟩ := Fields.mem_intercalate hc
    · decide
    · obtain ⟨label, hlabel, rfl⟩ := List.mem_map.1 hfield
      obtain ⟨own, hown, hread⟩ := exists_of_mem_mapM hlabels hlabel
      exact Label.not_mark_of_ofCodes? hread
        (fun code hcode => hcodes _ (ofNat_mem_of_mem_splitLabels hown hcode)) c hc

end Idna

end WebAuthn
