import WebAuthn.Idna.Domain
import WebAuthn.Proofs.Idna.AsciiForm
import WebAuthn.Proofs.Text.Fields
import WebAuthn.Proofs.Unicode.Plain

/-!
# Plain names

* `Unicode.composedForm_plain` — texts of plain code points are composed as they stand;
* `Idna.toAscii?_plain` — a name of plain characters is its own ASCII form, unless one of its labels looks encoded.
-/

namespace WebAuthn

/-! ### Composed form -/

namespace Unicode

variable {codes : List Nat}

theorem decompose_plain (h : ∀ code ∈ codes, isPlain code = true) : decompose codes = codes := by
  induction codes with
  | nil => rfl
  | cons code rest ih =>
    obtain ⟨hcode, hrest⟩ := List.forall_mem_cons.1 h
    have hparts : parts unfoldingDepth code = [code] := by
      unfold unfoldingDepth parts
      rw [pairOf?_of_isPlain hcode]
    have hdecompose := ih hrest
    unfold decompose at hdecompose ⊢
    rw [List.flatMap_cons, hparts, hdecompose]
    rfl

/-- Starters are put behind whatever stands. -/
theorem foldl_placeMark_plain (h : ∀ code ∈ codes, isPlain code = true) (text : List Nat) :
    codes.foldl (fun text code => placeMark code text) text = codes.reverse ++ text := by
  induction codes generalizing text with
  | nil => rfl
  | cons code rest ih =>
    obtain ⟨hcode, hrest⟩ := List.forall_mem_cons.1 h
    have hplace : placeMark code text = code :: text := by
      cases text with
      | nil => rfl
      | cons last before =>
        unfold placeMark
        rw [if_neg fun hmark => hmark.1 (combiningClass_of_isPlain hcode)]
    rw [List.foldl_cons, hplace, ih hrest, List.reverse_cons, List.append_assoc, List.singleton_append]

theorem reorder_plain (h : ∀ code ∈ codes, isPlain code = true) : reorder codes = codes := by
  unfold reorder
  rw [foldl_placeMark_plain h, List.append_nil, List.reverse_reverse]

/-- Starters that do not compose with what stands become the last starter one after the other. -/
theorem text_foldl_add_plain (h : ∀ code ∈ codes, isPlain code = true) (c : Composing) :
    (codes.foldl Composing.add c).text = codes.reverse ++ c.text := by
  induction codes generalizing c with
  | nil => rfl
  | cons code rest ih =>
    obtain ⟨hcode, hrest⟩ := List.forall_mem_cons.1 h
    have hcomposed : c.composed? code = none := by
      unfold Composing.composed?
      split
      · exact Option.bind_eq_none_iff.2 fun starter _ => compose?_of_isPlain starter hcode
      · rfl
    have hadd : c.add code = ⟨c.text, some code, []⟩ := by
      unfold Composing.add
      rw [hcomposed]
      exact if_pos (combiningClass_of_isPlain hcode)
    rw [List.foldl_cons, hadd, ih hrest, List.reverse_cons, List.append_assoc]
    rfl

theorem composedForm_plain (h : ∀ code ∈ codes, isPlain code = true) : composedForm codes = codes := by
  unfold composedForm compose
  rw [decompose_plain h, reorder_plain h, text_foldl_add_plain h]
  show (codes.reverse ++ []).reverse = codes
  rw [List.append_nil, List.reverse_reverse]

end Unicode

/-! ### Names -/

namespace Idna

open Unicode

variable {codes : List Nat}

theorem mapped?_plain (h : ∀ code ∈ codes, isPlain code = true) : mapped? codes = some codes := by
  have hmap : codes.mapM map? = some (codes.map fun code => [code]) := by
    induction codes with
    | nil => rfl
    | cons code rest ih =>
      obtain ⟨hcode, hrest⟩ := List.forall_mem_cons.1 h
      rw [List.mapM_cons, map?_of_isPlain hcode, ih hrest]
      rfl
  have hflatten : (codes.map fun code => [code]).flatten = codes := by
    rw [← List.flatMap_def, List.flatMap_singleton']
  have hallowed : codes.any isForbidden = false := by
    have hforbidden : ∀ code < 123, isPlain code = true → isForbidden code = false := by decide +kernel
    refine List.any_eq_false.2 fun code hcode => Bool.eq_false_iff.1 ?_
    exact hforbidden code (Nat.lt_succ_of_le (le_of_isPlain (h code hcode))) (h code hcode)
  unfold mapped?
  rw [hmap]
  show (if (composedForm (codes.map fun code => [code]).flatten).any isForbidden then none
    else some (composedForm (codes.map fun code => [code]).flatten)) = _
  rw [hflatten, composedForm_plain h, hallowed]
  rfl

/-- The characters of some text are what their numbers stand for. -/
theorem map_ofNat_map_toNat (text : List Char) : (text.map Char.toNat).map Char.ofNat = text := by
  rw [List.map_map]
  exact (List.map_congr_left fun c _ => Char.ofNat_toNat c).trans (List.map_id' text)

/-- The label has plain characters only and does not begin as encoded labels do. -/
def IsPlainLabel (label : List Char) : Prop :=
  (∀ c ∈ label, isPlain c.toNat = true) ∧ ¬ encodedMark.map Char.toNat <+: label.map Char.toNat

-- The instance for the characters of a list is named: all characters are finitely many, so that a search could
-- come up with the one that goes through all of them.
instance : DecidablePred IsPlainLabel := fun label =>
  @instDecidableAnd _ _ (List.decidableBAll _ label) inferInstance

/-- No plain character marks off a host. -/
theorem not_mark_of_isPlain {c : Char} (h : isPlain c.toNat = true) : c ∉ hostMarks := by
  have hmarks : ∀ mark ∈ hostMarks, (!isPlain mark.toNat) = true := List.all_eq_true.1 (by decide)
  intro hmem
  have hnot := hmarks c hmem
  rw [h] at hnot
  cases hnot

/-- The characters between plain labels are plain as well. -/
theorem isPlain_of_mem {name : List Char} (h : ∀ label ∈ Fields.split '.' name, IsPlainLabel label) {c : Char}
    (hc : c ∈ name) : isPlain c.toNat = true := by
  rw [← Fields.intercalate_split '.' name] at hc
  obtain rfl | ⟨label, hlabel, hc⟩ := Fields.mem_intercalate hc
  · decide
  · exact (h label hlabel).1 c hc

/-- A plain label is the same in both of its forms. -/
theorem Label.ofCodes?_plain {label : List Char} (h : IsPlainLabel label) :
    ofCodes? (label.map Char.toNat) = some ⟨label.map Char.toNat, label⟩ := by
  have hascii : isAscii (label.map Char.toNat) = true := by
    refine List.all_eq_true.2 fun code hcode => ?_
    obtain ⟨c, hc, rfl⟩ := List.mem_map.1 hcode
    exact decide_eq_true (Nat.lt_of_le_of_lt (le_of_isPlain (h.1 c hc)) (by decide))
  unfold ofCodes?
  rw [if_neg (by simpa using h.2), if_pos hascii, map_ofNat_map_toNat]

theorem mapM_ofCodes?_plain {labels : List (List Char)} (h : ∀ label ∈ labels, IsPlainLabel label) :
    (labels.map fun label => label.map Char.toNat).mapM Label.ofCodes? =
      some (labels.map fun label => ⟨label.map Char.toNat, label⟩) := by
  induction labels with
  | nil => rfl
  | cons label rest ih =>
    obtain ⟨hlabel, hrest⟩ := List.forall_mem_cons.1 h
    rw [List.map_cons, List.mapM_cons, Label.ofCodes?_plain hlabel, ih hrest]
    rfl

/-- A name of plain labels is its own ASCII form. -/
theorem toAscii?_plain {name : List Char} (h : ∀ label ∈ Fields.split '.' name, IsPlainLabel label) :
    toAscii? name = some name := by
  have hcodes : ∀ code ∈ name.map Char.toNat, isPlain code = true := by
    intro code hcode
    obtain ⟨c, hc, rfl⟩ := List.mem_map.1 hcode
    exact isPlain_of_mem h hc
  have hlabels : splitLabels (name.map Char.toNat) =
      (Fields.split '.' name).map fun label => label.map Char.toNat := by
    unfold splitLabels
    rw [map_ofNat_map_toNat]
  have hdirection : ((Fields.split '.' name).map fun label =>
      (⟨label.map Char.toNat, label⟩ : Label)).any
        (fun label => label.codes.any isRightToLeft) = false := by
    refine List.any_eq_false.2 fun label hlabel => Bool.eq_false_iff.1 ?_
    obtain ⟨field, hfield, rfl⟩ := List.mem_map.1 hlabel
    refine List.any_eq_false.2 fun code hcode => Bool.eq_false_iff.1 ?_
    obtain ⟨c, hc, rfl⟩ := List.mem_map.1 hcode
    exact isRightToLeft_of_isPlain ((h field hfield).1 c hc)
  have hascii : ((Fields.split '.' name).map fun label =>
      (⟨label.map Char.toNat, label⟩ : Label)).map Label.ascii = Fields.split '.' name := by
    rw [List.map_map]
    exact List.map_id' _
  unfold toAscii?
  rw [mapped?_plain hcodes, Option.bind_eq_bind, Option.bind_some, hlabels, mapM_ofCodes?_plain h,
    Option.bind_eq_bind, Option.bind_some, hdirection, Bool.false_and, hascii, Fields.intercalate_split]
  rfl

end Idna

end WebAuthn
