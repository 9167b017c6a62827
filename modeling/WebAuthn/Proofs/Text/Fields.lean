import WebAuthn.Text.Fields

/-!
# Characters of fields

* `Fields.mem_intercalate` — a character of joined fields is one of a field or the separator;
* `Fields.mem_of_mem_split` — a character of a field is one of the text.
-/

namespace WebAuthn.Fields

variable {separator c : Char}

theorem mem_intercalate {fields : List (List Char)} (h : c ∈ [separator].intercalate fields) :
    c = separator ∨ ∃ field ∈ fields, c ∈ field := by
  induction fields with
  | nil => cases h
  | cons first rest ih =>
    cases rest with
    | nil =>
      rw [List.intercalate_singleton] at h
      exact .inr ⟨first, List.mem_cons_self, h⟩
    | cons second others =>
      rw [List.intercalate_cons_cons, List.append_assoc] at h
      obtain hfirst | h := List.mem_append.1 h
      · exact .inr ⟨first, List.mem_cons_self, hfirst⟩
      · obtain hsep | h := List.mem_append.1 h
        · exact .inl (List.mem_singleton.1 hsep)
        · obtain hsep | ⟨field, hfield, hc⟩ := ih h
          · exact .inl hsep
          · exact .inr ⟨field, List.mem_cons_of_mem _ hfield, hc⟩

theorem mem_of_mem_split {text field : List Char} (h : field ∈ split separator text) (hc : c ∈ field) :
    c ∈ text := by
  induction text generalizing field with
  | nil =>
    rw [split, List.mem_singleton] at h
    exact h ▸ hc
  | cons d rest ih =>
    obtain ⟨first, others, hsplit⟩ := List.exists_cons_of_ne_nil (split_ne_nil separator rest)
    rw [hsplit] at ih
    simp only [split, hsplit, List.headD_cons, List.tail_cons] at h
    split at h
    · obtain rfl | h := List.mem_cons.1 h
      · cases hc
      · exact List.mem_cons_of_mem _ (ih h hc)
    · obtain rfl | h := List.mem_cons.1 h
      · obtain rfl | hc := List.mem_cons.1 hc
        · exact List.mem_cons_self
        · exact List.mem_cons_of_mem _ (ih List.mem_cons_self hc)
      · exact List.mem_cons_of_mem _ (ih (List.mem_cons_of_mem _ h) hc)

end WebAuthn.Fields
