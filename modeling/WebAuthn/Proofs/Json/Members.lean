import Mathlib.Data.List.Nodup
import WebAuthn.Proofs.Json.Reading
import WebAuthn.Proofs.Json.Spelling

/-!
# The members of a written object

What a reader of records makes of the members of an object, in whatever order and with whatever escapes they are
written.

* `fourDigits_of_member` — literals in a written object have units of four digits;
* `Value.StandsFor` — the value is a string literal that stands for a text;
* `Record.Of`, `Record.Found` — the fields that the members of an object are, and how the reader finds them;
* `Record.distinct_iff`, `Record.lookup_of_mem` — a field that occurs once is found wherever it stands;
* `Record.mem_of_member`, `Record.length_le_count` — no member goes unnoticed.
-/

namespace WebAuthn.Json

/-! ### String literals in written values -/

section Literals

variable {tokens : List Token} {bytes : Bytes} {literal : Text}

theorem Layout.fourDigits (h : Layout tokens bytes) (hl : .text literal ∈ tokens) :
    literal.FourDigits := by
  induction h with
  | nil _ => cases hl
  | cons _ ht _ ih =>
    obtain rfl | hl := List.mem_cons.1 hl
    · cases ht with
      | text hbody => exact hbody.fourDigits
    · exact ih hl

variable {members : List (Text × Value)} {member : Text × Value}

theorem mem_memberTokens (h : member ∈ members) :
    .text member.1 ∈ memberTokens members ∧ ∀ token ∈ member.2.tokens, token ∈ memberTokens members := by
  induction members with
  | nil => cases h
  | cons first rest ih =>
    obtain ⟨name, value⟩ := first
    obtain rfl | h := List.mem_cons.1 h
    · refine ⟨.tail _ (.head _), fun token ht => ?_⟩
      exact .tail _ (.tail _ (.tail _ (List.mem_append_left _ ht)))
    · obtain ⟨hname, hvalue⟩ := ih h
      refine ⟨.tail _ (.tail _ (.tail _ (List.mem_append_right _ hname))), fun token ht => ?_⟩
      exact .tail _ (.tail _ (.tail _ (List.mem_append_right _ (hvalue token ht))))

/-- The first member of an object stands behind a bracket where the others stand behind a comma. -/
theorem mem_tokens_object (h : member ∈ members) {token : Token} (hne : token ≠ .comma)
    (ht : token ∈ memberTokens members) : token ∈ (Value.object members).tokens := by
  cases members with
  | nil => cases h
  | cons first rest =>
    obtain rfl | ht := List.mem_cons.1 ht
    · exact absurd rfl hne
    · exact .tail _ ht

/-- Literals in a written object have units of four digits, as names and as values. -/
theorem fourDigits_of_member (h : (Value.object members).WrittenAs bytes) (hm : member ∈ members) :
    member.1.FourDigits ∧ ∀ literal, member.2 = .text literal → literal.FourDigits := by
  obtain ⟨hname, hvalue⟩ := mem_memberTokens hm
  refine ⟨Layout.fourDigits h (mem_tokens_object hm nofun hname), fun literal hl => ?_⟩
  refine Layout.fourDigits h (mem_tokens_object hm nofun (hvalue _ ?_))
  rw [hl]
  exact .head _

end Literals

/-! ### Single values -/

namespace Value

/-- The value is a string literal that stands for the text. -/
def StandsFor (value : Value) (text : String) : Prop :=
  ∃ literal, value = .text literal ∧ literal.Spells text.toList

variable {value : Value} {text : String}

theorem text?_of_standsFor (h : value.StandsFor text) : value.text? = some text := by
  obtain ⟨literal, rfl, hl⟩ := h
  exact Text.toString?_of_spells hl

theorem standsFor_of_text? (hd : ∀ literal, value = .text literal → literal.FourDigits)
    (h : value.text? = some text) : value.StandsFor text := by
  unfold text? at h
  split at h
  · next literal => exact ⟨literal, rfl, Text.spells_of_toString? (hd literal rfl) h⟩
  · cases h

theorem bool?_eq_some_iff {b : Bool} : value.bool? = some b ↔ value = .bool b := by
  cases value <;> simp [bool?]

end Value

/-! ### Fields -/

namespace Record

variable {members : List (Text × Value)} {fields : Record} {names : List String} {name : String}
  {value : Value}

/-- The fields that the members are, when their names stand for texts. -/
def Of (members : List (Text × Value)) (fields : Record) : Prop :=
  List.Forall₂ (fun member field => member.1.Spells field.1.toList ∧ member.2 = field.2) members fields

/-- The fields as the reader finds them. -/
def Found (members : List (Text × Value)) (fields : Record) : Prop :=
  List.Forall₂ (fun member field => Text.toString? member.1 = some field.1 ∧ member.2 = field.2)
    members fields

theorem found_of_of (h : Of members fields) : Found members fields :=
  h.imp fun _ _ hm => ⟨Text.toString?_of_spells hm.1, hm.2⟩

theorem mapM_eq_some_iff :
    members.mapM (fun member => (Text.toString? member.1).map fun name => (name, member.2)) =
      some fields ↔ Found members fields := by
  unfold Found
  induction members generalizing fields with
  | nil =>
    rw [List.forall₂_nil_left_iff]
    exact ⟨fun h => (Option.some.inj h).symm, fun h => congrArg some h.symm⟩
  | cons member rest ih =>
    rw [List.mapM_cons, List.forall₂_cons_left_iff]
    constructor
    · intro h
      obtain ⟨field, hfield, h⟩ := Option.bind_eq_some_iff.1 h
      obtain ⟨others, hothers, h⟩ := Option.bind_eq_some_iff.1 h
      obtain ⟨name, hname, rfl⟩ := Option.map_eq_some_iff.1 hfield
      cases h
      exact ⟨(name, member.2), others, ⟨hname, rfl⟩, ih.1 hothers, rfl⟩
    · rintro ⟨⟨name, value⟩, others, ⟨hname, rfl⟩, hothers, rfl⟩
      rw [hname, ih.2 hothers]
      rfl

/-- The fields of an object are its members, if none of the given names occurs twice. -/
theorem ofValue?_eq_some_iff :
    ofValue? names (.object members) = some fields ↔ Found members fields ∧ distinct names fields = true := by
  rw [ofValue?, Option.bind_eq_bind, Option.bind_eq_some_iff]
  constructor
  · rintro ⟨found, hfound, h⟩
    split at h
    · next hd =>
      cases h
      exact ⟨mapM_eq_some_iff.1 hfound, hd⟩
    · cases h
  · rintro ⟨hfound, hd⟩
    exact ⟨fields, mapM_eq_some_iff.2 hfound, if_pos hd⟩

theorem distinct_iff :
    distinct names fields = true ↔ ∀ name ∈ names, (fields.map Prod.fst).count name ≤ 1 := by
  simp only [distinct, List.all_eq_true, decide_eq_true_iff, List.count_eq_length_filter,
    List.filter_map, List.length_map, Function.comp_def, beq_eq_decide]

theorem mem_of_lookup (h : fields.lookup name = some value) : (name, value) ∈ fields := by
  obtain ⟨front, back, rfl, -⟩ := List.lookup_eq_some_iff.1 h
  exact List.mem_append_right _ List.mem_cons_self

/-- A field that occurs once is found. -/
theorem lookup_of_mem (hc : (fields.map Prod.fst).count name ≤ 1) (h : (name, value) ∈ fields) :
    fields.lookup name = some value := by
  induction fields with
  | nil => cases h
  | cons field rest ih =>
    obtain ⟨found, content⟩ := field
    rw [List.map_cons] at hc
    by_cases hn : name = found
    · subst hn
      rw [List.count_cons_self] at hc
      have hrest : name ∉ rest.map Prod.fst := List.count_eq_zero.1 (by omega)
      obtain hhead | htail := List.mem_cons.1 h
      · cases hhead
        exact List.lookup_cons_self
      · exact absurd (List.mem_map_of_mem htail) hrest
    · rw [List.count_cons_of_ne (Ne.symm hn)] at hc
      obtain hhead | htail := List.mem_cons.1 h
      · exact absurd (congrArg Prod.fst hhead) hn
      · rw [List.lookup_cons, beq_false_of_ne hn]
        exact ih hc htail

theorem lookup_eq_none (h : name ∉ fields.map Prod.fst) : fields.lookup name = none := by
  refine List.lookup_eq_none_iff.2 fun field hf => bne_iff_ne.2 fun hn => h ?_
  rw [hn]
  exact List.mem_map_of_mem hf

/-- Every field is found under the name of a member. -/
theorem exists_member_of_mem (h : Found members fields) {field : String × Value} (hf : field ∈ fields) :
    ∃ member ∈ members, Text.toString? member.1 = some field.1 ∧ member.2 = field.2 := by
  induction h with
  | nil => cases hf
  | cons hm _ ih =>
    obtain rfl | hf := List.mem_cons.1 hf
    · exact ⟨_, List.mem_cons_self, hm⟩
    · obtain ⟨member, hmember, hsame⟩ := ih hf
      exact ⟨member, List.mem_cons_of_mem _ hmember, hsame⟩

/-- Every member whose name stands for a text is a field. -/
theorem mem_of_member (h : Found members fields) {member : Text × Value} (hm : member ∈ members)
    (hn : member.1.Spells name.toList) : (name, member.2) ∈ fields := by
  induction h with
  | nil => cases hm
  | @cons first field _ _ hfirst _ ih =>
    obtain rfl | hm := List.mem_cons.1 hm
    · obtain ⟨hname, hvalue⟩ := hfirst
      rw [Text.toString?_of_spells hn] at hname
      rw [Option.some.inj hname, hvalue]
      exact List.mem_cons_self
    · exact List.mem_cons_of_mem _ (ih hm)

/-- Members whose names stand for one text are as many fields of this name. -/
theorem length_le_count (h : Found members fields) {alike : List (Text × Value)}
    (hs : alike.Sublist members) (hn : ∀ member ∈ alike, member.1.Spells name.toList) :
    alike.length ≤ (fields.map Prod.fst).count name := by
  induction h generalizing alike with
  | nil =>
    rw [List.sublist_nil.1 hs]
    exact Nat.zero_le _
  | @cons first field _ rest hfirst _ ih =>
    cases hs with
    | cons _ hs =>
      have hcount : (rest.map Prod.fst).count name ≤ ((field :: rest).map Prod.fst).count name :=
        List.count_le_count_cons
      exact Nat.le_trans (ih hs hn) hcount
    | cons_cons _ hs =>
      obtain ⟨hname, hothers⟩ := List.forall_mem_cons.1 hn
      have hfield : field.1 = name := by
        have hread := hfirst.1
        rw [Text.toString?_of_spells hname] at hread
        exact (Option.some.inj hread).symm
      rw [List.map_cons, hfield, List.count_cons_self, List.length_cons]
      exact Nat.succ_le_succ (ih hs hothers)

end Record

end WebAuthn.Json
