/-!
# Sets of texts

* `TextSet` — a set of texts as its members in strictly ascending order, so that equal sets are equal values;
* `TextSet.ofList` — the members of a list; `TextSet.mem_ofList` says that it has no others.
-/

namespace WebAuthn

structure TextSet where
  members : List String
  ascending : members.Pairwise (· < ·)
  deriving DecidableEq

namespace TextSet

/-- The ascending list with one more text. -/
def insertInto (text : String) : List String → List String
  | [] => [text]
  | first :: rest =>
    if text < first then text :: first :: rest
    else if text = first then first :: rest
    else first :: insertInto text rest

theorem mem_insertInto {text other : String} {members : List String} :
    other ∈ insertInto text members ↔ other = text ∨ other ∈ members := by
  induction members with
  | nil => simp [insertInto]
  | cons first rest ih =>
    simp only [insertInto]
    split
    · simp
    · split
      · next h => simp [h]
      · simp only [List.mem_cons, ih]
        exact ⟨fun h => by rcases h with h | h | h <;> simp [h], fun h => by rcases h with h | h | h <;> simp [h]⟩

theorem ascending_insertInto {text : String} {members : List String}
    (h : members.Pairwise (· < ·)) : (insertInto text members).Pairwise (· < ·) := by
  induction members with
  | nil => simp [insertInto]
  | cons first rest ih =>
    rw [List.pairwise_cons] at h
    simp only [insertInto]
    split
    · next hlt =>
      rw [List.pairwise_cons, List.pairwise_cons]
      refine ⟨fun other ho => ?_, h⟩
      rcases List.mem_cons.1 ho with rfl | ho
      · exact hlt
      · exact String.lt_trans hlt (h.1 other ho)
    · split
      · exact List.pairwise_cons.2 h
      · next hnlt hne =>
        refine List.pairwise_cons.2 ⟨fun other ho => ?_, ih h.2⟩
        rcases mem_insertInto.1 ho with rfl | ho
        · have hle : first ≤ other := String.not_lt.1 hnlt
          exact Std.lt_of_le_of_ne hle (fun e => hne e.symm)
        · exact h.1 other ho

def ofList (texts : List String) : TextSet :=
  texts.foldr (fun text set => ⟨insertInto text set.members, ascending_insertInto set.ascending⟩)
    ⟨[], List.Pairwise.nil⟩

theorem mem_ofList {text : String} {texts : List String} :
    text ∈ (ofList texts).members ↔ text ∈ texts := by
  induction texts with
  | nil => simp [ofList]
  | cons first rest ih =>
    have : (ofList (first :: rest)).members = insertInto first (ofList rest).members := rfl
    rw [this, mem_insertInto, ih, List.mem_cons]

end TextSet

end WebAuthn
