import WebAuthn.Proofs.Cbor.Recognition

/-!
# Looking up the entries of a map

* `Cbor.Value.lookup_eq_none` — whether there is an entry under a key;
* `Cbor.Value.lookup_eq_some` — with distinct keys, what is found is what stands in the map, wherever it stands;
* `Cbor.Value.lookup_without` — entries under other keys do not matter;
* `Cbor.distinct_of_decode` — maps that are read have distinct keys, and so have the maps in them.
-/

namespace WebAuthn.Cbor

namespace Value

variable {key value : Value} {entries : List (Value × Value)}

theorem lookup_cons (key : Value) (entry : Value × Value) (entries : List (Value × Value)) :
    lookup key (entry :: entries) = if entry.1 = key then some entry.2 else lookup key entries :=
  rfl

theorem mem_of_lookup (h : lookup key entries = some value) : (key, value) ∈ entries := by
  induction entries with
  | nil => cases h
  | cons entry rest ih =>
    rw [lookup_cons] at h
    split at h
    · next hkey =>
      cases h
      rw [← hkey]
      exact List.mem_cons_self
    · exact List.mem_cons_of_mem _ (ih h)

theorem lookup_eq_none : lookup key entries = none ↔ ∀ value, (key, value) ∉ entries := by
  induction entries with
  | nil => simp [lookup]
  | cons entry rest ih =>
    rw [lookup_cons]
    constructor
    · intro h
      split at h
      · cases h
      · next hkey =>
        intro value hmem
        obtain rfl | hrest := List.mem_cons.1 hmem
        · exact hkey rfl
        · exact ih.1 h value hrest
    · intro h
      rw [if_neg fun hkey => h entry.2 (by rw [← hkey]; exact List.mem_cons_self)]
      exact ih.2 fun value hrest => h value (List.mem_cons_of_mem _ hrest)

/-- Where no key occurs twice, the first entry under a key is the only one. -/
theorem lookup_eq_some (h : (entries.map Prod.fst).Nodup) :
    lookup key entries = some value ↔ (key, value) ∈ entries := by
  refine ⟨mem_of_lookup, fun hmem => ?_⟩
  induction entries with
  | nil => cases hmem
  | cons entry rest ih =>
    obtain ⟨hfresh, hrest⟩ := List.nodup_cons.1 h
    rw [lookup_cons]
    obtain rfl | hmem := List.mem_cons.1 hmem
    · exact if_pos rfl
    · have hkey : key ∈ rest.map Prod.fst := List.mem_map_of_mem (f := Prod.fst) hmem
      have hother : entry.1 ≠ key := fun hsame => hfresh (hsame ▸ hkey)
      rw [if_neg hother]
      exact ih hrest hmem

/-- The entries under other keys than one. -/
def without (key : Value) (entries : List (Value × Value)) : List (Value × Value) :=
  entries.filter fun entry => entry.1 ≠ key

theorem lookup_without {other : Value} (h : key ≠ other) :
    lookup key (without other entries) = lookup key entries := by
  induction entries with
  | nil => rfl
  | cons entry rest ih =>
    unfold without at ih ⊢
    by_cases hother : entry.1 = other
    · rw [List.filter_cons_of_neg (by simpa using hother), ih, lookup_cons,
        if_neg fun hkey => h (hkey.symm.trans hother)]
    · rw [List.filter_cons_of_pos (by simpa using hother), lookup_cons, lookup_cons, ih]

end Value

/-! ### Maps that are read -/

variable {limits : Limits} {bytes : Bytes} {key : Value} {entries inner : List (Value × Value)}

/-- A map that is read has distinct keys. -/
theorem distinct_of_decode (h : decode limits bytes = .ok (.map entries)) :
    (entries.map Prod.fst).Nodup := by
  obtain ⟨_, _, _, hkeyed⟩ := decode_eq_ok_iff.1 h
  exact hkeyed.1.2

/-- So has a map that stands in it. -/
theorem distinct_of_decode_mem (h : decode limits bytes = .ok (.map entries))
    (hmem : (key, .map inner) ∈ entries) : (inner.map Prod.fst).Nodup := by
  obtain ⟨_, _, _, hkeyed⟩ := decode_eq_ok_iff.1 h
  have hinner := (Value.keyedEntries_iff.1 hkeyed.2 _ hmem).2
  exact hinner.1.2

end WebAuthn.Cbor
