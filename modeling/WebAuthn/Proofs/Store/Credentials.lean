import WebAuthn.Store.Credentials

/-!
# What requests do to the registered credentials

* `CredentialStore.find?_insert`, `find?_setSignCount`, `find?_erase` — what is under an id after each operation;
* `CredentialStore.handle_update`, `handle_insert` — when a sign count or a credential is stored, and what is under its
  id before and after;
* `CredentialRequest.writes`, `CredentialStore.handle_unchanged` — a request that only reads, or that is not answered
  with having stored, changes nothing;
* `CredentialRequest.id`, `CredentialStore.handle_elsewhere` — a request changes nothing but what is under its id;
* `CredentialStore.handle_keeps` — what is under an id stays there, but for its sign count, until it is removed.
-/

namespace WebAuthn

def CredentialRequest.id : CredentialRequest → Bytes
  | .insert credential => credential.id
  | .find id => id
  | .updateSignCount id _ _ => id
  | .remove id => id

/-- Whether a request asks for a change. -/
def CredentialRequest.writes : CredentialRequest → Bool
  | .find _ => false
  | _ => true

namespace CredentialStore

variable {store : CredentialStore} {id : Bytes} {credential : Credential}

/-! ### Operations -/

/-- A credential that is rebuilt has lost nothing. -/
theorem rebuild_eq (credential : Credential) (signCount : UInt32) :
    rebuild credential signCount = credential.withSignCount signCount :=
  rfl

theorem find?_insert (store : CredentialStore) (credential : Credential) (id : Bytes) :
    (store.insert credential).find? id =
      if credential.id = id then some credential else store.find? id := by
  show (((credential.id, credential) :: store.credentials).find? fun entry => decide (entry.1 = id)).map
    Prod.snd = _
  by_cases h : credential.id = id
  · rw [if_pos h, List.find?_cons_of_pos (by simpa using h)]
    rfl
  · rw [if_neg h, List.find?_cons_of_neg (by simpa using h)]
    rfl

theorem find?_setSignCount (store : CredentialStore) (id : Bytes) (signCount : UInt32)
    (other : Bytes) :
    (store.setSignCount id signCount).find? other =
      if other = id then (store.find? id).map fun credential => credential.withSignCount signCount
      else store.find? other := by
  unfold setSignCount find?
  rw [List.find?_map]
  -- all credentials stay under their ids, so that the search stops where it did
  have hsame : ((fun entry : Bytes × Credential => decide (entry.1 = other)) ∘
      fun entry => if entry.1 = id then (entry.1, rebuild entry.2 signCount) else entry) =
      fun entry => decide (entry.1 = other) := by
    funext entry
    show decide ((if entry.1 = id then (entry.1, rebuild entry.2 signCount) else entry).1 = other) = _
    split <;> rfl
  rw [hsame]
  by_cases h : other = id
  · rw [if_pos h, h]
    cases hf : store.credentials.find? fun entry => decide (entry.1 = id) with
    | none => rfl
    | some found =>
      have hfound : found.1 = id := by simpa using List.find?_some hf
      simp only [Option.map_some, if_pos hfound, rebuild_eq]
  · rw [if_neg h]
    cases hf : store.credentials.find? fun entry => decide (entry.1 = other) with
    | none => rfl
    | some found =>
      have hfound : found.1 = other := by simpa using List.find?_some hf
      have hne : ¬ found.1 = id := by rwa [hfound]
      simp only [Option.map_some, if_neg hne]

theorem find?_erase (store : CredentialStore) (id other : Bytes) :
    (store.erase id).find? other = if other = id then none else store.find? other := by
  unfold erase find?
  rw [List.find?_filter]
  by_cases h : other = id
  · rw [if_pos h, Option.map_eq_none_iff, List.find?_eq_none]
    intro entry _
    simp [h]
  · rw [if_neg h]
    congr 2
    funext entry
    have hiff : (entry.1 ≠ id ∧ entry.1 = other) ↔ entry.1 = other :=
      ⟨fun he => he.2, fun he => ⟨by rwa [he], he⟩⟩
    simpa using hiff

/-! ### Requests -/

/-- A credential is stored if there is none under its id. -/
theorem handle_insert (h : (store.handle (.insert credential)).1 = .stored) :
    store.find? credential.id = none ∧
      (store.handle (.insert credential)).2.2.find? credential.id = some credential := by
  simp only [handle] at h ⊢
  cases hf : store.find? credential.id with
  | some _ =>
    simp only [hf] at h
    cases h
  | none =>
    refine ⟨rfl, ?_⟩
    show (store.insert credential).find? credential.id = _
    rw [find?_insert, if_pos rfl]

/-- A credential is found under its id. -/
theorem handle_find (h : (store.handle (.find id)).1 = .credential credential) :
    store.find? id = some credential := by
  simp only [handle] at h
  cases hf : store.find? id with
  | some found =>
    simp only [hf] at h
    cases h
    rfl
  | none =>
    simp only [hf] at h
    cases h

/-- A sign count is stored if the one before it is the expected one. -/
theorem handle_update {expected new : UInt32}
    (h : (store.handle (.updateSignCount id expected new)).1 = .stored) :
    ∃ credential, store.find? id = some credential ∧ credential.signCount = expected ∧
      (store.handle (.updateSignCount id expected new)).2.2.find? id =
        some (credential.withSignCount new) := by
  simp only [handle] at h ⊢
  cases hf : store.find? id with
  | none =>
    simp only [hf] at h
    cases h
  | some credential =>
    simp only [hf] at h ⊢
    split at h
    · next he =>
      refine ⟨credential, rfl, he, ?_⟩
      rw [if_pos he]
      show (store.setSignCount id new).find? id = _
      rw [find?_setSignCount, if_pos rfl, hf]
      rfl
    · cases h

/-- A request that only reads, or that is not answered with having stored, leaves the store as it is. -/
theorem handle_unchanged {request : CredentialRequest}
    (h : request.writes = false ∨ (store.handle request).1 ≠ .stored) :
    (store.handle request).2.2 = store := by
  cases request with
  | find id =>
    simp only [handle]
    split <;> rfl
  | insert credential =>
    have hn := h.resolve_left Bool.noConfusion
    simp only [handle] at hn ⊢
    split
    · rfl
    · next hf =>
      rw [hf] at hn
      exact absurd rfl hn
  | updateSignCount id expected new =>
    have hn := h.resolve_left Bool.noConfusion
    simp only [handle] at hn ⊢
    split
    · rfl
    · next credential hf =>
      simp only [hf] at hn
      split
      · next he =>
        rw [if_pos he] at hn
        exact absurd rfl hn
      · rfl
  | remove id =>
    have hn := h.resolve_left Bool.noConfusion
    simp only [handle] at hn ⊢
    split
    · next hf =>
      rw [hf] at hn
      exact absurd rfl hn
    · rfl

/-- A request changes nothing but what is under its id. -/
theorem handle_elsewhere {request : CredentialRequest} {other : Bytes} (h : other ≠ request.id) :
    (store.handle request).2.2.find? other = store.find? other := by
  cases request with
  | find id =>
    rw [handle_unchanged (.inl rfl)]
  | insert credential =>
    have hne : ¬ credential.id = other := Ne.symm h
    simp only [handle]
    split
    · rfl
    · show (store.insert credential).find? other = _
      rw [find?_insert, if_neg hne]
  | updateSignCount id expected new =>
    have hne : ¬ other = id := h
    simp only [handle]
    split
    · rfl
    · split
      · show (store.setSignCount id new).find? other = _
        rw [find?_setSignCount, if_neg hne]
      · rfl
  | remove id =>
    have hne : ¬ other = id := h
    simp only [handle]
    split
    · show (store.erase id).find? other = _
      rw [find?_erase, if_neg hne]
    · rfl

/-- A credential stays under its id until it is removed, and only its sign count changes, as it is asked for. -/
theorem handle_keeps (h : store.find? id = some credential) (request : CredentialRequest) :
    (request = .remove id ∧ (store.handle request).1 = .stored) ∨
      ∃ signCount,
        (store.handle request).2.2.find? id = some (credential.withSignCount signCount) ∧
        (signCount = credential.signCount ∨
          request = .updateSignCount id credential.signCount signCount ∧
            (store.handle request).1 = .stored) := by
  have hsame : credential = credential.withSignCount credential.signCount := rfl
  cases request with
  | insert other =>
    refine .inr ⟨credential.signCount, ?_, .inl rfl⟩
    simp only [handle]
    cases hf : store.find? other.id with
    | some _ => exact h
    | none =>
      -- the id is taken, so that what is inserted has another one
      have hne : ¬ other.id = id := by
        intro he
        rw [he, h] at hf
        cases hf
      show (store.insert other).find? id = _
      rw [find?_insert, if_neg hne]
      exact h
  | find other =>
    refine .inr ⟨credential.signCount, ?_, .inl rfl⟩
    simp only [handle]
    cases store.find? other <;> exact h
  | updateSignCount other expected new =>
    simp only [handle]
    cases hf : store.find? other with
    | none => exact .inr ⟨credential.signCount, h, .inl rfl⟩
    | some found =>
      simp only
      by_cases he : found.signCount = expected
      · rw [if_pos he]
        by_cases hid : id = other
        · subst hid
          rw [h] at hf
          cases hf
          refine .inr ⟨new, ?_, .inr ⟨by rw [he], rfl⟩⟩
          show (store.setSignCount id new).find? id = _
          rw [find?_setSignCount, if_pos rfl, h]
          rfl
        · refine .inr ⟨credential.signCount, ?_, .inl rfl⟩
          show (store.setSignCount other new).find? id = _
          rw [find?_setSignCount, if_neg hid]
          exact h
      · rw [if_neg he]
        exact .inr ⟨credential.signCount, h, .inl rfl⟩
  | remove other =>
    simp only [handle]
    by_cases hid : id = other
    · subst hid
      rw [h]
      exact .inl ⟨rfl, rfl⟩
    · refine .inr ⟨credential.signCount, ?_, .inl rfl⟩
      cases hf : store.find? other with
      | none => exact h
      | some _ =>
        show (store.erase other).find? id = _
        rw [find?_erase, if_neg hid]
        exact h

end CredentialStore

end WebAuthn
