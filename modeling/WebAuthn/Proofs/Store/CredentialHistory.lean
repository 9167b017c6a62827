import Mathlib.Data.List.Induction
import Mathlib.Data.List.Nodup
import WebAuthn.Proofs.Store.Credentials

/-!
# Credentials and their history

What the store has under an id is told by the requests made so far and their answers: it is what was registered last
under that id, if that was not removed since, with the sign count that was written last.

* `CredentialStore.after`, `transcript` — a run of requests: the store after it, and the requests with their answers;
* `CredentialStore.Tells` — what a transcript says about an id;
* `CredentialStore.Next` — what one more entry makes of what was told; `tells_append`, `find?_handle` — transcript and
  store both go on in this way; `find?_after_iff` — the induction over runs;
* `CredentialStore.Keyed`, `keyed_after` — every credential stays under its own id, and no id is taken twice;
* `CredentialStore.store_follows_history` — the store after every run, and the answers that it gives.
-/

namespace WebAuthn.CredentialStore

variable {store : CredentialStore} {id : Bytes} {credential record : Credential}

/-! ### Runs -/

/-- A request with its answer. -/
abbrev Entry := CredentialRequest × CredentialResponse

def after (store : CredentialStore) (requests : List CredentialRequest) : CredentialStore :=
  requests.foldl (fun store request => (store.handle request).2.2) store

def transcript (store : CredentialStore) : List CredentialRequest → List Entry
  | [] => []
  | request :: rest => (request, (store.handle request).1) :: (store.handle request).2.2.transcript rest

theorem after_append (store : CredentialStore) (requests : List CredentialRequest)
    (request : CredentialRequest) :
    store.after (requests ++ [request]) = ((store.after requests).handle request).2.2 := by
  rw [after, List.foldl_append]
  rfl

theorem transcript_append (store : CredentialStore) (requests : List CredentialRequest)
    (request : CredentialRequest) :
    store.transcript (requests ++ [request]) =
      store.transcript requests ++ [(request, ((store.after requests).handle request).1)] := by
  induction requests generalizing store with
  | nil => rfl
  | cons first rest ih =>
    rw [List.cons_append, transcript, transcript, ih]
    rfl

/-! ### What a transcript says -/

/-- The sign count that an entry writes under an id, if it was stored. -/
def writtenCount? (id : Bytes) : Entry → Option UInt32
  | (.updateSignCount other _ new, .stored) => if other = id then some new else none
  | _ => none

/-- The sign count that was written last under an id. -/
def lastCount (id : Bytes) (registered : UInt32) (entries : List Entry) : UInt32 :=
  (entries.filterMap (writtenCount? id)).getLastD registered

/-- A credential was registered under the id and not removed since. The record has the sign count that was written last,
and its id, key, owner, transports and format are those of this registration. -/
def Tells (entries : List Entry) (id : Bytes) (record : Credential) : Prop :=
  ∃ before credential since, entries = before ++ (.insert credential, .stored) :: since ∧
    credential.id = id ∧ (CredentialRequest.remove id, CredentialResponse.stored) ∉ since ∧
    record.Recounted credential (lastCount id credential.signCount since)

theorem lastCount_append (id : Bytes) (registered : UInt32) (entries : List Entry) (entry : Entry) :
    lastCount id registered (entries ++ [entry]) =
      (writtenCount? id entry).getD (lastCount id registered entries) := by
  unfold lastCount
  rw [List.filterMap_append]
  cases hw : writtenCount? id entry with
  | none =>
    rw [List.filterMap_cons_none hw, List.filterMap_nil, List.append_nil]
    rfl
  | some new =>
    rw [List.filterMap_cons_some hw, List.filterMap_nil, List.getLastD_concat]
    rfl

/-- One more entry registers the record, or leaves what was told before but for the sign count that it writes. -/
def Next (entry : Entry) (id : Bytes) (told : Credential → Prop) (record : Credential) : Prop :=
  (entry = (.insert record, .stored) ∧ record.id = id) ∨
    (entry ≠ (.remove id, .stored) ∧ ∃ earlier, told earlier ∧
      record.Recounted earlier ((writtenCount? id entry).getD earlier.signCount))

theorem tells_append {entries : List Entry} {entry : Entry} :
    Tells (entries ++ [entry]) id record ↔ Next entry id (Tells entries id) record := by
  constructor
  · intro h
    obtain ⟨before, credential, since, hsplit, hid, hkept, hrecord⟩ := h
    -- the last entry is the registration itself, or one of those after it
    cases since using List.reverseRecOn with
    | nil =>
      have hlast := List.append_inj_right' hsplit rfl
      cases hlast
      obtain rfl : record = credential := Credential.recounted_iff.1 hrecord
      exact .inl ⟨rfl, hid⟩
    | append_singleton since last =>
      have hparts : entries ++ [entry] = (before ++ (.insert credential, .stored) :: since) ++ [last] := by
        simpa using hsplit
      have hentry := List.append_inj_right' hparts rfl
      have hentries := List.append_inj_left' hparts rfl
      cases hentry
      refine .inr ⟨fun he => hkept (by simp [he]), ?_⟩
      have hearlier : (CredentialRequest.remove id, CredentialResponse.stored) ∉ since :=
        fun hm => hkept (List.mem_append_left _ hm)
      -- before the last entry the record had the count that was written last until then
      have hcounted := credential.recounted_withSignCount (lastCount id credential.signCount since)
      refine ⟨_, ⟨before, credential, since, hentries, hid, hearlier, hcounted⟩, ?_⟩
      rw [lastCount_append] at hrecord
      exact hrecord.trans hcounted.symm
  · intro h
    obtain ⟨rfl, hid⟩ | ⟨hne, earlier, ⟨before, credential, since, rfl, hid, hkept, hearlier⟩, hrecord⟩ := h
    · exact ⟨entries, record, [], rfl, hid, List.not_mem_nil, .refl record⟩
    · refine ⟨before, credential, since ++ [entry], by simp, hid, ?_, ?_⟩
      · intro hm
        obtain hm | hm := List.mem_append.1 hm
        · exact hkept hm
        · exact hne (List.mem_singleton.1 hm).symm
      · rw [lastCount_append, ← hearlier.signCount_eq]
        exact hrecord.trans hearlier

/-! ### One request -/

/-- What the store has after a request that was answered with having stored. -/
theorem handle_stored {request : CredentialRequest} (h : (store.handle request).1 = .stored) :
    (store.handle request).2.2 = match request with
      | .insert credential => store.insert credential
      | .find _ => store
      | .updateSignCount id _ new => store.setSignCount id new
      | .remove id => store.erase id := by
  cases request with
  | insert credential =>
    have hnone := (handle_insert h).1
    simp only [handle, hnone]
  | find id => exact handle_unchanged (.inl rfl)
  | updateSignCount id expected new =>
    obtain ⟨credential, hf, he, _⟩ := handle_update h
    simp only [handle, hf, if_pos he]
  | remove id =>
    simp only [handle] at h ⊢
    cases hf : store.find? id with
    | none => simp [hf] at h
    | some credential => rfl

/-- An entry that stores nothing under an id leaves what is there. -/
theorem find?_iff_next {entry : Entry} (hcount : writtenCount? id entry = none)
    (hinsert : ∀ credential, entry = (.insert credential, .stored) → credential.id ≠ id)
    (hremove : entry ≠ (.remove id, .stored)) :
    store.find? id = some record ↔
      Next entry id (fun earlier => store.find? id = some earlier) record := by
  constructor
  · intro hf
    refine .inr ⟨hremove, record, hf, ?_⟩
    rw [hcount]
    exact .refl record
  · intro h
    obtain ⟨he, hid⟩ | ⟨_, earlier, hf, hrecord⟩ := h
    · exact absurd hid (hinsert record he)
    · obtain rfl := Credential.recounted_iff.1 hrecord
      rw [hcount]
      exact hf

theorem find?_insert_iff (hnone : store.find? credential.id = none) :
    (store.insert credential).find? id = some record ↔
      Next (.insert credential, .stored) id (fun earlier => store.find? id = some earlier) record := by
  rw [find?_insert]
  by_cases hid : credential.id = id
  · subst hid
    rw [if_pos rfl]
    constructor
    · intro he
      cases he
      exact .inl ⟨rfl, rfl⟩
    · rintro (⟨he, _⟩ | ⟨_, earlier, hf, _⟩)
      · cases he
        rfl
      · rw [hnone] at hf
        cases hf
  · have hinsert : ∀ other, ((.insert credential, .stored) : Entry) = (.insert other, .stored) →
        other.id ≠ id := by
      intro other he
      cases he
      exact hid
    rw [if_neg hid]
    exact find?_iff_next rfl hinsert (by simp)

theorem find?_setSignCount_iff {other : Bytes} (expected new : UInt32)
    (hf : store.find? other = some credential) :
    (store.setSignCount other new).find? id = some record ↔
      Next (.updateSignCount other expected new, .stored) id
        (fun earlier => store.find? id = some earlier) record := by
  rw [find?_setSignCount]
  by_cases hid : id = other
  · subst hid
    have hcount : writtenCount? id (.updateSignCount id expected new, .stored) = some new := if_pos rfl
    rw [if_pos rfl, hf, Next, hcount]
    constructor
    · intro he
      cases he
      exact .inr ⟨by simp, credential, rfl, credential.recounted_withSignCount new⟩
    · rintro (⟨he, _⟩ | ⟨_, earlier, he, hrecord⟩)
      · cases he
      · cases he
        exact congrArg some (Credential.recounted_iff.1 hrecord).symm
  · have hcount : writtenCount? id (.updateSignCount other expected new, .stored) = none :=
      if_neg (Ne.symm hid)
    rw [if_neg hid]
    exact find?_iff_next hcount (by simp) (by simp)

theorem find?_erase_iff {other : Bytes} :
    (store.erase other).find? id = some record ↔
      Next (.remove other, .stored) id (fun earlier => store.find? id = some earlier) record := by
  rw [find?_erase]
  by_cases hid : id = other
  · subst hid
    rw [if_pos rfl]
    constructor
    · intro he
      cases he
    · rintro (⟨he, _⟩ | ⟨hne, _⟩)
      · cases he
      · exact absurd rfl hne
  · have hremove : ((.remove other, .stored) : Entry) ≠ (.remove id, .stored) := by
      intro he
      cases he
      exact hid rfl
    rw [if_neg hid]
    exact find?_iff_next rfl (by simp) hremove

/-- What is under an id after a request was put there by it, or was there before but for the sign count that it
writes. -/
theorem find?_handle (store : CredentialStore) (request : CredentialRequest) (id : Bytes)
    (record : Credential) :
    (store.handle request).2.2.find? id = some record ↔
      Next (request, (store.handle request).1) id (fun earlier => store.find? id = some earlier)
        record := by
  by_cases hs : (store.handle request).1 = .stored
  · rw [handle_stored hs, hs]
    cases request with
    | insert credential => exact find?_insert_iff (handle_insert hs).1
    | find other =>
      simp only [handle] at hs
      split at hs <;> cases hs
    | updateSignCount other expected new =>
      obtain ⟨credential, hf, _⟩ := handle_update hs
      exact find?_setSignCount_iff expected new hf
    | remove other => exact find?_erase_iff
  · have hcount : writtenCount? id (request, (store.handle request).1) = none := by
      unfold writtenCount?
      split
      · next he => exact absurd (congrArg Prod.snd he) hs
      · rfl
    rw [handle_unchanged (.inr hs)]
    exact find?_iff_next hcount (fun _ he => absurd (congrArg Prod.snd he) hs)
      fun he => hs (congrArg Prod.snd he)

/-! ### Whole runs -/

/-- After a run the store has under an id what the transcript of the run tells. -/
theorem find?_after_iff (requests : List CredentialRequest) (id : Bytes) (record : Credential) :
    (empty.after requests).find? id = some record ↔ Tells (empty.transcript requests) id record := by
  -- from the end of the run: what it tells is settled by the last request and what was told before
  induction requests using List.reverseRecOn generalizing record with
  | nil =>
    constructor
    · intro h
      cases h
    · intro h
      obtain ⟨before, credential, since, hsplit, _⟩ := h
      have hlength := congrArg List.length hsplit
      simp [transcript] at hlength
  | append_singleton rest request ih =>
    rw [after_append, transcript_append, tells_append, find?_handle]
    simp only [Next, ih]

/-- Every credential of the store is under its own id, and no id is taken twice. -/
structure Keyed (store : CredentialStore) : Prop where
  nodup : (store.credentials.map Prod.fst).Nodup
  own_id : ∀ entry ∈ store.credentials, entry.2.id = entry.1

theorem find?_eq_none_iff : store.find? id = none ↔ ∀ entry ∈ store.credentials, entry.1 ≠ id := by
  unfold find?
  rw [Option.map_eq_none_iff, List.find?_eq_none]
  simp

theorem Keyed.insert (h : store.Keyed) (hnone : store.find? credential.id = none) :
    (store.insert credential).Keyed := by
  constructor
  · refine List.nodup_cons.2 ⟨fun hm => ?_, h.nodup⟩
    obtain ⟨entry, he, hid⟩ := List.mem_map.1 hm
    exact find?_eq_none_iff.1 hnone entry he hid
  · exact List.forall_mem_cons.2 ⟨rfl, h.own_id⟩

theorem Keyed.setSignCount (h : store.Keyed) (id : Bytes) (signCount : UInt32) :
    (store.setSignCount id signCount).Keyed := by
  constructor
  · have hids : (store.setSignCount id signCount).credentials.map Prod.fst =
        store.credentials.map Prod.fst := by
      unfold CredentialStore.setSignCount
      rw [List.map_map]
      refine List.map_congr_left fun entry _ => ?_
      show (if entry.1 = id then (entry.1, rebuild entry.2 signCount) else entry).1 = entry.1
      split <;> rfl
    rw [hids]
    exact h.nodup
  · intro entry he
    obtain ⟨earlier, hearlier, rfl⟩ := List.mem_map.1 he
    have hown := h.own_id earlier hearlier
    split
    · exact hown
    · exact hown

theorem Keyed.erase (h : store.Keyed) (id : Bytes) : (store.erase id).Keyed where
  nodup := h.nodup.sublist (List.filter_sublist.map _)
  own_id := fun entry he => h.own_id entry (List.mem_filter.1 he).1

theorem Keyed.handle (h : store.Keyed) (request : CredentialRequest) : (store.handle request).2.2.Keyed := by
  by_cases hs : (store.handle request).1 = .stored
  · rw [handle_stored hs]
    cases request with
    | insert credential => exact h.insert (handle_insert hs).1
    | find id => exact h
    | updateSignCount id expected new => exact h.setSignCount id new
    | remove id => exact h.erase id
  · rw [handle_unchanged (.inr hs)]
    exact h

theorem keyed_after (requests : List CredentialRequest) : (empty.after requests).Keyed := by
  induction requests using List.reverseRecOn with
  | nil => exact ⟨List.nodup_nil, List.forall_mem_nil _⟩
  | append_singleton rest request ih =>
    rw [after_append]
    exact ih.handle request

/-- What is found under an id is what such a store has under it. -/
theorem Keyed.find?_iff (h : store.Keyed) : store.find? id = some record ↔ (id, record) ∈ store.credentials := by
  constructor
  · intro hf
    obtain ⟨⟨key, found⟩, hentry, rfl⟩ := Option.map_eq_some_iff.1 hf
    obtain rfl : key = id := by simpa using List.find?_some hentry
    exact List.mem_of_find?_eq_some hentry
  · intro hm
    cases hf : store.find? id with
    | none => exact absurd rfl (find?_eq_none_iff.1 hf _ hm)
    | some found =>
      obtain ⟨⟨key, other⟩, hentry, rfl⟩ := Option.map_eq_some_iff.1 hf
      have hkey : key = id := by simpa using List.find?_some hentry
      have hsame := List.inj_on_of_nodup_map h.nodup (List.mem_of_find?_eq_some hentry) hm hkey
      exact congrArg (fun entry => some (Prod.snd entry)) hsame

/-! ### Answers -/

theorem handle_insert_iff : (store.handle (.insert credential)).1 = .stored ↔ store.find? credential.id = none := by
  simp only [handle]
  cases store.find? credential.id <;> simp

theorem handle_find_iff : (store.handle (.find id)).1 = .credential record ↔ store.find? id = some record := by
  simp only [handle]
  cases store.find? id <;> simp

theorem handle_update_iff {expected new : UInt32} :
    (store.handle (.updateSignCount id expected new)).1 = .stored ↔
      ∃ record, store.find? id = some record ∧ record.signCount = expected := by
  simp only [handle]
  cases store.find? id with
  | none => simp
  | some found =>
    by_cases he : found.signCount = expected <;> simp [he]

theorem handle_remove_iff : (store.handle (.remove id)).1 = .stored ↔ ∃ record, store.find? id = some record := by
  simp only [handle]
  cases store.find? id <;> simp

/-- After every run of requests from the empty store: each credential is under its own id, and found there; what is under
an id is what was registered last there and not removed since, with the sign count that was written last, and nothing
else about it has changed; each kind of request is answered by what is under its id, a sign count being stored exactly
if the one before is the expected one; a request that is refused changes nothing; and no request changes what is under
another id. -/
theorem store_follows_history (requests : List CredentialRequest) :
    (∀ entry ∈ (empty.after requests).credentials, entry.2.id = entry.1) ∧
    (∀ id record, (empty.after requests).find? id = some record ↔
      (id, record) ∈ (empty.after requests).credentials) ∧
    (∀ id record, (empty.after requests).find? id = some record ↔
      Tells (empty.transcript requests) id record) ∧
    (∀ id expected new, ((empty.after requests).handle (.updateSignCount id expected new)).1 = .stored ↔
      ∃ record, (empty.after requests).find? id = some record ∧ record.signCount = expected) ∧
    (∀ credential, ((empty.after requests).handle (.insert credential)).1 = .stored ↔
      (empty.after requests).find? credential.id = none) ∧
    (∀ id record, ((empty.after requests).handle (.find id)).1 = .credential record ↔
      (empty.after requests).find? id = some record) ∧
    (∀ id, ((empty.after requests).handle (.remove id)).1 = .stored ↔
      ∃ record, (empty.after requests).find? id = some record) ∧
    (∀ request, ((empty.after requests).handle request).1 = .notFound ∨
        ((empty.after requests).handle request).1 = .conflict →
      empty.after (requests ++ [request]) = empty.after requests) ∧
    (∀ (request : CredentialRequest) (id : Bytes), id ≠ request.id →
      (empty.after (requests ++ [request])).find? id = (empty.after requests).find? id) := by
  have hkeyed := keyed_after requests
  refine ⟨hkeyed.own_id, fun id record => hkeyed.find?_iff, find?_after_iff requests, ?_, ?_, ?_, ?_, ?_, ?_⟩
  · exact fun id expected new => handle_update_iff
  · exact fun credential => handle_insert_iff
  · exact fun id record => handle_find_iff
  · exact fun id => handle_remove_iff
  · intro request hrefused
    rw [after_append]
    refine handle_unchanged (.inr fun hs => ?_)
    rw [hs] at hrefused
    obtain h | h := hrefused <;> cases h
  · intro request id hne
    rw [after_append]
    exact handle_elsewhere hne

/-! ### A run -/

/-- A credential of the owner whose identifier repeats a byte. -/
def sampleCredential (byte : UInt8) : Credential :=
  ⟨[1, 2, 3], .okp ⟨.edDsa, .ed25519, .zeros⟩, 0, .ofList [], ⟨List.replicate 16 byte, List.length_replicate⟩, "none"⟩

/-- An id is registered, asked for by another owner, and used. -/
def sampleRequests : List CredentialRequest :=
  [.insert (sampleCredential 1), .insert (sampleCredential 2), .updateSignCount [1, 2, 3] 0 7]

/-- The id keeps its first owner and key, with the new sign count, and asking for it once more changes nothing. -/
theorem sample_owner_kept :
    (empty.after sampleRequests).find? [1, 2, 3] = some
        ⟨[1, 2, 3], .okp ⟨.edDsa, .ed25519, .zeros⟩, 7, .ofList [], ⟨List.replicate 16 1, List.length_replicate⟩,
          "none"⟩ ∧
      empty.after (sampleRequests ++ [.insert (sampleCredential 2)]) = empty.after sampleRequests := by
  obtain ⟨_, _, hfind, _, _, _, _, hrefused, _⟩ := store_follows_history sampleRequests
  refine ⟨(hfind _ _).2 ?_, hrefused _ (.inr rfl)⟩
  refine ⟨[], sampleCredential 1,
    [(.insert (sampleCredential 2), .conflict), (.updateSignCount [1, 2, 3] 0 7, .stored)], rfl, rfl, ?_,
    rfl, rfl, rfl, rfl, rfl, rfl⟩
  simp

end WebAuthn.CredentialStore
