import WebAuthn.Proofs.Interleaving.Atomicity

/-!
# Credentials that are replaced while they are used

An authentication checks a copy of the credential that it read, and when its sign count is written, the store compares
the sign count and nothing else. Between the two the credential may be removed, and another one may take its id.

* `World.AcceptsWhatIsStored`, `not_acceptsWhatIsStored` — the store writes the sign count of a credential to another one
  that took its place and that has the sign count that was read;
* `World.Authenticated`, `authenticated_of_returned` — the two steps of an authentication that succeeded;
* `World.Authenticated.kept_eq_read` — a credential that is not removed between the two is still the one that was read;
* `World.accepted_for_same_count` — the credential that the sign count is written to has the one that was read, and it
  is the credential of the call exactly if it is the one that was read.
-/

namespace WebAuthn

open Exchange

namespace World

/-! ### Replaced credentials -/

/-- Whenever a call succeeds, the store has its credential right after the sign count was written. -/
def AcceptsWhatIsStored (stores : Stores) (schedule : List Action) : Prop :=
  ∀ (position : Nat) (credential : Credential),
    ((start stores).run schedule).Returned position credential →
    ∀ (first second : List Action) (action : Action) (expected : UInt32),
      schedule = first ++ action :: second →
      ((start stores).run first).Meets action
        (written (some position) credential.id expected credential.signCount) →
      (((start stores).run first).step action).stores.credential? credential.id = some credential

/-- A credential of the authenticator, not used so far. -/
def enrolled : Credential :=
  ⟨sampleAuthenticator.credentialId, sampleAuthenticator.keyPair.publicKey, 0, .ofList [], ⟨.zeros⟩,
    StatementVerifier.noneName⟩

/-- A credential of another owner with the same id and another key, not used so far. -/
def successor : Credential :=
  { enrolled with
    publicKey := Registration.sampleAuthenticator.keyPair.publicKey
    owner := ⟨List.replicate 16 1, rfl⟩ }

/-- A call reads a credential; then it is removed and another one is stored with its id. -/
def replacingSchedule : List Action :=
  let challenge := Registration.sampleChallenge
  let response := sampleAuthenticator.authenticationResponse .zeros challenge 5
  [.credentials (.insert enrolled) (.met 0 challenge), .challenges .issue (.met 0 challenge),
    .start (.authenticate ⟨Registration.samplePolicy, .standard⟩ response challenge),
    .proceed 0 (.met 1 challenge), .proceed 0 (.met 2 challenge),
    .credentials (.remove enrolled.id) (.met 3 challenge),
    .credentials (.insert successor) (.met 4 challenge)]

/-- The world in which the credential is replaced. -/
def replaced : World :=
  (start (freshStores 300 (some .empty))).run replacingSchedule

/-- Then the sign count of the call is written. -/
def replacingUpdate : Action :=
  .proceed 0 (.met 5 Registration.sampleChallenge)

set_option maxRecDepth 100000 in
/-- The call returns the credential that was removed, and the store has the one that replaced it. -/
theorem not_acceptsWhatIsStored :
    ¬ AcceptsWhatIsStored (freshStores 300 (some .empty)) (replacingSchedule ++ [replacingUpdate]) := by
  have hrun : (replaced.step replacingUpdate).returned? 0 = some (enrolled.withSignCount 5) ∧
      (replaced.step replacingUpdate).history =
        replaced.history ++ [written (some 0) enrolled.id 0 5] ∧
      (replaced.step replacingUpdate).stores.credential? enrolled.id =
        some (successor.withSignCount 5) := by
    decide +kernel
  intro h
  obtain ⟨hreturned, hmeets, hstored⟩ := hrun
  rw [returned?_eq_some, replaced, ← run_singleton, ← run_append] at hreturned
  have hsame := h 0 _ hreturned replacingSchedule [] replacingUpdate 0 rfl hmeets
  have howner : (successor.withSignCount 5).owner = (enrolled.withSignCount 5).owner :=
    congrArg Credential.owner (Option.some.inj (hstored.symm.trans hsame))
  exact absurd howner (by decide)

/-! ### Authentications -/

/-- An authentication that succeeded, as the credential store met it: the step at which it read a credential, and the
one at which the sign count of the credential that it returned was written. -/
structure Authenticated (stores : Stores) (schedule : List Action) (position : Nat)
    (credential : Credential) where
  front : List Action
  finding : Action
  middle : List Action
  updating : Action
  rest : List Action
  read : Credential
  schedule_eq : schedule = front ++ finding :: (middle ++ updating :: rest)
  finds : ((start stores).run front).Meets finding
    ⟨some position, .credentials (.find credential.id) (.answered (.credential read))⟩
  updates : ((start stores).run (front ++ finding :: middle)).Meets updating
    (written (some position) credential.id read.signCount credential.signCount)
  returned : credential.Recounted read credential.signCount

namespace Authenticated

variable {stores : Stores} {schedule : List Action} {position : Nat} {credential : Credential}

def found (use : Authenticated stores schedule position credential) : World :=
  (start stores).run (use.front ++ [use.finding])

/-- The world before the sign count is written. -/
def asking (use : Authenticated stores schedule position credential) : World :=
  (start stores).run (use.front ++ use.finding :: use.middle)

/-- The world after the sign count was written. -/
def updated (use : Authenticated stores schedule position credential) : World :=
  use.asking.step use.updating

theorem run_eq (use : Authenticated stores schedule position credential) :
    (start stores).run schedule = use.updated.run use.rest := by
  obtain ⟨front, finding, middle, updating, rest, read, rfl, _, _, _⟩ := use
  show (start stores).run (front ++ finding :: (middle ++ updating :: rest)) =
    ((start stores).run (front ++ finding :: middle)).run (updating :: rest)
  rw [← run_append, List.append_assoc, List.cons_append]

theorem asking_eq (use : Authenticated stores schedule position credential) :
    use.asking = use.found.run use.middle := by
  unfold asking found
  rw [← run_append, List.append_assoc, List.singleton_append]

/-- The credential that was read stands in the store after it was read. -/
theorem credential?_found (use : Authenticated stores schedule position credential) :
    use.found.stores.credential? credential.id = some use.read := by
  unfold found
  rw [run_append]
  exact use.finds.met.finds

/-- The sign count is written to a credential that has the one that was read. -/
theorem exists_kept (use : Authenticated stores schedule position credential) :
    ∃ kept record, use.asking.stores.credential? credential.id = some kept ∧
      kept.signCount = use.read.signCount ∧
      use.updated.stores.credential? credential.id = some record ∧
      record.Recounted kept credential.signCount := by
  obtain ⟨kept, hkept, hcount, hupdated⟩ := use.updates.met.updates
  exact ⟨kept, _, hkept, hcount, hupdated, kept.recounted_withSignCount _⟩

/-- A credential that is not removed in between is the one that was read. -/
theorem kept_eq_read (use : Authenticated stores schedule position credential) {kept : Credential}
    (hkept : use.asking.stores.credential? credential.id = some kept)
    (hcount : kept.signCount = use.read.signCount) {added : List Event}
    (hadded : use.asking.history = use.found.history ++ added)
    (hlife : OneLifetime credential.id added) : kept = use.read := by
  rw [use.asking_eq] at hkept hadded
  obtain hclosed | ⟨signCount, hc⟩ := credential_run use.credential?_found hadded hlife
  · rw [Stores.credential?, hclosed] at hkept
    cases hkept
  · rw [hc] at hkept
    cases hkept
    -- only the sign count may have changed, and it has not
    obtain rfl : signCount = use.read.signCount := hcount
    rfl

/-- The returned credential is stored exactly if the sign count was written to the credential that was read. -/
theorem stored_iff (use : Authenticated stores schedule position credential) {kept record : Credential}
    (hcount : kept.signCount = use.read.signCount) (hrecord : record.Recounted kept credential.signCount) :
    record = credential ↔ kept = use.read := by
  constructor
  · rintro rfl
    -- both have the same sign count, and share everything else with the returned credential
    have hkept := hrecord.symm.trans use.returned
    rw [hcount] at hkept
    exact Credential.recounted_iff.1 hkept
  · rintro rfl
    have hreturned := hrecord.trans use.returned.symm
    exact Credential.recounted_iff.1 hreturned

end Authenticated

/-- An authentication that succeeded has read a credential and had its sign count written. -/
theorem authenticated_of_returned {stores : Stores} {schedule : List Action} {position : Nat}
    {session : Session} (hs : ((start stores).run schedule).sessions[position]? = some session)
    {party : RelyingParty} {response : AuthenticationResponse} {challenge : Challenge}
    (hcall : session.call = .authenticate party response challenge) {credential : Credential}
    (ho : session.outcome? = some (.ok credential)) :
    Nonempty (Authenticated stores schedule position credential) := by
  have hends := ends_asked stores schedule hs ho
  rw [hcall] at hends
  obtain ⟨taken, id, assertion, read, ha, hu, hasked⟩ := RelyingParty.ends_authenticate.1 hends
  have hreturned := RelyingParty.recounted_of_authenticate hu
  obtain ⟨_, hread⟩ := RelyingParty.id_of_authenticate ha hu
  have hid : id = credential.id := hread.symm.trans hreturned.id_eq.symm
  subst hid
  -- the step that wrote is found first, and the one that read in the schedule before it
  obtain ⟨first, updating, rest, rfl, hfirst, hupdates⟩ :=
    @exists_meets position stores _ [_, _] [] _ hasked
  obtain ⟨front, finding, middle, rfl, _, hfinds⟩ := @exists_meets position stores _ [_] [] _ hfirst
  exact ⟨{
    front, finding, middle, updating, rest, read
    schedule_eq := by rw [List.append_assoc, List.cons_append]
    finds := hfinds
    updates := hupdates
    returned := hreturned }⟩

/-- An authentication that succeeded was accepted for a credential with the sign count that it read. This credential
gets its new sign count, so that the store has the returned credential exactly if this is the credential that it read;
and it is, if none was removed in between. -/
theorem accepted_for_same_count (stores : Stores) (schedule : List Action) (position : Nat)
    (session : Session)
    (hs : ((start stores).run schedule).sessions[position]? = some session)
    (party : RelyingParty) (response : AuthenticationResponse) (challenge : Challenge)
    (hcall : session.call = .authenticate party response challenge) (credential : Credential)
    (ho : session.outcome? = some (.ok credential)) :
    ∃ (use : Authenticated stores schedule position credential) (kept record : Credential)
        (added : List Event),
      use.asking.stores.credential? credential.id = some kept ∧
        kept.signCount = use.read.signCount ∧
        use.updated.stores.credential? credential.id = some record ∧
        record.Recounted kept credential.signCount ∧
        (record = credential ↔ kept = use.read) ∧
        use.asking.history = use.found.history ++ added ∧
        (OneLifetime credential.id added →
          use.updated.stores.credential? credential.id = some credential) := by
  obtain ⟨use⟩ := authenticated_of_returned hs hcall ho
  obtain ⟨kept, record, hkept, hcount, hupdated, hrecord⟩ := use.exists_kept
  obtain ⟨added, hadded⟩ := history_run use.found use.middle
  rw [← use.asking_eq] at hadded
  refine ⟨use, kept, record, added, hkept, hcount, hupdated, hrecord, use.stored_iff hcount hrecord, hadded,
    fun hlife => ?_⟩
  rw [hupdated, (use.stored_iff hcount hrecord).2 (use.kept_eq_read hkept hcount hadded hlife)]

/-- In this schedule nothing is removed, and the theorem tells that the returned credential is stored. -/
theorem sample_returned_stored :
    ∃ (credential : Credential) (use : Authenticated sampleStores sampleSchedule 0 credential),
      credential.signCount = 5 ∧
        use.updated.stores.credential? credential.id = some credential := by
  obtain ⟨session, credential, hs, ho, hfive⟩ := sample_succeeds
  have hcall := congrArg (fun calls => calls[0]?) (calls_run (start sampleStores) sampleSchedule)
  rw [List.getElem?_map, hs] at hcall
  obtain ⟨use, _, _, added, _, _, _, _, _, hadded, hstored⟩ := accepted_for_same_count sampleStores
    sampleSchedule 0 session hs _ _ _ (Option.some.inj hcall) credential ho
  have hnone : ∀ action ∈ sampleSchedule, ¬ action.Removes credential.id := by
    simp [sampleSchedule, Action.Removes]
  obtain ⟨later, hlater⟩ := history_run use.asking (use.updating :: use.rest)
  have hlife : OneLifetime credential.id ((use.found.history ++ added) ++ later) := by
    rw [← hadded, ← hlater]
    show OneLifetime credential.id (use.updated.run use.rest).history
    rw [← use.run_eq]
    exact oneLifetime_run hnone
  exact ⟨credential, use, hfive, hstored (oneLifetime_append.1 (oneLifetime_append.1 hlife).1).2⟩

end World

end WebAuthn
