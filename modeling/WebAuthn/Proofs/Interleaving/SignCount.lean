import WebAuthn.Proofs.Interleaving.Records

/-!
# Sign counts that count up

A call reads a sign count, checks its own against it, and writes, while others do the same. A count is written only
while the stored one is the one that was read, and calls count up from what they read.

* `Message.CountsUp` — requests to write a sign count that is more than the expected one; those of calls are such;
* `World.signCount_run` — within a lifetime of a credential its sign count never decreases: the step lemma and its
  induction over runs;
* `World.sign_counts_count_up` — the three properties of sign counts, for every schedule in which other clients write
  no sign counts.

A lifetime ends when the credential is removed, or with the store.
-/

namespace WebAuthn

open Exchange

/-! ### Requests -/

namespace Message

/-- A request to write a sign count counts up from the expected one, unless that is zero. -/
def CountsUp : Message → Prop
  | .credentials (.updateSignCount _ expected new) _ => expected = 0 ∨ expected < new
  | _ => True

theorem countsUp_of_mayAsk {call : Call} {message : Message} (h : call.MayAsk message) :
    message.CountsUp := by
  cases message with
  | challenges request reply => trivial
  | credentials request reply =>
    cases request with
    | updateSignCount id expected new => exact h
    | _ => trivial

end Message

/-- The action is that of another client that writes a sign count. -/
def Action.WritesSignCount : Action → Prop
  | .credentials (.updateSignCount _ _ _) _ => True
  | _ => False

namespace World

variable {world : World} {id : Bytes}

/-! ### Steps -/

/-- The sign count under an id, if the store runs and has a credential with it. -/
def signCount? (world : World) (id : Bytes) : Option UInt32 :=
  (world.stores.credential? id).map fun credential => credential.signCount

def written (caller : Option Nat) (id : Bytes) (expected new : UInt32) : Event :=
  ⟨caller, .credentials (.updateSignCount id expected new) (.answered .stored)⟩

/-- The request that a step meets counts up, if other clients write no sign counts. -/
theorem countsUp_step (h : Sound world) {action : Action} (hw : ¬ action.WritesSignCount)
    {event : Event} (hm : world.Meets action event) : event.message.CountsUp := by
  obtain ⟨call, hmay⟩ | ⟨_, _, _, _, hmessage⟩ | ⟨request, fate, reply, rfl, hmessage⟩ :=
    h.meets_cases hm
  · exact Message.countsUp_of_mayAsk hmay
  · rw [hmessage]
    trivial
  · rw [hmessage]
    cases request with
    | updateSignCount id expected new => exact absurd trivial hw
    | _ => trivial

/-- A step within a lifetime does not decrease the sign count. -/
theorem signCount_step (h : Sound world) {action : Action} (hw : ¬ action.WritesSignCount)
    {signCount : UInt32} (hc : world.signCount? id = some signCount) {added : List Event}
    (hadded : (world.step action).history = world.history ++ added) (hlife : OneLifetime id added) :
    (world.step action).stores.credentials = none ∨
      ∃ later, (world.step action).signCount? id = some later ∧ signCount ≤ later := by
  obtain ⟨credential, hcredential, rfl⟩ := Option.map_eq_some_iff.1 hc
  obtain ⟨event, hm, hkept⟩ | hsame | hclosed := lifetime_step hadded hlife
  · have hup : event.message.CountsUp := countsUp_step h hw hm
    obtain ⟨later, hn, hlater⟩ := (hm.met.keeps hcredential).resolve_left hkept
    refine .inr ⟨later, by rw [signCount?, hn]; rfl, ?_⟩
    obtain rfl | hwritten := hlater
    · exact UInt32.le_refl _
    · rw [hwritten] at hup
      obtain hzero | hlt := hup
      · rw [hzero]
        exact UInt32.zero_le
      · exact UInt32.le_of_lt hlt
  · refine .inr ⟨credential.signCount, ?_, UInt32.le_refl _⟩
    unfold signCount? Stores.credential? at hc ⊢
    rw [hsame]
    exact hc
  · exact .inl hclosed

/-- A sign count that was written replaces the expected one, and counts up from it unless that is zero. -/
theorem signCount_written (h : Sound world) {action : Action} (hw : ¬ action.WritesSignCount)
    {caller : Option Nat} {expected new : UInt32}
    (hh : (world.step action).history = world.history ++ [written caller id expected new]) :
    world.signCount? id = some expected ∧ (world.step action).signCount? id = some new ∧
      (expected ≠ 0 → expected < new) := by
  have hup : Message.CountsUp (written caller id expected new).message := countsUp_step h hw hh
  obtain ⟨credential, hbefore, rfl, hafter⟩ := (Meets.met hh).updates
  refine ⟨by rw [signCount?, hbefore]; rfl, by rw [signCount?, hafter]; rfl, fun hne => ?_⟩
  exact hup.resolve_left hne

/-! ### Runs -/

/-- Within a lifetime the sign count never decreases. -/
theorem signCount_run (h : Sound world) {schedule : List Action}
    (hw : ∀ action ∈ schedule, ¬ action.WritesSignCount) {signCount : UInt32}
    (hc : world.signCount? id = some signCount) {added : List Event}
    (hadded : (world.run schedule).history = world.history ++ added) (hlife : OneLifetime id added) :
    (world.run schedule).stores.credentials = none ∨
      ∃ later, (world.run schedule).signCount? id = some later ∧ signCount ≤ later := by
  -- soundness is part of the invariant: only in a sound world does every write count up
  refine Or.imp_right And.right (lifetime_run
    (fun world => Sound world ∧ ∃ later, world.signCount? id = some later ∧ signCount ≤ later)
    (fun world action ha hP added hadded hlife => ?_) ⟨h, signCount, hc, UInt32.le_refl _⟩ hadded hlife)
  obtain ⟨hsound, later, hl, hle⟩ := hP
  obtain hclosed | ⟨next, hn, hle'⟩ := signCount_step hsound (hw action ha) hl hadded hlife
  · exact .inl hclosed
  · exact .inr ⟨sound_step hsound action, next, hn, UInt32.le_trans hle hle'⟩

/-- A call that succeeds returns the sign count that it wrote. -/
theorem Sound.signCount_of_returned (h : Sound world) {position : Nat} {credential : Credential}
    (hr : world.Returned position credential) {expected new : UInt32}
    (hm : written (some position) id expected new ∈ world.history) : new = credential.signCount := by
  obtain ⟨session, hs, ho⟩ := hr
  obtain ⟨found, hf, hmem⟩ := h.recorded _ hm position rfl
  rw [hs] at hf
  cases hf
  exact Call.signCount_of_ends (h.ends (List.mem_of_getElem? hs) ho) hmem

/-- Within a lifetime every sign count that is written is more than one that was written before, unless that is zero. -/
theorem written_lt {schedule : List Action} (h : Sound world)
    (hw : ∀ action ∈ schedule, ¬ action.WritesSignCount) {before between after : List Event}
    {earlier later : Option Nat} {expected signCount expected' signCount' : UInt32}
    (hh : (world.run schedule).history = world.history ++ (before ++
      written earlier id expected signCount ::
        (between ++ written later id expected' signCount' :: after)))
    (hlife : OneLifetime id between) (hne : signCount ≠ 0) : signCount < signCount' := by
  -- the step that wrote the earlier count, and the world after it
  obtain ⟨first, action, rest, rfl, hbefore, hstep⟩ := exists_step hh
  have hwFirst : ∀ action ∈ first, ¬ action.WritesSignCount := fun action ha =>
    hw action (List.mem_append_left _ ha)
  have hwRest : ∀ action ∈ rest, ¬ action.WritesSignCount := fun action ha =>
    hw action (List.mem_append_right _ (List.mem_cons_of_mem _ ha))
  have hsound : Sound (world.run first) := run_keeps h fun _ action _ h => sound_step h action
  obtain ⟨_, hcount, _⟩ :=
    signCount_written hsound (hw action (List.mem_append_right _ List.mem_cons_self)) hstep
  have hnext : Sound ((world.run first).step action) := sound_step hsound action
  rw [run_append, run_cons] at hh
  have hhRest : (((world.run first).step action).run rest).history =
      ((world.run first).step action).history ++
        (between ++ written later id expected' signCount' :: after) := by
    rw [hh, hstep, hbefore]
    simp only [List.append_assoc, List.singleton_append]
  -- the step that wrote the later count, from there
  obtain ⟨second, action', rest', rfl, hbetween, hstep'⟩ := exists_step hhRest
  have hsound' : Sound (((world.run first).step action).run second) :=
    run_keeps hnext fun _ action _ h => sound_step h action
  obtain ⟨hexpected, _, hup⟩ :=
    signCount_written hsound' (hwRest action' (List.mem_append_right _ List.mem_cons_self)) hstep'
  -- between the two the count has not gone down, so that the later call expected at least the earlier one
  obtain hclosed | ⟨kept, hkept, hle⟩ := signCount_run hnext
    (fun action ha => hwRest action (List.mem_append_left _ ha)) hcount hbetween hlife
  · rw [signCount?, Stores.credential?, hclosed] at hexpected
    cases hexpected
  · rw [hexpected] at hkept
    cases hkept
    have hne' : expected' ≠ 0 := by
      intro hzero
      rw [hzero] at hle
      exact hne (UInt32.le_zero_iff.1 hle)
    exact UInt32.lt_of_le_of_lt hle (hup hne')

/-- Sign counts of credentials, for every schedule in which no other client writes any. Within a lifetime of a
credential its sign count never decreases; a sign count that is written replaces the one that was expected and, unless
that was zero, is more; and two calls that wrote sign counts of one lifetime and succeeded have returned different ones,
unless they returned zero. -/
theorem sign_counts_count_up (stores : Stores) (schedule : List Action)
    (hw : ∀ action ∈ schedule, ¬ action.WritesSignCount) :
    (∀ (first second : List Action) (added : List Event) (id : Bytes) (signCount : UInt32),
      schedule = first ++ second →
      ((start stores).run first).signCount? id = some signCount →
      ((start stores).run schedule).history = ((start stores).run first).history ++ added →
      OneLifetime id added →
      ((start stores).run schedule).stores.credentials = none ∨
        ∃ later, ((start stores).run schedule).signCount? id = some later ∧ signCount ≤ later) ∧
    (∀ (first second : List Action) (action : Action) (caller : Option Nat) (id : Bytes)
        (expected new : UInt32),
      schedule = first ++ action :: second →
      (((start stores).run first).step action).history =
        ((start stores).run first).history ++ [written caller id expected new] →
      ((start stores).run first).signCount? id = some expected ∧
        (((start stores).run first).step action).signCount? id = some new ∧
        (expected ≠ 0 → expected < new)) ∧
    ∀ (before between after : List Event) (i j : Nat) (id : Bytes)
        (expected signCount expected' signCount' : UInt32) (a b : Credential),
      ((start stores).run schedule).history = before ++ written (some i) id expected signCount ::
        (between ++ written (some j) id expected' signCount' :: after) →
      OneLifetime id between →
      ((start stores).run schedule).Returned i a → ((start stores).run schedule).Returned j b →
      a.signCount = b.signCount → a.signCount = 0 := by
  refine ⟨?_, ?_, ?_⟩
  · intro first second added id signCount hs hc hadded hlife
    subst hs
    rw [run_append] at hadded ⊢
    exact signCount_run (sound_run stores first)
      (fun action ha => hw action (List.mem_append_right _ ha)) hc hadded hlife
  · intro first second action caller id expected new hs hh
    subst hs
    exact signCount_written (sound_run stores first)
      (hw action (List.mem_append_right _ List.mem_cons_self)) hh
  · intro before between after i j id expected signCount expected' signCount' a b hh hlife ha hb hab
    have hsound := sound_run stores schedule
    have hfirst : written (some i) id expected signCount ∈ ((start stores).run schedule).history := by
      rw [hh]
      simp
    have hsecond :
        written (some j) id expected' signCount' ∈ ((start stores).run schedule).history := by
      rw [hh]
      simp
    have hi : signCount = a.signCount := hsound.signCount_of_returned ha hfirst
    have hj : signCount' = b.signCount := hsound.signCount_of_returned hb hsecond
    refine Classical.byContradiction fun hne => ?_
    have hlt : signCount < signCount' :=
      written_lt (sound_start stores) hw (by simpa [start] using hh) hlife (by rwa [hi])
    rw [hi, hj, hab] at hlt
    exact UInt32.lt_irrefl _ hlt

/-! ### An authentication -/

/-- An authenticator with a short key, modulo a prime. -/
def sampleAuthenticator : SoftwareAuthenticator :=
  { Registration.sampleAuthenticator with
    keyPair := .rs256 ⟨⟨Nat.pow 2 521 - 1, 7⟩, (3 * (Nat.pow 2 521 - 2) + 1) / 7, (Nat.pow 2 521 - 1, 1)⟩ }

/-- Stores with the credential of the authenticator, which was used four times. -/
def sampleStores : Stores :=
  let credential : Credential :=
    ⟨sampleAuthenticator.credentialId, sampleAuthenticator.keyPair.publicKey, 4, .ofList [],
      ⟨.zeros⟩, StatementVerifier.noneName⟩
  freshStores 300 (some (CredentialStore.empty.insert credential))

/-- A challenge is handed out, and the authenticator uses it to report its fifth use. -/
def sampleSchedule : List Action :=
  let challenge := Registration.sampleChallenge
  let response := sampleAuthenticator.authenticationResponse .zeros challenge 5
  [.challenges .issue (.met 0 challenge),
    .start (.authenticate ⟨Registration.samplePolicy, .standard⟩ response challenge),
    .proceed 0 (.met 1 challenge), .proceed 0 (.met 2 challenge), .proceed 0 (.met 3 challenge)]

set_option maxRecDepth 100000 in
/-- In this schedule the sign count is written, and the theorem tells it before and after. -/
theorem sample_sign_count_written :
    (∀ action ∈ sampleSchedule, ¬ action.WritesSignCount) ∧
      ∃ first action second, sampleSchedule = first ++ action :: second ∧
        ((start sampleStores).run first).signCount? sampleAuthenticator.credentialId = some 4 ∧
        (((start sampleStores).run first).step action).signCount?
          sampleAuthenticator.credentialId = some 5 := by
  have hw : ∀ action ∈ sampleSchedule, ¬ action.WritesSignCount := by
    simp [sampleSchedule, Action.WritesSignCount]
  have hlast : ((start sampleStores).run sampleSchedule).history.getLast? =
      some (written (some 0) sampleAuthenticator.credentialId 4 5) := by
    decide +kernel
  obtain ⟨before, hh⟩ := List.getLast?_eq_some_iff.1 hlast
  have hh' : ((start sampleStores).run sampleSchedule).history = (start sampleStores).history ++
      (before ++ written (some 0) sampleAuthenticator.credentialId 4 5 :: []) := hh
  obtain ⟨first, action, second, hs, _, hstep⟩ := exists_step hh'
  obtain ⟨_, hwritten, _⟩ := sign_counts_count_up sampleStores sampleSchedule hw
  obtain ⟨hbefore, hafter, _⟩ := hwritten first second action _ _ _ _ hs hstep
  exact ⟨hw, first, action, second, hs, hbefore, hafter⟩

end World

end WebAuthn
