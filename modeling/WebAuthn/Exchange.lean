import WebAuthn.Store.Challenges
import WebAuthn.Store.Credentials

/-!
# Exchanges with the stores

A ceremony talks to two stores that other ceremonies talk to as well. What it does is therefore a tree: it has finished,
or it has a request and goes on with the reply.

* `Exchange` — such a tree, and the monad that runs exchanges in order;
* `Exchange.consume`, `insert`, `find`, … — the exchanges of one request each, and what replies amount to;
* `Exchange.run` — an exchange alone with a `Backend`, which says how requests are met;
* `Stores`, `Stores.backend` — the two stores of the library behind channels that can be closed.
-/

namespace WebAuthn

/-- What becomes of a request. -/
inductive Reply (α : Type) where
  | answered (response : α)
  /-- The channel is closed, so that the request could not be sent. -/
  | notSent
  /-- The request was sent and dropped. -/
  | unanswered
  deriving DecidableEq

/-- A computation that makes requests, each with the lines written since the one before. -/
inductive Exchange (α : Type) where
  | finished (result : Audited α)
  | challenges (log : List LogEntry) (request : ChallengeRequest)
      (next : Reply ChallengeResponse → Exchange α)
  | credentials (log : List LogEntry) (request : CredentialRequest)
      (next : Reply CredentialResponse → Exchange α)

namespace Exchange

variable {α β : Type}

/-! ### Running exchanges in order -/

/-- The exchange with lines written before it. -/
def after (log : List LogEntry) : Exchange α → Exchange α
  | .finished result => .finished ⟨result.outcome, log ++ result.log⟩
  | .challenges lines request next => .challenges (log ++ lines) request next
  | .credentials lines request next => .credentials (log ++ lines) request next

/-- Runs an exchange and, if it succeeds, the next one. -/
protected def bind (x : Exchange α) (next : α → Exchange β) : Exchange β :=
  match x with
  | .finished result =>
    match result.outcome with
    | .ok a => (next a).after result.log
    | .error failure => .finished ⟨.error failure, result.log⟩
  | .challenges log request reply => .challenges log request fun r => (reply r).bind next
  | .credentials log request reply => .credentials log request fun r => (reply r).bind next

instance : Monad Exchange where
  pure a := .finished (pure a)
  bind := Exchange.bind

/-- A check that makes no request. -/
def ofAudited (check : Audited α) : Exchange α :=
  .finished check

/-- Fails without a request. -/
def refuse (failure : Failure) : Exchange α :=
  .finished (.refuse failure)

/-! ### Requests -/

/-- What a reply amounts to: a missing one means that the store is unavailable. -/
def ofReply (channel : String) (reply : Reply α) : Audited α :=
  match reply with
  | .answered response => pure response
  | .notSent => .refuseWith .storeUnavailable .error s!"{channel} channel | send"
  | .unanswered => .refuseWith .storeUnavailable .error s!"{channel} channel | receive"

def askChallenges (request : ChallengeRequest) : Exchange ChallengeResponse :=
  .challenges [] request fun reply => .finished (ofReply "challenges" reply)

def askCredentials (request : CredentialRequest) : Exchange CredentialResponse :=
  .credentials [] request fun reply => .finished (ofReply "credentials" reply)

def issue : Exchange Challenge := do
  match ← askChallenges .issue with
  | .issued challenge => return challenge
  | _ => refuse .storeUnavailable

/-- Takes a challenge out of circulation. -/
def consume (challenge : Challenge) : Exchange Challenge := do
  match ← askChallenges (.consume challenge) with
  | .consumed challenge => return challenge
  | .rejected => refuse .challengeRejected
  | .issued _ => refuse .storeUnavailable

/-- What a response of the credential store amounts to if another one was expected. -/
def unexpected : CredentialResponse → Failure
  | .notFound => .unknownCredential
  | .conflict => .credentialConflict
  | .credential _ | .stored => .storeUnavailable

/-- A request of the credential store that should be answered by having stored. -/
def askToStore (request : CredentialRequest) : Exchange Unit := do
  match ← askCredentials request with
  | .stored => return ()
  | response => refuse (unexpected response)

def insert (credential : Credential) : Exchange Unit :=
  askToStore (.insert credential)

def find (id : Bytes) : Exchange Credential := do
  match ← askCredentials (.find id) with
  | .credential credential => return credential
  | response => refuse (unexpected response)

/-- Writes a sign count while the stored one is the expected one. -/
def updateSignCount (id : Bytes) (expected new : UInt32) : Exchange Unit :=
  askToStore (.updateSignCount id expected new)

def remove (id : Bytes) : Exchange Unit :=
  askToStore (.remove id)

end Exchange

/-! ### Backends -/

/-- How requests are met in a state. -/
structure Backend (σ : Type) where
  challenges : ChallengeRequest → σ → Reply ChallengeResponse × List LogEntry × σ
  credentials : CredentialRequest → σ → Reply CredentialResponse × List LogEntry × σ

/-- The result of an exchange alone with a backend, with all lines written, and the state after it. -/
def Exchange.run {α σ : Type} (backend : Backend σ) : Exchange α → σ → Audited α × σ
  | .finished result, state => (result, state)
  | .challenges log request next, state =>
    let (reply, lines, state) := backend.challenges request state
    let (result, state) := (next reply).run backend state
    (⟨result.outcome, log ++ lines ++ result.log⟩, state)
  | .credentials log request next, state =>
    let (reply, lines, state) := backend.credentials request state
    let (result, state) := (next reply).run backend state
    (⟨result.outcome, log ++ lines ++ result.log⟩, state)

/-- The two stores; one that is gone has closed its channel. -/
structure Stores where
  challenges : Option ChallengeStore
  credentials : Option CredentialStore

namespace Stores

/-- How the stores meet requests at a time, with the challenge that is handed out next. -/
def backend (now : Instant) (fresh : Challenge) : Backend Stores where
  challenges request stores :=
    match stores.challenges with
    | some store =>
      let (response, log, store) := store.handle now fresh request
      (.answered response, log, { stores with challenges := some store })
    | none => (.notSent, [], stores)
  credentials request stores :=
    match stores.credentials with
    | some store =>
      let (response, log, store) := store.handle request
      (.answered response, log, { stores with credentials := some store })
    | none => (.notSent, [], stores)

end Stores

end WebAuthn
