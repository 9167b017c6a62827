import WebAuthn.Audited
import WebAuthn.Challenge

/-!
# The challenges in circulation

* `ChallengeStore` — the challenges handed out and not taken back, each with the time of its issue;
* `ChallengeStore.handle` — the answer to a request at a time, the store after it, and the lines written. A challenge
  can be taken back once, within the timeout; expired ones are dropped when a new one is issued.
-/

namespace WebAuthn

/-- A point in time, in nanoseconds. -/
abbrev Instant := Int

inductive ChallengeRequest where
  | issue
  | consume (challenge : Challenge)
  deriving DecidableEq

inductive ChallengeResponse where
  | issued (challenge : Challenge)
  | consumed (challenge : Challenge)
  | rejected
  deriving DecidableEq

/-- The challenges in circulation, each once, with the time of its issue. -/
structure ChallengeStore where
  issued : List (Challenge × Instant)
  /-- The nanoseconds for which a challenge can be used. -/
  timeout : Nat

namespace ChallengeStore

/-- The longest timeout in seconds. -/
def maximumTimeout : Nat := (Nat.pow 2 63 - 1) / 1000

def empty (timeoutSeconds : Nat) : ChallengeStore :=
  ⟨[], min timeoutSeconds maximumTimeout * Nat.pow 10 9⟩

/-- Whether a challenge issued at a time can still be used. -/
def isFresh (store : ChallengeStore) (now issuedAt : Instant) : Bool :=
  now - issuedAt ≤ store.timeout

/-- The time at which a challenge was issued, if it is in circulation. -/
def issuedAt? (store : ChallengeStore) (challenge : Challenge) : Option Instant :=
  store.issued.lookup challenge

def erase (store : ChallengeStore) (challenge : Challenge) : ChallengeStore :=
  { store with issued := store.issued.filter fun entry => entry.1 ≠ challenge }

def prune (store : ChallengeStore) (now : Instant) : ChallengeStore :=
  { store with issued := store.issued.filter fun entry => store.isFresh now entry.2 }

/-- The store with a challenge issued at a time, in place of an earlier issue of the same one. -/
def insert (store : ChallengeStore) (challenge : Challenge) (now : Instant) : ChallengeStore :=
  { store with issued := (challenge, now) :: (store.erase challenge).issued }

/-- The answer to a consume request, and the lines written: the challenge has to be in circulation and fresh. -/
def consumed (store : ChallengeStore) (now : Instant) (challenge : Challenge) :
    ChallengeResponse × List LogEntry :=
  match store.issuedAt? challenge with
  | none => (.rejected, [⟨.warn, "challenge rejected | unknown or already consumed"⟩])
  | some issuedAt =>
    if store.isFresh now issuedAt then (.consumed challenge, [])
    else (.rejected, [⟨.warn, "challenge rejected | issued at"⟩])

/-- The answer to a request at a time, the store after it and the lines written. The fresh challenge is handed out if
one is asked for; consuming takes a challenge out of circulation whatever the answer. -/
def handle (store : ChallengeStore) (now : Instant) (fresh : Challenge) :
    ChallengeRequest → ChallengeResponse × List LogEntry × ChallengeStore
  | .issue => (.issued fresh, [], (store.prune now).insert fresh now)
  | .consume challenge =>
    let (response, log) := store.consumed now challenge
    (response, log, store.erase challenge)

end ChallengeStore

end WebAuthn
