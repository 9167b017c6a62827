import WebAuthn.Exchange

/-!
# Scripted stores

Ends that answer requests from a list, to see what an exchange asks for and what it makes of any answer.

* `Script` — the replies still to be given and the requests that were made; when no reply is left, requests are
  dropped;
* `Ends` — the two stores, each of which may be replaced by a script, and `Ends.backend`.
-/

namespace WebAuthn

/-- The replies still to be given, and the requests that were made. -/
structure Script (Request Response : Type) where
  replies : List (Reply Response)
  requests : List Request := []

def Script.handle {Request Response : Type} (script : Script Request Response) (request : Request) :
    Reply Response × Script Request Response :=
  let requests := script.requests ++ [request]
  match script.replies with
  | [] => (.unanswered, ⟨[], requests⟩)
  | reply :: rest => (reply, ⟨rest, requests⟩)

/-- The two stores with the scripts that stand in for them. -/
structure Ends where
  stores : Stores
  challengeScript : Option (Script ChallengeRequest ChallengeResponse) := none
  credentialScript : Option (Script CredentialRequest CredentialResponse) := none

/-- How requests are met at a time: by the scripts where there are any, else by the stores. -/
def Ends.backend (now : Instant) (fresh : Challenge) : Backend Ends where
  challenges request ends :=
    match ends.challengeScript with
    | some script =>
      let (reply, script) := script.handle request
      (reply, [], { ends with challengeScript := some script })
    | none =>
      let (reply, log, stores) := (Stores.backend now fresh).challenges request ends.stores
      (reply, log, { ends with stores })
  credentials request ends :=
    match ends.credentialScript with
    | some script =>
      let (reply, script) := script.handle request
      (reply, [], { ends with credentialScript := some script })
    | none =>
      let (reply, log, stores) := (Stores.backend now fresh).credentials request ends.stores
      (reply, log, { ends with stores })

end WebAuthn
