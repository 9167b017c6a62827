import WebAuthn.Policy.Basic
import WebAuthn.Text.Quoted
import WebAuthn.Url.Basic

/-!
# Which policies make sense

Origins are compared character by character during a ceremony, so that each one has to be written the way a browser
writes it.

* `Policy.OriginFault`, `Policy.originFault?` — what is wrong with an origin for a relying party id;
* `Policy.validate` — fails at the first thing that is wrong with a policy.
-/

namespace WebAuthn.Policy

/-! ### Origins -/

inductive OriginFault where
  | notUrl
  | missingHost
  | insecureScheme
  | notBare
  | notSerialized
  | foreignHost
  deriving DecidableEq, Repr

def OriginFault.message : OriginFault → String
  | .notUrl => "url error"
  | .missingHost => "missing host"
  | .insecureScheme => "scheme must be https"
  | .notBare => "path, query or fragment present"
  | .notSerialized => "not in serialized origin form"
  | .foreignHost => "host is not within rp_id"

/-- Whether pages of a scheme and host are trusted: all secure ones, and local ones. -/
def isSecure (scheme : String) (host : Host) : Bool :=
  scheme = "https" || (scheme = "http" && host.toText = "localhost")

/-- Whether a host is a relying party id or below it. -/
def isWithin (host rpId : String) : Bool :=
  host = rpId || ('.' :: rpId.toList).isSuffixOf host.toList

/-- The first fault of an origin. -/
def originFault? (rpId origin : String) : Option OriginFault :=
  match Url.parse? origin with
  | none => some .notUrl
  | some url =>
    match url.host with
    | none => some .missingHost
    | some host =>
      if !isSecure url.scheme host then some .insecureScheme
      else if !url.isBare then some .notBare
      else if Url.origin url.scheme host url.port ≠ origin then some .notSerialized
      else if !isWithin host.toText rpId then some .foreignHost
      else none

/-! ### Policies -/

def invalidPolicy {α : Type} (reason : String) : Audited α :=
  .refuseWith .invalidConfiguration .warn s!"relying party configuration | {reason}"

def validateOrigin (rpId origin : String) : Audited Unit :=
  match originFault? rpId origin with
  | some fault => invalidPolicy s!"{origin} -> {fault.message}"
  | none => pure ()

def validateOrigins (rpId : String) : List String → Audited Unit
  | [] => pure ()
  | origin :: rest => do
    validateOrigin rpId origin
    validateOrigins rpId rest

/-- Fails unless there are an id, origins and algorithms, and every origin is written as browsers write it and
belongs to the id. -/
def validate (policy : Policy) : Audited Unit := do
  if policy.rpId = "" || policy.rpId.toList.any fun c => c = '/' || c = ':' then
    invalidPolicy s!"invalid rp_id {Quoted.text policy.rpId}"
  else if policy.allowedOrigins.isEmpty then invalidPolicy "no allowed origins"
  else if policy.allowedAlgorithms.isEmpty then invalidPolicy "no allowed algorithms"
  else validateOrigins policy.rpId policy.allowedOrigins

end WebAuthn.Policy
