import WebAuthn.Hash.Sha2

/-!
# Keyed SHA-256

`hmacSha256 key message` hashes the message under the key padded to a block, once inside and once outside.
-/

namespace WebAuthn

def sha256Block : Nat := 64

/-- The HMAC of a message under a key; a key longer than a block is replaced by its digest. -/
def hmacSha256 (key message : Bytes) : Bytes :=
  let short := if key.length > sha256Block then sha256 key else key
  let full := short ++ List.replicate (sha256Block - short.length) 0
  let inner := sha256 (full.map (· ^^^ 0x36) ++ message)
  sha256 (full.map (· ^^^ 0x5c) ++ inner)

end WebAuthn
