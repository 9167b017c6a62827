import WebAuthn.Url.Host

/-!
# URLs

* `Url`, `Url.parse?` — an absolute URL, as far as its origin and the shape of its path are concerned: what its
  path, query and fragment say is not kept;
* `Url.origin` — scheme, host and port as one text.

Blanks at both ends and line breaks anywhere are dropped before reading.
-/

namespace WebAuthn

structure Url where
  scheme : String
  host : Option Host
  /-- The port, unless it is the usual one of the scheme. -/
  port : Option Nat
  /-- The segments of the path behind its first slash, dot segments resolved. -/
  segments : List (List Char)
  hasQuery : Bool
  hasFragment : Bool
  deriving DecidableEq

namespace Url

/-! ### Schemes -/

/-- The usual port of a scheme whose hosts are domains. -/
def defaultPort? (scheme : String) : Option Nat :=
  match scheme with
  | "http" | "ws" => some 80
  | "https" | "wss" => some 443
  | "ftp" => some 21
  | _ => none

/-- Whether hosts of the scheme are domains, and a backslash is as good as a slash. -/
def isSpecial (scheme : String) : Bool :=
  (defaultPort? scheme).isSome || scheme = "file"

/-- Whether a character may stand behind the first letter of a scheme. -/
def isSchemeChar (c : Char) : Bool :=
  c.isAlphanum || c = '+' || c = '-' || c = '.'

/-- The scheme in lower case and what follows its colon. -/
def scheme? (text : List Char) : Option (String × List Char) :=
  match text.span isSchemeChar with
  | (first :: rest, ':' :: after) =>
    if first.isAlpha then some (String.ofList ((first :: rest).map Char.toLower), after) else none
  | _ => none

/-! ### Texts -/

/-- Whether a character is dropped at the ends of a text. -/
def isBlank (c : Char) : Bool :=
  c.toNat ≤ 0x20

/-- The text without blanks at its ends and without tabs and line breaks. -/
def clean (text : List Char) : List Char :=
  let trimmed := ((text.dropWhile isBlank).reverse.dropWhile isBlank).reverse
  trimmed.filter fun c => c ≠ '\t' && c ≠ '\n' && c ≠ '\r'

/-- Whether a character separates segments. -/
def isSlash (special : Bool) (c : Char) : Bool :=
  c = '/' || (special && c = '\\')

/-- The text before the first occurrence of a character, and whether there is one. -/
def cutAt (mark : Char) (text : List Char) : List Char × Bool :=
  (text.takeWhile (· ≠ mark), text.contains mark)

/-! ### Paths -/

/-- Whether a segment stands for the one it is in, in any spelling of its dot. -/
def isHere (segment : List Char) : Bool :=
  let text := segment.map Char.toLower
  text = ".".toList || text = "%2e".toList

/-- Whether a segment stands for the one above, in any spelling of its dots. -/
def isParent (segment : List Char) : Bool :=
  let text := segment.map Char.toLower
  text = "..".toList || text = ".%2e".toList || text = "%2e.".toList || text = "%2e%2e".toList

/-- Whether a segment is a letter followed by a colon or bar. -/
def isDrive (segment : List Char) : Bool :=
  match segment with
  | [letter, mark] => letter.isAlpha && (mark = ':' || mark = '|')
  | _ => false

/-- The segments above, in reverse: one less, unless the last is a drive. -/
def parent : List (List Char) → List (List Char)
  | [] => []
  | last :: above => if isDrive last then last :: above else above

/-- The segments with dot segments resolved; what stands above is given in reverse. A dot segment at the end
leaves an empty segment. -/
def resolve : (above : List (List Char)) → List (List Char) → List (List Char)
  | above, [] => above.reverse
  | above, [last] =>
    if isParent last then ([] :: parent above).reverse
    else if isHere last then ([] :: above).reverse
    else (last :: above).reverse
  | above, segment :: rest =>
    if isParent segment then resolve (parent above) rest
    else if isHere segment then resolve above rest
    else resolve (segment :: above) rest

/-- The segments of a path text, which begins with a slash if it is not empty. -/
def rawSegments (special : Bool) (path : List Char) : List (List Char) :=
  Fields.split '/' ((path.drop 1).map fun c => if isSlash special c then '/' else c)

/-- Whether a drive comes first in a path while its dot segments are resolved. -/
def beginsWithDrive : (above : List (List Char)) → List (List Char) → Bool
  | _, [] => false
  | above, segment :: rest =>
    if isParent segment then beginsWithDrive (parent above) rest
    else if isHere segment then beginsWithDrive above rest
    else (above.isEmpty && isDrive segment) || beginsWithDrive (segment :: above) rest

/-! ### Authorities -/

/-- The host text of an authority, and what follows it from the first colon outside brackets on. -/
def splitHost : (bracketed : Bool) → List Char → List Char × List Char
  | _, [] => ([], [])
  | bracketed, c :: rest =>
    if c = ':' && !bracketed then ([], c :: rest)
    else
      let (host, after) := splitHost (if c = '[' then true else if c = ']' then false else bracketed) rest
      (c :: host, after)

/-- The number of a port text, up to a backslash; no digits are no port. -/
def port? (text : List Char) : Option (Option Nat) :=
  let digits := text.takeWhile (· ≠ '\\')
  if digits.isEmpty then some none
  else if digits.all Char.isDigit then
    (Radix.ofDigits? 10 digits).bind fun n => if n < 65536 then some (some n) else none
  else none

/-- Host and port of an authority without user information. The host may be empty if hosts of the scheme are not
interpreted and neither port nor user information is there. -/
def hostAndPort? (scheme : String) (hasUser : Bool) (text : List Char) :
    Option (Option Host × Option Nat) :=
  let (hostText, after) := splitHost false text
  if hostText.isEmpty then
    if isSpecial scheme || hasUser || !after.isEmpty then none else some (none, none)
  else do
    let host ← if isSpecial scheme then Host.ofDomain? hostText else Host.uninterpreted? hostText
    let port ← port? (after.drop 1)
    return (some host, if port = defaultPort? scheme then none else port)

/-- The user information before the last at sign, if there is one, and what follows it. -/
def splitUser (authority : List Char) : Option (List Char) × List Char :=
  if authority.contains '@' then
    let after := (authority.reverse.takeWhile (· ≠ '@')).reverse
    (some (authority.take (authority.length - after.length - 1)), after)
  else (none, authority)

/-- Host and port of an authority. Empty user information is dropped, but an at sign alone cannot be followed by
more of the URL. -/
def authority? (scheme : String) (endsHere : Bool) (authority : List Char) :
    Option (Option Host × Option Nat) :=
  match splitUser authority with
  | (none, rest) => hostAndPort? scheme false rest
  | (some [], rest) =>
    if rest.isEmpty && !endsHere then none else hostAndPort? scheme false rest
  | (some user, rest) => hostAndPort? scheme (user ≠ [':']) rest

/-! ### URLs -/

/-- The URL of a scheme and the text from its authority on. -/
def afterSlashes? (scheme : String) (body : List Char) (hasQuery hasFragment : Bool) : Option Url := do
  let special := isSpecial scheme
  let (authority, path) := body.span fun c => !isSlash special c
  let endsHere := path.isEmpty && !hasQuery && !hasFragment
  let (host, port) ← authority? scheme endsHere authority
  return ⟨scheme, host, port, resolve [] (rawSegments special path), hasQuery, hasFragment⟩

/-- The host of a file URL: a drive is part of the path, the local host is no host, and a path that begins with a
drive has none. -/
def fileHost? (text path : List Char) : Option (Option Host) :=
  if text.isEmpty || isDrive text then some none
  else do
    let host ← Host.ofDomain? text
    if host = .domain "localhost" || beginsWithDrive [] (rawSegments true path) then some none
    else some (some host)

/-- The URL of a file. -/
def file? (body : List Char) (hasQuery hasFragment : Bool) : Option Url :=
  match body with
  | a :: b :: rest =>
    if isSlash true a && isSlash true b then do
      let (text, path) := rest.span fun c => !isSlash true c
      let host ← fileHost? text path
      return ⟨"file", host, none, resolve [] (rawSegments true path), hasQuery, hasFragment⟩
    else some ⟨"file", none, none, resolve [] (rawSegments true body), hasQuery, hasFragment⟩
  | _ => some ⟨"file", none, none, resolve [] (rawSegments true body), hasQuery, hasFragment⟩

def parse? (text : String) : Option Url := do
  let (scheme, rest) ← scheme? (clean text.toList)
  let (rest, hasFragment) := cutAt '#' rest
  let (body, hasQuery) := cutAt '?' rest
  if scheme = "file" then file? body hasQuery hasFragment
  else if isSpecial scheme then
    afterSlashes? scheme (body.dropWhile (isSlash true)) hasQuery hasFragment
  else
    -- without two slashes there is no authority, and all of the rest is a path
    match body with
    | '/' :: '/' :: rest => afterSlashes? scheme rest hasQuery hasFragment
    | _ => some ⟨scheme, none, none, resolve [] (rawSegments false body), hasQuery, hasFragment⟩

/-- Whether nothing stands behind the authority but perhaps one slash. -/
def isBare (url : Url) : Bool :=
  url.segments = [[]] && !url.hasQuery && !url.hasFragment

/-- Scheme, host and port as one text. -/
def origin (scheme : String) (host : Host) (port : Option Nat) : String :=
  scheme ++ "://" ++ host.toText ++
    (match port with
      | some port => ":" ++ toString port
      | none => "")

end Url

end WebAuthn
