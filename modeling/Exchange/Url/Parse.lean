-- SUMMARY: Reading a URL: scheme, authority, and the normalised path.
import Exchange.Url.WebHost

/-!
# Reading URLs

The parser of the URL standard as far as scheme, host, port and path go.
Query and fragment are cut off. Schemes of the web are only checked for
validity; their hosts, ports and paths are not kept.
-/

namespace Exchange

/-- The parts of a URL of a scheme without rules of its own. -/
structure Url where
  scheme : String
  host : Option Url.Host := none
  port : Option Nat := none
  path : List Char := []

namespace Url

/-! ## Scheme -/

def isTabOrNewline (c : Char) : Bool :=
  c = '\t' || c = '\n' || c = '\r'

def isControlOrSpace (c : Char) : Bool :=
  c.toNat ≤ 0x20

/-- The text without control characters and spaces at its ends, and without tabs and line ends. -/
def clean (cs : List Char) : List Char :=
  (((cs.dropWhile isControlOrSpace).reverse.dropWhile isControlOrSpace).reverse).filter
    fun c => !isTabOrNewline c

def isLetter (c : Char) : Bool :=
  ('a' ≤ c && c ≤ 'z') || ('A' ≤ c && c ≤ 'Z')

def isSchemeChar (c : Char) : Bool :=
  isLetter c || c.isDigit || c = '+' || c = '-' || c = '.'

/-- The scheme in lower case and what follows its colon. -/
def readScheme (cs : List Char) : Option (String × List Char) :=
  match cs with
  | [] => none
  | c :: _ =>
    if isLetter c then
      match cs.dropWhile isSchemeChar with
      | ':' :: rest => some (String.ofList ((cs.takeWhile isSchemeChar).map Char.toLower), rest)
      | _ => none
    else none

/-- The schemes of the web, in which a backslash is a slash and the host is a domain. -/
def webSchemes : List (String × Nat) :=
  [("http", 80), ("https", 443), ("ws", 80), ("wss", 443), ("ftp", 21)]

/-! ## Authority -/

/-- Whether a character ends the authority. -/
def endsAuthority (web : Bool) (c : Char) : Bool :=
  c = '/' || c = '?' || c = '#' || (web && c = '\\')

/-- The text before the last `@`, if there is one, and the text after it. -/
def cutUser : List Char → Option (List Char) × List Char
  | [] => (none, [])
  | c :: rest =>
    match cutUser rest with
    | (some user, host) => (some (c :: user), host)
    | (none, host) => if c = '@' then (some [], host) else (none, c :: host)

/-- Takes the user off the front of an authority; `true` if there is a user to speak of. -/
def readUser (web : Bool) (cs : List Char) : Option (Bool × List Char) :=
  let authority := cs.takeWhile fun c => !endsAuthority web c
  let rest := cs.dropWhile fun c => !endsAuthority web c
  match cutUser authority with
  | (none, host) => some (false, host ++ rest)
  | (some [], []) => if rest.isEmpty then some (false, rest) else none
  | (some user, host) => some (user ≠ [] ∧ user ≠ [':'], host ++ rest)

/-- The host at the front: all before a slash, `?`, `#`, or a colon outside brackets. -/
def takeHost (web : Bool) : (inBrackets : Bool) → List Char → List Char × List Char
  | _, [] => ([], [])
  | inBrackets, c :: rest =>
    if endsAuthority web c || (c = ':' && !inBrackets) then ([], c :: rest)
    else
      let inBrackets := if c = '[' then true else if c = ']' then false else inBrackets
      let (host, rest) := takeHost web inBrackets rest
      (c :: host, rest)

/-- The port that digits spell, which sixteen bits must hold. -/
def portOf? (digits : List Char) : Option (Option Nat) :=
  if digits.isEmpty then some none
  else
    let n := digits.foldl (fun n c => 10 * n + (c.toNat - 48)) 0
    if n < 65536 then some (some n) else none

/-- Reads a port behind a colon. Nothing but a path, a query or a fragment may follow it. -/
def readPort (cs : List Char) : Option (Option Nat × List Char) :=
  match cs with
  | ':' :: rest => do
    let port ← portOf? (rest.takeWhile Char.isDigit)
    match rest.dropWhile Char.isDigit with
    | [] => some (port, [])
    | c :: rest => if endsAuthority true c then some (port, c :: rest) else none
  | cs => some (none, cs)

/-! ## Path -/

/-- Characters that are percent-encoded in a path. -/
def encodedInPath : List Char :=
  [' ', '"', '<', '>', '`', '#', '?', '\x7b', '\x7d']

def lower (cs : List Char) : List Char :=
  cs.map Char.toLower

/-- A segment that stands for its own place. -/
def isDot (segment : List Char) : Bool :=
  lower segment = ['.'] || lower segment = "%2e".toList

/-- A segment that stands for the place above. -/
def isDotDot (segment : List Char) : Bool :=
  ["..".toList, ".%2e".toList, "%2e.".toList, "%2e%2e".toList].contains (lower segment)

/-- A letter and a colon or a bar. -/
def isDriveLetter (segment : List Char) : Bool :=
  match segment with
  | [c, colon] => isLetter c && (colon = ':' || colon = '|')
  | _ => false

/-- Whether a segment is a drive letter, or starts with one and a backslash. -/
def isOnDrive (segment : List Char) : Bool :=
  isDriveLetter (segment.takeWhile (· ≠ '\\'))

/-- Leaves the innermost segment, unless it is on a drive. `above` is innermost first. -/
def leave (above : List (List Char)) : List (List Char) :=
  match above with
  | [] => []
  | segment :: rest => if isOnDrive segment then above else rest

/-- Resolves dots; the segments before are `above`, innermost first. A path that ends in dots ends in a slash. -/
def resolve (above : List (List Char)) : List (List Char) → List (List Char)
  | [] => above.reverse
  | [last] =>
    if isDotDot last then ([] :: leave above).reverse
    else if isDot last then ([] :: above).reverse
    else (last :: above).reverse
  | segment :: rest =>
    if isDotDot segment then resolve (leave above) rest
    else if isDot segment then resolve above rest
    else resolve (segment :: above) rest

/-- The path of segments, each with a slash before it. -/
def pathText (segments : List (List Char)) : List Char :=
  segments.flatMap ('/' :: ·)

/-- The normalised path that the text behind a first slash spells. -/
def readPath (cs : List Char) : List Char :=
  let encoded := percentEncode encodedInPath (cs.takeWhile fun c => c ≠ '?' ∧ c ≠ '#')
  pathText (resolve [] (cutAt '/' encoded))

/-- The path behind an authority; a slash is put before one that lacks it. -/
def pathAfterAuthority (cs : List Char) : List Char :=
  match cs with
  | [] => []
  | c :: rest => if c = '?' ∨ c = '#' then [] else if c = '/' then readPath rest else readPath (c :: rest)

/-- A path that does not start with a slash is kept as it is, up to the query. -/
def opaquePath (cs : List Char) : List Char :=
  percentEncode [] (cs.takeWhile fun c => c ≠ '?' ∧ c ≠ '#')

/-! ## Whole URLs -/

/-- Reads what follows `//`. -/
def readAuthority (scheme : String) (cs : List Char) : Option Url := do
  let (hasUser, cs) ← readUser false cs
  let (hostText, cs) := takeHost false false cs
  let host ← opaqueHost? hostText
  if host.isNone ∧ (hasUser ∨ cs.head? = some ':') then none
  else
    let (port, cs) ← readPort cs
    some { scheme, host, port, path := pathAfterAuthority cs }

/-- Whether a URL of a web scheme is valid. -/
def isWebUrl (cs : List Char) : Bool :=
  match readUser true (cs.dropWhile fun c => c = '/' || c = '\\') with
  | none => false
  | some (_, cs) =>
    let (host, cs) := takeHost true false cs
    isWebHost host && (readPort cs).isSome

/-- Whether a URL of the scheme `file` is valid. -/
def isFileUrl (cs : List Char) : Bool :=
  match cs with
  | a :: b :: rest =>
    if (a = '/' || a = '\\') && (b = '/' || b = '\\') then
      let host := rest.takeWhile fun c => !endsAuthority true c
      host.isEmpty || isDriveLetter host || isWebHost host
    else true
  | _ => true

/-- The URL that a text spells. -/
def parse? (text : String) : Option Url := do
  let (scheme, rest) ← readScheme (clean text.toList)
  if scheme = "file" then
    if isFileUrl rest then some { scheme } else none
  else if (webSchemes.lookup scheme).isSome then
    if isWebUrl rest then some { scheme } else none
  else
    match rest with
    | '/' :: '/' :: rest => readAuthority scheme rest
    | '/' :: rest => some { scheme, path := readPath rest }
    | rest => some { scheme, path := opaquePath rest }

end Url

end Exchange
