-- SUMMARY: Hosts of URLs: opaque names, IPv4 numbers and IPv6 addresses, their reading and their text.
import Exchange.Data.Cut
import Exchange.Data.Utf8

/-!
# Hosts

The host rules of the URL standard. Schemes without rules of their own
have opaque hosts, in which control characters and everything outside ASCII is
percent-encoded; an address in brackets is IPv6 in every scheme.
-/

namespace Exchange.Url

/-! ## Percent-encoding -/

/-- One of the sixteen upper-case hexadecimal digits. -/
def upperHex (n : Nat) : Char :=
  if n < 10 then Char.ofNat (48 + n) else Char.ofNat (55 + n)

def percentByte (b : UInt8) : List Char :=
  ['%', upperHex (b.toNat / 16), upperHex (b.toNat % 16)]

/-- Percent-encodes the control characters, what is not ASCII, and the characters of `also`. -/
def percentEncode (also : List Char) (cs : List Char) : List Char :=
  cs.flatMap fun c =>
    if c.toNat < 0x20 ∨ 0x7f ≤ c.toNat ∨ c ∈ also then
      (Utf8.encodeChar c).flatMap percentByte
    else [c]

/-! ## IPv6 addresses -/

def hexDigit? (c : Char) : Option Nat :=
  Bytes.hexValue? c

/-- At most `count` hexadecimal digits from the front, as a number, how many they are, and the rest. -/
def readHex : (count : Nat) → List Char → Nat × Nat × List Char
  | 0, cs => (0, 0, cs)
  | _ + 1, [] => (0, 0, [])
  | count + 1, c :: rest =>
    match hexDigit? c with
    | some d =>
      let (n, k, left) := readHex count rest
      (d * 16 ^ k + n, k + 1, left)
    | none => (0, 0, c :: rest)

/-- A number of the dotted part, without leading zeros and at most 255. -/
def dottedNumber? (cs : List Char) : Option Nat :=
  match cs with
  | [] => none
  | ['0'] => some 0
  | '0' :: _ => none
  | cs =>
    if cs.length ≤ 3 ∧ cs.all Char.isDigit then
      let n := cs.foldl (fun n c => 10 * n + (c.toNat - 48)) 0
      if n ≤ 255 then some n else none
    else none

/-- The two pieces of an address that four dotted numbers spell. -/
def dottedPieces? (cs : List Char) : Option (List Nat) :=
  match (cutAt '.' cs).mapM dottedNumber? with
  | some [a, b, c, d] => some [256 * a + b, 256 * c + d]
  | _ => none

/-- The pieces of an address before and after its `::`, if it has one. -/
structure Pieces where
  before : List Nat
  after : Option (List Nat)

/-- Adds a piece behind those read so far. -/
def Pieces.push (p : Pieces) (pieces : List Nat) : Pieces :=
  match p.after with
  | none => { p with before := p.before ++ pieces }
  | some after => { p with after := some (after ++ pieces) }

/-- How many pieces are taken, `::` standing for one at least. -/
def Pieces.count (p : Pieces) : Nat :=
  p.before.length + match p.after with
    | none => 0
    | some after => after.length + 1

/-- Reads pieces from the front, a piece or `:` at a time. -/
def readPieces : (fuel : Nat) → Pieces → List Char → Option Pieces
  | _, p, [] => some p
  | 0, _, _ => none
  | fuel + 1, p, c :: rest =>
    if p.count = 8 then none
    else if c = ':' then
      match p.after with
      | some _ => none
      | none => readPieces fuel { p with after := some [] } rest
    else
      let (n, k, left) := readHex 4 (c :: rest)
      match left with
      | [] => some (p.push [n])
      | '.' :: _ =>
        if k = 0 ∨ 6 < p.count then none
        else (dottedPieces? (c :: rest)).map p.push
      | ':' :: left => if left.isEmpty then none else readPieces fuel (p.push [n]) left
      | _ => none

/-- The eight pieces that a text without its brackets spells. -/
def readAddress (cs : List Char) : Option (List Nat) := do
  let pieces ←
    match cs with
    | [] | [_] => none
    | ':' :: ':' :: rest => readPieces cs.length ⟨[], some []⟩ rest
    | ':' :: _ => none
    | cs => readPieces cs.length ⟨[], none⟩ cs
  match pieces.after with
  | none => if pieces.before.length = 8 then some pieces.before else none
  | some after =>
    some (pieces.before ++ List.replicate (8 - pieces.before.length - after.length) 0 ++ after)

/-- How many zeros stand at the front. -/
def zeroRun (pieces : List Nat) : Nat :=
  (pieces.takeWhile (· = 0)).length

/-- Where the longest run of zeros starts and how long it is; of equal ones the first. -/
def longestZeros : (start : Nat) → List Nat → Nat × Nat
  | start, [] => (start, 0)
  | start, p :: rest =>
    let here := zeroRun (p :: rest)
    let (place, length) := longestZeros (start + 1) rest
    if length ≤ here then (start, here) else (place, length)

def hexText (n : Nat) : List Char :=
  Nat.toDigits 16 n

/-- Pieces in hexadecimal with colons between them. -/
def colonText : List Nat → List Char
  | [] => []
  | [p] => hexText p
  | p :: q :: rest => hexText p ++ ':' :: colonText (q :: rest)

def dottedText (p q : Nat) : List Char :=
  String.toList (toString (p / 256) ++ "." ++ toString (p % 256) ++ "." ++
    toString (q / 256) ++ "." ++ toString (q % 256))

/-- The text of an address: mapped IPv4 addresses keep their dots, the longest run of two or more zeros is `::`. -/
def addressText (pieces : List Nat) : List Char :=
  match pieces with
  | [0, 0, 0, 0, 0, 0xffff, p, q] => "::ffff:".toList ++ dottedText p q
  | pieces =>
    let (start, length) := longestZeros 0 pieces
    if 1 < length then
      colonText (pieces.take start) ++ ':' :: ':' :: colonText (pieces.drop (start + length))
    else colonText pieces

/-! ## Opaque hosts -/

/-- Characters that no opaque host may hold. -/
def forbiddenInHost : List Char :=
  ['\x00', '\t', '\n', '\r', ' ', '#', '/', ':', '<', '>', '?', '@', '[', '\\', ']', '^', '|']

/-- The text inside a pair of brackets that encloses all of `cs`, when the first one is there. -/
def bracketed? (cs : List Char) : Option (List Char) :=
  match cs with
  | '[' :: rest => if rest.getLast? = some ']' then some rest.dropLast else none
  | _ => none

/-- A host, whose name or address is not empty. -/
inductive Host where
  | name (text : List Char)
  | address (pieces : List Nat)
  deriving DecidableEq, Repr

/-- The host that stands in a scheme without rules of its own; `some none` where there is no host. -/
def opaqueHost? (cs : List Char) : Option (Option Host) :=
  if cs.head? = some '[' then do
    let pieces ← readAddress (← bracketed? cs)
    some (some (.address pieces))
  else if cs.any (· ∈ forbiddenInHost) then none
  else if cs.isEmpty then some none
  else some (some (.name (percentEncode [] cs)))

end Exchange.Url
