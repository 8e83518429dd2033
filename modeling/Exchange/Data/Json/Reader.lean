-- SUMMARY: Reading JSON text: one value, nested at most 127 deep, out of characters or UTF-8 bytes.
import Exchange.Data.Value
import Exchange.Data.Digits
import Exchange.Data.Utf8

/-!
# Reading JSON

Readers take a list of characters and give back what they read and what is
left. `Json.parse?` accepts exactly one value with blanks around it, and
`Json.ofBytes?` the same in UTF-8. Lists and objects may be nested 127 deep.
The loops count down a supply of steps that the length of the text bounds.
-/

namespace Exchange.Json

/-- Lists and objects may be nested this deep. -/
def maxDepth : Nat := 127

def isBlank (c : Char) : Bool :=
  c = ' ' || c = '\n' || c = '\t' || c = '\r'

def skipBlanks (cs : List Char) : List Char :=
  cs.dropWhile isBlank

/-! ## Strings -/

/-- The code unit that four hexadecimal digits spell. -/
def readUnit : List Char → Option (Nat × List Char)
  | a :: b :: c :: d :: rest => do
    let a ← Bytes.hexValue? a
    let b ← Bytes.hexValue? b
    let c ← Bytes.hexValue? c
    let d ← Bytes.hexValue? d
    some (4096 * a + 256 * b + 16 * c + d, rest)
  | _ => none

/-- The character after `\u`. Surrogates count only as a pair, high before low. -/
def readEscapedUnit (cs : List Char) : Option (Char × List Char) := do
  let (unit, rest) ← readUnit cs
  if unit < 0xd800 ∨ 0xe000 ≤ unit then some (Char.ofNat unit, rest)
  else if 0xdc00 ≤ unit then none
  else
    match rest with
    | '\\' :: 'u' :: rest =>
      let (low, rest) ← readUnit rest
      if 0xdc00 ≤ low ∧ low < 0xe000 then
        some (Char.ofNat (0x10000 + 1024 * (unit - 0xd800) + (low - 0xdc00)), rest)
      else none
    | _ => none

/-- The character after a backslash. -/
def readEscape : List Char → Option (Char × List Char)
  | '"' :: rest => some ('"', rest)
  | '\\' :: rest => some ('\\', rest)
  | '/' :: rest => some ('/', rest)
  | 'b' :: rest => some ('\x08', rest)
  | 'f' :: rest => some ('\x0c', rest)
  | 'n' :: rest => some ('\n', rest)
  | 'r' :: rest => some ('\r', rest)
  | 't' :: rest => some ('\t', rest)
  | 'u' :: rest => readEscapedUnit rest
  | _ => none

/-- The characters of a string up to its closing quote; `seen` holds those before, last first. -/
def readChars : (fuel : Nat) → (seen : List Char) → List Char → Option (List Char × List Char)
  | 0, _, _ => none
  | _ + 1, _, [] => none
  | fuel + 1, seen, c :: rest =>
    if c = '"' then some (seen.reverse, rest)
    else if c = '\\' then do
      let (c, rest) ← readEscape rest
      readChars fuel (c :: seen) rest
    else if c.toNat < 0x20 then none
    else readChars fuel (c :: seen) rest

/-- A string whose opening quote has been read. -/
def readText (cs : List Char) : Option (String × List Char) := do
  let (chars, rest) ← readChars (cs.length + 1) [] cs
  some (String.ofList chars, rest)

/-! ## Numbers -/

/-- The digits after a point, of which there must be one. -/
def readFraction : List Char → Option (Option (List Nat) × List Char)
  | '.' :: rest =>
    match Digits.read rest with
    | ([], _) => none
    | (digits, rest) => some (some digits, rest)
  | cs => some (none, cs)

/-- The number without point or exponent: an integer where sixty-four bits hold it and it is not `-0`. -/
def integral? (negative : Bool) (digits : List Nat) : Option Number :=
  let n : Int := if negative then -(Digits.toNat digits : Int) else Digits.toNat digits
  if h : (-2 ^ 63 ≤ n ∧ n < 2 ^ 64) ∧ ¬(negative ∧ n = 0) then some (.int ⟨n, h.1⟩)
  else (Double.ofScaled? negative digits [] none).map .double

/-- A number after its sign; of more than one whole digit the first is not zero. -/
def readMagnitude (negative : Bool) (cs : List Char) : Option (Number × List Char) := do
  let (whole, cs) := Digits.read cs
  match whole with
  | [] => none
  | 0 :: _ :: _ => none
  | whole =>
    let (fraction, cs) ← readFraction cs
    let (part, cs) ← Digits.readExponent cs
    match fraction, part with
    | none, none => do
      let n ← integral? negative whole
      some (n, cs)
    | fraction, part => do
      let x ← Double.ofScaled? negative whole (fraction.getD []) part
      some (.double x, cs)

def readNumber : List Char → Option (Number × List Char)
  | '-' :: rest => readMagnitude true rest
  | cs => readMagnitude false cs

/-! ## Values -/

/-- Strips `word` from the front of the text. -/
def readWord : (word : List Char) → List Char → Option (List Char)
  | [], cs => some cs
  | w :: word, c :: cs => if w = c then readWord word cs else none
  | _ :: _, [] => none

mutual

/-- A value; `depth` more lists and objects may be opened. -/
def readValue : (fuel depth : Nat) → List Char → Option (Value × List Char)
  | 0, _, _ => none
  | fuel + 1, depth, cs =>
    match skipBlanks cs with
    | [] => none
    | 'n' :: rest => do
      let rest ← readWord "ull".toList rest
      some (.null, rest)
    | 't' :: rest => do
      let rest ← readWord "rue".toList rest
      some (.bool true, rest)
    | 'f' :: rest => do
      let rest ← readWord "alse".toList rest
      some (.bool false, rest)
    | '"' :: rest => do
      let (s, rest) ← readText rest
      some (.text s, rest)
    | '[' :: rest =>
      match depth with
      | 0 => none
      | depth + 1 =>
        match skipBlanks rest with
        | ']' :: rest => some (.list [], rest)
        | rest => do
          let (items, rest) ← readItems fuel depth rest
          some (.list items, rest)
    | '\x7b' :: rest =>
      match depth with
      | 0 => none
      | depth + 1 =>
        match skipBlanks rest with
        | '\x7d' :: rest => some (.object [], rest)
        | rest => do
          let (members, rest) ← readMembers fuel depth [] rest
          some (.object members, rest)
    | c :: rest => do
      let (n, rest) ← readNumber (c :: rest)
      some (.number n, rest)

/-- The items of a list up to its closing bracket, of which there is one at least. -/
def readItems : (fuel depth : Nat) → List Char → Option (List Value × List Char)
  | 0, _, _ => none
  | fuel + 1, depth, cs => do
    let (v, rest) ← readValue fuel depth cs
    match skipBlanks rest with
    | ']' :: rest => some ([v], rest)
    | ',' :: rest =>
      let (items, rest) ← readItems fuel depth rest
      some (v :: items, rest)
    | _ => none

/-- The members of an object up to its closing brace, of which there is one at least; `seen` holds those before. -/
def readMembers : (fuel depth : Nat) → (seen : List (String × Value)) → List Char →
    Option (List (String × Value) × List Char)
  | 0, _, _, _ => none
  | fuel + 1, depth, seen, cs =>
    match skipBlanks cs with
    | '"' :: rest => do
      let (key, rest) ← readText rest
      match skipBlanks rest with
      | ':' :: rest =>
        let (v, rest) ← readValue fuel depth rest
        let seen := Members.insert key v seen
        match skipBlanks rest with
        | '\x7d' :: rest => some (seen, rest)
        | ',' :: rest => readMembers fuel depth seen rest
        | _ => none
      | _ => none
    | _ => none

end

/-- The value that a text spells, blanks around it aside. -/
def parseChars? (cs : List Char) : Option Value := do
  let (v, rest) ← readValue (cs.length + 1) maxDepth cs
  match skipBlanks rest with
  | [] => some v
  | _ => none

def parse? (text : String) : Option Value :=
  parseChars? text.toList

/-- The value that UTF-8 bytes spell. -/
def ofBytes? (bytes : Bytes) : Option Value := do
  parseChars? (← Utf8.decode? bytes)


end Exchange.Json
