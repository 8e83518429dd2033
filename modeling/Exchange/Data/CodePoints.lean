-- SUMMARY: Sets of code points and tables over them, written as ranges in hexadecimal.
import Exchange.Data.Bytes
import Exchange.Data.Cut

/-!
# Code points

Properties of characters are kept as closed ranges of code points. They are
written as lines of words in hexadecimal: `41` is one code point, `61-7a` a
range. In a table every word has a text behind a colon, which says something of
its range.
-/

namespace Exchange

/-- Closed ranges of code points. -/
abbrev CodePoints := List (Nat × Nat)

namespace CodePoints

def hexadecimal (cs : List Char) : Nat :=
  cs.foldl (fun n c => 16 * n + (Bytes.hexValue? c).getD 0) 0

/-- The range that a word spells. -/
def range (word : List Char) : Nat × Nat :=
  match cutAt '-' word with
  | [first, last] => (hexadecimal first, hexadecimal last)
  | _ => (hexadecimal word, hexadecimal word)

def words (lines : List String) : List (List Char) :=
  lines.flatMap fun line => cutAt ' ' line.toList

/-- The set that lines of ranges spell. -/
def ofLines (lines : List String) : CodePoints :=
  (words lines).map range

def isWithin (c : Char) (r : Nat × Nat) : Bool :=
  r.1 ≤ c.toNat && c.toNat ≤ r.2

def contains (s : CodePoints) (c : Char) : Bool :=
  s.any (isWithin c)

/-- Ranges with a text for each. -/
abbrev Table := List ((Nat × Nat) × List Char)

/-- The table that lines of ranges with texts spell. -/
def tableOfLines (lines : List String) : Table :=
  (words lines).map fun word =>
    (range (word.takeWhile (· ≠ ':')), (word.dropWhile (· ≠ ':')).drop 1)

/-- The range that a character is in, with its text. -/
def find? (t : Table) (c : Char) : Option ((Nat × Nat) × List Char) :=
  t.find? fun entry => isWithin c entry.1

end CodePoints

end Exchange
