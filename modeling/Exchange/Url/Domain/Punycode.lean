-- SUMMARY: Reading labels in which every character beyond ASCII is spelled with letters and digits.

/-!
# Punycode

A label spells its ASCII characters first, then a hyphen, then for each other
character, in ascending order, how far the pair of code point and place moves on
to it. These steps are numbers in base 36 with digits from the least significant
one on; thresholds that adapt to the size of the steps tell where one ends.
-/

namespace Exchange.Url.Punycode

/-- The value of a digit: the letters come before the digits. -/
def digit? (c : Char) : Option Nat :=
  if 'a' ≤ c ∧ c ≤ 'z' then some (c.toNat - 97)
  else if 'A' ≤ c ∧ c ≤ 'Z' then some (c.toNat - 65)
  else if '0' ≤ c ∧ c ≤ '9' then some (c.toNat - 22)
  else none

/-- Digits below this end a number, at position `k`. -/
def threshold (k bias : Nat) : Nat :=
  min 26 (max 1 (k - bias))

/-- The bias that a step asks for, once it is scaled. -/
def biasOf (step k : Nat) : Nat :=
  if 455 < step then biasOf (step / 35) (k + 36) else k + 36 * step / (step + 38)
termination_by step
decreasing_by exact Nat.div_lt_self (by omega) (by omega)

/-- The bias after a step, when the label has `size` characters. -/
def adapt (step size : Nat) (first : Bool) : Nat :=
  let step := if first then step / 700 else step / 2
  biasOf (step + step / size) 0

/-- The character of a code point. -/
def char? (n : Nat) : Option Char :=
  if n.isValidChar then some (Char.ofNat n) else none

structure State where
  /-- The label so far. -/
  label : List Char
  /-- The last code point that was inserted, and the place after it. -/
  point : Nat := 128
  place : Nat := 0
  bias : Nat := 72
  /-- The part of a number that was read, the weight of its next digit, and that digit's position. -/
  step : Nat := 0
  weight : Nat := 1
  k : Nat := 36

/-- Inserts the character that a whole step leads to. -/
def State.insert (s : State) : Option State := do
  let size := s.label.length + 1
  let place := s.place + s.step
  let point := s.point + place / size
  let c ← char? point
  some { label := s.label.insertIdx (place % size) c, point, place := place % size + 1,
         bias := adapt s.step size (s.place = 0) }

/-- Reads a digit. -/
def State.read (s : State) (c : Char) : Option State := do
  let d ← digit? c
  let s := { s with step := s.step + d * s.weight }
  let t := threshold s.k s.bias
  if d < t then s.insert else some { s with weight := s.weight * (36 - t), k := s.k + 36 }

/-- The ASCII characters of a label, and the digits behind the last hyphen that has something before it. -/
def split (cs : List Char) : List Char × List Char :=
  let digits := (cs.reverse.takeWhile (· ≠ '-')).reverse
  let basic := cs.take (cs.length - digits.length - 1)
  if basic.isEmpty then ([], cs) else (basic, digits)

/-- The label that a text spells. -/
def decode? (cs : List Char) : Option (List Char) :=
  let (basic, digits) := split cs
  match digits.foldlM State.read { label := basic } with
  | some s => if s.k = 36 then some s.label else none
  | none => none

end Exchange.Url.Punycode
