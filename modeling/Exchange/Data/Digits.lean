-- SUMMARY: Runs of decimal digits, signs and exponents at the front of a text, and whole decimal literals.
import Exchange.Data.Decimal

/-!
# Digits in a text

Readers for the pieces that number formats share, and `Decimal.parse?`, which
reads a whole text as a decimal: an optional sign, digits with or without a
point among or beside them, and an optional exponent.
-/

namespace Exchange

namespace Digits

def value (c : Char) : Nat :=
  c.toNat - 48

/-- The digits that the text starts with, and the rest. -/
def read (cs : List Char) : List Nat × List Char :=
  ((cs.takeWhile Char.isDigit).map value, cs.dropWhile Char.isDigit)

/-- The number that digits spell. -/
def toNat (digits : List Nat) : Nat :=
  digits.foldl (fun n d => 10 * n + d) 0

/-- Whether a minus sign stands in front, and what follows the sign. -/
def readSign : List Char → Bool × List Char
  | '-' :: rest => (true, rest)
  | '+' :: rest => (false, rest)
  | cs => (false, cs)

/-- The exponent part, if the text starts with one. An `e` needs a digit after it. -/
def readExponent : List Char → Option (Option Double.ExponentPart × List Char)
  | [] => some (none, [])
  | c :: rest =>
    if c = 'e' ∨ c = 'E' then
      let (negative, rest) := readSign rest
      match read rest with
      | ([], _) => none
      | (digits, rest) => some (some ⟨negative, toNat digits⟩, rest)
    else some (none, c :: rest)

end Digits

namespace Decimal

/-- The sign and the magnitude of the decimal literal that a text is as a whole. -/
def parse? (cs : List Char) : Option (Bool × Decimal) := do
  let (negative, cs) := Digits.readSign cs
  let (whole, cs) := Digits.read cs
  let (fraction, cs) :=
    match cs with
    | '.' :: rest => Digits.read rest
    | cs => ([], cs)
  if whole.isEmpty ∧ fraction.isEmpty then none
  else
    let (part, cs) ← Digits.readExponent cs
    if cs.isEmpty then
      let exponent : Int :=
        match part with
        | none => 0
        | some e => if e.negative then -(e.digits : Int) else e.digits
      some (negative, ⟨Digits.toNat (whole ++ fraction), exponent - fraction.length⟩)
    else none

end Decimal

end Exchange
