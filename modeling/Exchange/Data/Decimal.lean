-- SUMMARY: Decimal notation of doubles: the fewest digits that read back, and two ways of reading digits.
import Exchange.Data.Double

/-!
# Decimal notation

`Double.shortest` finds the decimal with the fewest digits among those that
round back to a double, the nearest of them if there are several, and
`Double.text` writes it. Digits are read in one of two ways: `Double.ofDecimal?`
rounds the exact value once; `Double.ofScaled?` rounds the leading digits that
fit sixty-four bits and multiplies or divides by a rounded power of ten.
-/

namespace Exchange

/-- The number `digits * 10 ^ exponent`. -/
structure Decimal where
  digits : Nat
  exponent : Int
  deriving DecidableEq, Repr

namespace Double

/-! ## The shortest decimal -/

/-- The number of decimal digits of a number. -/
def digitCount (n : Nat) : Nat :=
  (Nat.toDigits 10 n).length

/-- The least `j` with `den ≤ num * 10 ^ j`, counted from `j`. -/
def leadingZeros (den : Nat) : (fuel : Nat) → (num : Nat) → Nat
  | 0, _ => 0
  | fuel + 1, num => if den ≤ num then 0 else leadingZeros den fuel (num * 10) + 1

/-- The exponent of the leading decimal digit of `num / den`. -/
def leadingExponent (num den : Nat) : Int :=
  if den ≤ num then digitCount (num / den) - 1 else -(leadingZeros den 400 num : Int)

/-- The decimal neighbour of a double on the grid `10 ^ exponent` that rounds back to it. -/
def onGrid? (code : Nat) (exponent : Int) : Option Decimal :=
  let up := 10 ^ (-exponent).toNat
  let unit := 10 ^ exponent.toNat * 2 ^ 1075
  let value := 2 * unitsOf code * up
  let least := (unitsOf (code - 1) + unitsOf code) * up
  let most := (unitsOf code + unitsOf (code + 1)) * up
  let inside (d : Nat) : Bool :=
    if code % 2 = 0 then least ≤ d * unit ∧ d * unit ≤ most
    else least < d * unit ∧ d * unit < most
  let below := value / unit
  let above := below + 1
  let fromBelow := value - below * unit
  let fromAbove := above * unit - value
  match inside below, inside above with
  | true, true =>
    if fromBelow < fromAbove ∨ (fromBelow = fromAbove ∧ below % 2 = 0) then some ⟨below, exponent⟩
    else some ⟨above, exponent⟩
  | true, false => some ⟨below, exponent⟩
  | false, true => some ⟨above, exponent⟩
  | false, false => none

/-- Drops the zeros at the end of the digits. -/
def trimZeros : (fuel : Nat) → Decimal → Decimal
  | 0, d => d
  | fuel + 1, d =>
    if d.digits % 10 = 0 ∧ d.digits ≠ 0 then trimZeros fuel ⟨d.digits / 10, d.exponent + 1⟩ else d

/-- The decimal of fewest digits that rounds to the magnitude of a double. -/
def shortest (x : Double) : Decimal :=
  let lead := leadingExponent (2 * x.units) (2 ^ 1075)
  match (List.range 17).findSome? fun (n : Nat) => onGrid? x.code (lead - n) with
  | some d => trimZeros 20 d
  | none => ⟨0, 0⟩

/-- Digits with a point are used while the leading exponent lies between these two. -/
def positional (exponent : Int) : Bool :=
  -5 ≤ exponent ∧ exponent ≤ 15

/-- The text of a magnitude. A point is always followed by a digit; exponents carry their sign. -/
def magnitudeText (x : Double) : String :=
  if x.code = 0 then "0.0"
  else
    let d := x.shortest
    let digits := Nat.toDigits 10 d.digits
    let lead := d.exponent + digits.length - 1
    if positional lead then
      if lead < 0 then
        String.ofList ('0' :: '.' :: List.replicate ((-lead).toNat - 1) '0' ++ digits)
      else
        let whole := lead.toNat + 1
        let fraction := digits.drop whole
        String.ofList (digits.take whole ++ List.replicate (whole - digits.length) '0' ++ '.' ::
          if fraction.isEmpty then ['0'] else fraction)
    else
      let fraction := digits.drop 1
      let point := if fraction.isEmpty then [] else '.' :: fraction
      let sign := if lead < 0 then '-' else '+'
      String.ofList (digits.take 1 ++ point ++ 'e' :: sign :: Nat.toDigits 10 lead.natAbs)

def text (x : Double) : String :=
  if x.negative then "-" ++ x.magnitudeText else x.magnitudeText

/-! ## Reading digits -/

/-- The double nearest to `digits * 10 ^ exponent`, unless that is infinite. -/
def ofDecimal? (negative : Bool) (d : Decimal) : Option Double :=
  let lead := d.exponent + digitCount d.digits
  if d.digits = 0 ∨ lead < -330 then some (zero negative)
  else if 310 < lead then none
  else nearest? negative (d.digits * 10 ^ d.exponent.toNat) (10 ^ (-d.exponent).toNat)

/-- The double nearest to a power of ten that is not infinite. -/
def powerOfTen (n : Nat) : Double :=
  (nearest? false (10 ^ n) 1).getD (zero false)

/-- The largest power of ten that a double can come near. -/
def maxPower : Nat := 308

/-- `x * 10 ^ exponent` by rounded powers of ten, unless that is infinite. -/
def scale? : (fuel : Nat) → Double → (exponent : Int) → Option Double
  | 0, x, _ => some x
  | fuel + 1, x, exponent =>
    if exponent.natAbs ≤ maxPower then
      if 0 ≤ exponent then x.mul? (powerOfTen exponent.natAbs) else x.div? (powerOfTen exponent.natAbs)
    else if x.code = 0 then some x
    else if 0 ≤ exponent then none
    else do
      let y ← x.div? (powerOfTen maxPower)
      scale? fuel y (exponent + maxPower)

/-- Adds digits to `significand` while sixty-four bits hold the result; also counts them. -/
def absorb (significand : Nat) : List Nat → Nat × Nat
  | [] => (significand, 0)
  | d :: rest =>
    if significand * 10 + d < 2 ^ 64 then
      let (s, n) := absorb (significand * 10 + d) rest
      (s, n + 1)
    else (significand, 0)

/-- The exponent part of a literal: its sign and its digits. -/
structure ExponentPart where
  negative : Bool
  digits : Nat
  deriving Repr

/-- The double that a literal with these digits before and after the point denotes. -/
def ofScaled? (negative : Bool) (whole fraction : List Nat) (part : Option ExponentPart) :
    Option Double :=
  let (s, n) := absorb 0 whole
  let (significand, m) := absorb s fraction
  let base : Int := (whole.length - n : Nat) - (m : Nat)
  let magnitude : Option Double :=
    match part with
    | none => do scale? 5 (← nearest? false significand 1) base
    | some e =>
      if 2 ^ 31 ≤ e.digits then
        if significand ≠ 0 ∧ !e.negative then none else some (zero false)
      else do
        scale? 5 (← nearest? false significand 1) (base + if e.negative then -(e.digits : Int) else e.digits)
  magnitude.map fun x => { x with negative := negative }

end Double

end Exchange
