-- SUMMARY: Finite binary64 numbers as sign and code, their exact values, and rounding to the nearest.
import Exchange.Data.Bytes

/-!
# Doubles

A finite binary64 number is a sign and a *code*: its 63 low bits read as a
number, so that consecutive magnitudes have consecutive codes. The exact value
of a magnitude is a whole number of units, one unit being `2 ^ -1074`. All
arithmetic is on exact values followed by one rounding to the nearest double,
ties to the even code.
-/

namespace Exchange

/-- Codes from here on belong to infinity and to the values that are no number. -/
abbrev Double.infinity : Nat := 2047 * 2 ^ 52

/-- A finite binary64 number. -/
structure Double where
  negative : Bool
  code : Nat
  finite : code < Double.infinity
  deriving DecidableEq, Repr

namespace Double

/-! ## Exact values -/

/-- The exact value of a magnitude in units of `2 ^ -1074`. -/
def unitsOf (code : Nat) : Nat :=
  let exponent := code / 2 ^ 52
  let fraction := code % 2 ^ 52
  if exponent = 0 then fraction else (2 ^ 52 + fraction) * 2 ^ (exponent - 1)

/-- The magnitude of a double in units of `2 ^ -1074`. -/
def units (x : Double) : Nat :=
  unitsOf x.code

/-- The whole part of the magnitude. -/
def floor (x : Double) : Nat :=
  x.units / 2 ^ 1074

/-- The number without its fraction. -/
def trunc (x : Double) : Int :=
  if x.negative then -x.floor else x.floor

def zero (negative : Bool) : Double :=
  ⟨negative, 0, by decide⟩

/-! ## Rounding -/

/-- `num / den` as a whole number, the nearer one, a half going to the even one. -/
def roundHalfEven (num den : Nat) : Nat :=
  let q := num / den
  let r := num % den
  if 2 * r < den then q
  else if den < 2 * r then q + 1
  else if q % 2 = 0 then q else q + 1

/-- How many doublings separate the spacing of doubles around `num / den` from one unit. -/
def spacing (num den : Nat) : Nat :=
  let n := num.log2 + 1022
  let d := den.log2
  let s := n - d
  if num * 2 ^ d < den * 2 ^ num.log2 then s - 1 else s

/-- The code of the magnitude nearest to `num / den`, which may be past every finite code. -/
def nearestCode (num den : Nat) : Nat :=
  if num = 0 then 0
  else
    let s := spacing num den
    roundHalfEven (num * 2 ^ 1074) (den * 2 ^ s) + s * 2 ^ 52

/-- The double nearest to `num / den`, unless that is infinite. -/
def nearest? (negative : Bool) (num den : Nat) : Option Double :=
  let code := nearestCode num den
  if h : code < infinity then some ⟨negative, code, h⟩ else none

/-- The double nearest to a whole number, unless that is infinite. -/
def ofInt? (n : Int) : Option Double :=
  nearest? (n < 0) n.natAbs 1

/-- The product of two doubles, unless it is infinite. -/
def mul? (x y : Double) : Option Double :=
  nearest? (x.negative != y.negative) (x.units * y.units) (2 ^ 2148)

/-- The quotient by a double that is not zero, unless it is infinite. -/
def div? (x y : Double) : Option Double :=
  nearest? (x.negative != y.negative) x.units y.units

/-! ## The sixty-four bits -/

/-- The number that the sixty-four bits spell. -/
def bits (x : Double) : Nat :=
  (if x.negative then 2 ^ 63 else 0) + x.code

/-- The finite double with the given sixty-four bits. -/
def ofBits? (bits : Nat) : Option Double :=
  let code := bits % 2 ^ 63
  if h : code < infinity then some ⟨decide (bits / 2 ^ 63 % 2 = 1), code, h⟩ else none

def toBytesLE (x : Double) : Bytes :=
  Bytes.ofNatLE 8 x.bits

theorem bits_lt (x : Double) : x.bits < 2 ^ 64 := by
  have := x.finite
  unfold infinity at this
  unfold bits
  split <;> omega

@[simp] theorem ofBits?_bits (x : Double) : ofBits? x.bits = some x := by
  obtain ⟨negative, code, h⟩ := x
  have hc : code < 2 ^ 63 := Nat.lt_trans h (by decide)
  cases negative
  · have h1 : code % 2 ^ 63 = code := Nat.mod_eq_of_lt hc
    have h2 : code / 2 ^ 63 = 0 := Nat.div_eq_of_lt hc
    simp only [ofBits?, bits, Bool.false_eq_true, ↓reduceIte, Nat.zero_add, h1, h2, h, ↓reduceDIte]
    simp
  · have h1 : (2 ^ 63 + code) % 2 ^ 63 = code := by omega
    have h2 : (2 ^ 63 + code) / 2 ^ 63 = 1 := by omega
    simp only [ofBits?, bits, ↓reduceIte, h1, h2, h, ↓reduceDIte]
    simp

end Double

end Exchange
