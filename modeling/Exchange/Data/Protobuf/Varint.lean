-- SUMMARY: Base-128 varints, zigzag integers, field keys and the skipping of unknown protobuf fields.
import Exchange.Data.Bytes

/-!
# Varints and fields

A varint spells a number below `2 ^ 64` in base 128, least significant digit
first, at most ten digits. A field starts with a key, which holds its number
and its wire type. `Protobuf.skip?` steps over a field that a message does not
know, groups with all that they hold.
-/

namespace Exchange.Protobuf

/-- Messages may be nested this deep. -/
def maxDepth : Nat := 100

/-! ## Varints -/

/-- The base-128 digits of `n`; all but the last are marked. -/
def digits128 : (fuel : Nat) → Nat → Bytes
  | 0, _ => []
  | fuel + 1, n =>
    if n < 128 then [UInt8.ofNat n] else UInt8.ofNat (128 + n % 128) :: digits128 fuel (n / 128)

/-- The varint of a number below `2 ^ 64`. -/
def varint (n : Nat) : Bytes :=
  digits128 10 n

/-- Reads at most `fuel` base-128 digits. -/
def readDigits128 : (fuel : Nat) → Bytes → Option (Nat × Bytes)
  | 0, _ => none
  | _, [] => none
  | fuel + 1, b :: rest =>
    if b.toNat < 128 then some (b.toNat, rest)
    else do
      let (n, rest) ← readDigits128 fuel rest
      some (b.toNat - 128 + 128 * n, rest)

/-- Reads a varint, which must spell a number below `2 ^ 64`. -/
def readVarint (bytes : Bytes) : Option (Nat × Bytes) := do
  let (n, rest) ← readDigits128 10 bytes
  if n < 2 ^ 64 then some (n, rest) else none

/-- Maps small magnitudes of either sign to small numbers. -/
def zigzag (n : Int) : Nat :=
  if 0 ≤ n then 2 * n.toNat else 2 * (-n).toNat - 1

def unzigzag (n : Nat) : Int :=
  if n % 2 = 0 then (n / 2 : Nat) else -((n + 1) / 2 : Nat)

/-! ## Fields -/

inductive WireType where
  | varint | fixed64 | length | groupStart | groupEnd | fixed32
  deriving DecidableEq, Repr

namespace WireType

def toNat : WireType → Nat
  | varint => 0
  | fixed64 => 1
  | length => 2
  | groupStart => 3
  | groupEnd => 4
  | fixed32 => 5

def ofNat? : Nat → Option WireType
  | 0 => some varint
  | 1 => some fixed64
  | 2 => some length
  | 3 => some groupStart
  | 4 => some groupEnd
  | 5 => some fixed32
  | _ => none

end WireType

/-- The key of the field with a number and a wire type. -/
def key (number : Nat) (wire : WireType) : Bytes :=
  varint (8 * number + wire.toNat)

/-- Reads a key. Field numbers start at one, and a key fits thirty-two bits. -/
def readKey (bytes : Bytes) : Option (Nat × WireType × Bytes) := do
  let (n, rest) ← readVarint bytes
  if 2 ^ 32 ≤ n ∨ n / 8 = 0 then none
  else
    let wire ← WireType.ofNat? (n % 8)
    some (n / 8, wire, rest)

/-- The first `n` bytes and the rest, if there are that many. -/
def splitAt? (n : Nat) (bytes : Bytes) : Option (Bytes × Bytes) :=
  if n ≤ bytes.length then some (bytes.take n, bytes.drop n) else none

/-- Reads a length and that many bytes. -/
def readBlock (bytes : Bytes) : Option (Bytes × Bytes) := do
  let (n, rest) ← readVarint bytes
  splitAt? n rest

/-- A field that holds a block of bytes. -/
def block (number : Nat) (body : Bytes) : Bytes :=
  key number .length ++ varint body.length ++ body

mutual

/-- What follows an unknown field whose key has been read. Even this takes one level of nesting. -/
def skip? : (fuel depth number : Nat) → WireType → Bytes → Option Bytes
  | 0, _, _, _, _ => none
  | _, 0, _, _, _ => none
  | fuel + 1, depth + 1, number, wire, bytes =>
    match wire with
    | .varint => (readVarint bytes).map (·.2)
    | .fixed64 => (splitAt? 8 bytes).map (·.2)
    | .fixed32 => (splitAt? 4 bytes).map (·.2)
    | .length => (readBlock bytes).map (·.2)
    | .groupStart => skipGroup? fuel depth number bytes
    | .groupEnd => none

/-- What follows the group `number` whose start has been read. -/
def skipGroup? : (fuel depth number : Nat) → Bytes → Option Bytes
  | 0, _, _, _ => none
  | fuel + 1, depth, number, bytes => do
    let (inner, wire, rest) ← readKey bytes
    if wire = .groupEnd then
      if inner = number then some rest else none
    else
      let rest ← skip? fuel depth inner wire rest
      skipGroup? fuel depth number rest

end

end Exchange.Protobuf
