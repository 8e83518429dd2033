-- SUMMARY: UTF-8: characters as one to four bytes, and the strict reading of byte strings.
import Exchange.Data.Bytes

/-!
# UTF-8

`Utf8.encode` writes each character in its shortest form. `Utf8.decode?`
accepts exactly the strict form: no overlong sequence, no surrogate, nothing
above `U+10FFFF`, nothing cut short.
-/

namespace Exchange.Utf8

/-- The bytes of one character. -/
def encodeChar (c : Char) : Bytes :=
  let n := c.toNat
  if n < 0x80 then [UInt8.ofNat n]
  else if n < 0x800 then [UInt8.ofNat (0xc0 + n / 64), UInt8.ofNat (0x80 + n % 64)]
  else if n < 0x10000 then
    [UInt8.ofNat (0xe0 + n / 4096), UInt8.ofNat (0x80 + n / 64 % 64), UInt8.ofNat (0x80 + n % 64)]
  else
    [UInt8.ofNat (0xf0 + n / 262144), UInt8.ofNat (0x80 + n / 4096 % 64),
      UInt8.ofNat (0x80 + n / 64 % 64), UInt8.ofNat (0x80 + n % 64)]

def encode (chars : List Char) : Bytes :=
  chars.flatMap encodeChar

/-- The bytes of a text. -/
def ofString (text : String) : Bytes :=
  encode text.toList

/-- The six low bits of a continuation byte. -/
def continuation? (b : UInt8) : Option Nat :=
  if 0x80 ≤ b.toNat ∧ b.toNat < 0xc0 then some (b.toNat - 0x80) else none

/-- The character with code point `n`, provided `n` needs at least `least` and is no surrogate. -/
def scalar? (least n : Nat) : Option Char :=
  if least ≤ n then
    if h : n.isValidChar then some (Char.ofNatAux n h) else none
  else none

/-- The characters that `bytes` spell, if they are strict UTF-8. -/
def decode? : Bytes → Option (List Char)
  | [] => some []
  | b :: rest =>
    if b.toNat < 0x80 then do
      let c ← scalar? 0 b.toNat
      let cs ← decode? rest
      some (c :: cs)
    else if b.toNat < 0xc0 then none
    else if b.toNat < 0xe0 then
      match rest with
      | x :: rest => do
        let x ← continuation? x
        let c ← scalar? 0x80 (64 * (b.toNat - 0xc0) + x)
        let cs ← decode? rest
        some (c :: cs)
      | _ => none
    else if b.toNat < 0xf0 then
      match rest with
      | x :: y :: rest => do
        let x ← continuation? x
        let y ← continuation? y
        let c ← scalar? 0x800 (4096 * (b.toNat - 0xe0) + 64 * x + y)
        let cs ← decode? rest
        some (c :: cs)
      | _ => none
    else if b.toNat < 0xf8 then
      match rest with
      | x :: y :: z :: rest => do
        let x ← continuation? x
        let y ← continuation? y
        let z ← continuation? z
        let c ← scalar? 0x10000 (262144 * (b.toNat - 0xf0) + 4096 * x + 64 * y + z)
        let cs ← decode? rest
        some (c :: cs)
      | _ => none
    else none

/-- The text that `bytes` spell, if they are strict UTF-8. -/
def toString? (bytes : Bytes) : Option String :=
  (decode? bytes).map String.ofList

end Exchange.Utf8
