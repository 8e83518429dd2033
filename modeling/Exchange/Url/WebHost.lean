-- SUMMARY: Hosts in the schemes of the web: domains, and IPv4 addresses in their several spellings.
import Exchange.Url.Domain

/-!
# Hosts of the web

The schemes of the web read their hosts as domains, of which only the validity
is asked here. A domain that ends in a number has to be an IPv4 address.
-/

namespace Exchange.Url

/-! ## Percent-decoding -/

/-- The bytes of a text in which `%` and two hexadecimal digits stand for one byte. -/
def percentDecode : List Char → Bytes
  | '%' :: a :: b :: rest =>
    match hexDigit? a, hexDigit? b with
    | some h, some l => UInt8.ofNat (16 * h + l) :: percentDecode rest
    | _, _ => UInt8.ofNat 37 :: percentDecode (a :: b :: rest)
  | c :: rest => Utf8.encodeChar c ++ percentDecode rest
  | [] => []

/-! ## IPv4 addresses -/

/-- The labels of a domain, an empty one at the end aside. -/
def labels (cs : List Char) : List (List Char) :=
  let parts := cutAt '.' cs
  if 1 < parts.length ∧ parts.getLast? = some [] then parts.dropLast else parts

def isHexNumber (cs : List Char) : Bool :=
  match cs with
  | '0' :: x :: rest => (x = 'x' || x = 'X') && rest.all fun c => (hexDigit? c).isSome
  | _ => false

/-- Whether a domain has to be an IPv4 address. -/
def endsInNumber (cs : List Char) : Bool :=
  match (labels cs).getLast? with
  | some last => (!last.isEmpty && last.all Char.isDigit) || isHexNumber last
  | none => false

/-- A number of an IPv4 address in decimal, octal or hexadecimal. -/
def addressNumber? (cs : List Char) : Option Nat :=
  if cs.isEmpty then none
  else if isHexNumber cs then
    some ((cs.drop 2).foldl (fun n c => 16 * n + (hexDigit? c).getD 0) 0)
  else
    match cs with
    | '0' :: rest =>
      if rest.all fun c => '0' ≤ c ∧ c ≤ '7' then
        some (rest.foldl (fun n c => 8 * n + (c.toNat - 48)) 0)
      else none
    | cs => if cs.all Char.isDigit then some (cs.foldl (fun n c => 10 * n + (c.toNat - 48)) 0) else none

/-- Whether a domain that ends in a number is an IPv4 address. -/
def isAddress (cs : List Char) : Bool :=
  let parts := labels cs
  match parts.mapM addressNumber? with
  | some numbers =>
    let last := numbers.getLast?.getD 0
    parts.length ≤ 4 && numbers.dropLast.all (· ≤ 255) && last < 256 ^ (5 - parts.length)
  | none => false

/-! ## Hosts of the web -/

/-- Whether a text is a host in the schemes of the web. -/
def isWebHost (cs : List Char) : Bool :=
  if cs.head? = some '[' then ((bracketed? cs).bind readAddress).isSome
  else
    match Utf8.decode? (percentDecode cs) with
    | some decoded =>
      match Domain.fold? decoded with
      | some text => !text.isEmpty && (!endsInNumber text || isAddress text)
      | none => false
    | none => false

end Exchange.Url
