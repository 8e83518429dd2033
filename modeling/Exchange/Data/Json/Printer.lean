-- SUMMARY: JSON text of structured values, compact and indented.
import Exchange.Data.Value
import Exchange.Data.Decimal

/-!
# Printing JSON

Compact text has no blank outside strings. Indented text puts every member and
every item on a line of its own, two blanks deeper than what holds it; empty
lists and objects stay together.
-/

namespace Exchange.Json

/-! ## Scalars -/

/-- How a character stands inside a string. -/
def escape (c : Char) : List Char :=
  if c = '"' then ['\\', '"']
  else if c = '\\' then ['\\', '\\']
  else if c = '\x08' then ['\\', 'b']
  else if c = '\x0c' then ['\\', 'f']
  else if c = '\n' then ['\\', 'n']
  else if c = '\r' then ['\\', 'r']
  else if c = '\t' then ['\\', 't']
  else if c.toNat < 0x20 then
    ['\\', 'u', '0', '0', Bytes.hexDigit (c.toNat / 16), Bytes.hexDigit (c.toNat % 16)]
  else [c]

def quote (s : List Char) : List Char :=
  '"' :: s.flatMap escape ++ ['"']

def printText (s : String) : List Char :=
  quote s.toList

def printNumber : Number → List Char
  | .int n => (toString n.val).toList
  | .double x => x.text.toList

/-! ## Compact text -/

mutual

def print : Value → List Char
  | .null => "null".toList
  | .bool true => "true".toList
  | .bool false => "false".toList
  | .number n => printNumber n
  | .text s => printText s
  | .list items => '[' :: printItems items ++ [']']
  | .object members => '\x7b' :: printMembers members ++ ['\x7d']

/-- The items of a list, separated by commas. -/
def printItems : List Value → List Char
  | [] => []
  | [v] => print v
  | v :: w :: rest => print v ++ ',' :: printItems (w :: rest)

/-- The members of an object, separated by commas. -/
def printMembers : List (String × Value) → List Char
  | [] => []
  | [(k, v)] => printText k ++ ':' :: print v
  | (k, v) :: m :: rest => printText k ++ ':' :: print v ++ ',' :: printMembers (m :: rest)

end

/-- The compact text of a value. -/
def text (v : Value) : String :=
  String.ofList (print v)

/-! ## Indented text -/

def newline (depth : Nat) : List Char :=
  '\n' :: List.replicate (2 * depth) ' '

mutual

def indent (depth : Nat) : Value → List Char
  | .list [] => ['[', ']']
  | .list items => '[' :: indentItems (depth + 1) items ++ newline depth ++ [']']
  | .object [] => ['\x7b', '\x7d']
  | .object members => '\x7b' :: indentMembers (depth + 1) members ++ newline depth ++ ['\x7d']
  | .null => print .null
  | .bool b => print (.bool b)
  | .number n => printNumber n
  | .text s => printText s

def indentItems (depth : Nat) : List Value → List Char
  | [] => []
  | [v] => newline depth ++ indent depth v
  | v :: w :: rest => newline depth ++ indent depth v ++ ',' :: indentItems depth (w :: rest)

def indentMembers (depth : Nat) : List (String × Value) → List Char
  | [] => []
  | [(k, v)] => newline depth ++ printText k ++ ':' :: ' ' :: indent depth v
  | (k, v) :: m :: rest =>
    newline depth ++ printText k ++ ':' :: ' ' :: indent depth v ++ ',' :: indentMembers depth (m :: rest)

end

/-- The indented text of a value. -/
def indented (v : Value) : String :=
  String.ofList (indent 0 v)

end Exchange.Json
