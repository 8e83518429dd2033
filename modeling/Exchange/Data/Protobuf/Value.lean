-- SUMMARY: Structured values as protobuf messages: writing, reading with merging, and nesting depth.
import Exchange.Data.Value
import Exchange.Data.Utf8
import Exchange.Data.Protobuf.Varint

/-!
# Values in protobuf

A value is a message with one field, which tells its kind: null 1 (an empty
message), boolean 2, signed integer 3 (zigzag), unsigned integer 4, double 5,
text 6, list 7 (a message whose field 1 repeats), object 8 (a message whose
field 1 holds entries of a key 1 and a value 2). An empty message is null.

Reading follows the rules of protobuf: unknown fields are skipped, the last
kind wins, and a list or an object that comes again adds to the one before.
`Value.messageDepth` counts how many messages are open inside one another at
the deepest place; reading allows a hundred.
-/

namespace Exchange

/-- How many messages of a value are open inside one another at the deepest place. -/
def Value.messageDepth : Value → Nat
  | .bool _ | .number _ | .text _ => 0
  | .null => 1
  | .list items => itemsDepth items
  | .object members => membersDepth members
where
  itemsDepth : List Value → Nat
    | [] => 1
    | v :: rest => max (2 + v.messageDepth) (itemsDepth rest)
  membersDepth : List (String × Value) → Nat
    | [] => 1
    | (_, v) :: rest => max (3 + v.messageDepth) (membersDepth rest)

namespace Protobuf

/-! ## Writing -/

/-- A text field; the empty text is left out. -/
def keyField (name : String) : Bytes :=
  if name.isEmpty then [] else block 1 (Utf8.ofString name)

def writeNumber : Number → Bytes
  | .int n =>
    if 0 ≤ n.val then key 4 .varint ++ varint n.val.toNat
    else key 3 .varint ++ varint (zigzag n.val)
  | .double x => key 5 .fixed64 ++ x.toBytesLE

mutual

/-- The message of a value. -/
def write : Value → Bytes
  | .null => block 1 []
  | .bool b => key 2 .varint ++ varint (if b then 1 else 0)
  | .number n => writeNumber n
  | .text s => block 6 (Utf8.ofString s)
  | .list items => block 7 (writeItems items)
  | .object members => block 8 (writeMembers members)

def writeItems : List Value → Bytes
  | [] => []
  | v :: rest => block 1 (write v) ++ writeItems rest

def writeMembers : List (String × Value) → Bytes
  | [] => []
  | (k, v) :: rest => block 1 (keyField k ++ block 2 (write v)) ++ writeMembers rest

end

/-! ## Reading -/

/-- The integer as which a number below `2 ^ 64` is read. -/
def unsigned (n : Nat) : Value :=
  .ofInt n

/-- The value of sixty-four double bits; what is no finite number is null. -/
def doubleValue (bytes : Bytes) : Value :=
  match Double.ofBits? (Bytes.toNatLE bytes) with
  | some x => .number (.double x)
  | none => .null

/-- The items so far, if the value so far is a list. -/
def itemsSoFar : Value → List Value
  | .list items => items
  | _ => []

/-- The members so far, if the value so far is an object. -/
def membersSoFar : Value → List (String × Value)
  | .object members => members
  | _ => []

/-- Steps over the fields of an empty message. -/
def readNothing : (fuel depth : Nat) → Bytes → Option Unit
  | _, _, [] => some ()
  | 0, _, _ => none
  | fuel + 1, depth, bytes => do
    let (number, wire, rest) ← readKey bytes
    let rest ← skip? (2 * bytes.length) depth number wire rest
    readNothing fuel depth rest

mutual

/-- Merges the fields of a value message into the value so far; `depth` more messages may be opened. -/
def mergeValue : (fuel depth : Nat) → (sofar : Value) → Bytes → Option Value
  | _, _, sofar, [] => some sofar
  | 0, _, _, _ => none
  | fuel + 1, depth, sofar, bytes => do
    let (number, wire, rest) ← readKey bytes
    match number, wire, depth with
    | 1, .length, depth' + 1 =>
      let (body, rest) ← readBlock rest
      readNothing (body.length + 1) depth' body
      mergeValue fuel depth .null rest
    | 2, .varint, _ =>
      let (n, rest) ← readVarint rest
      mergeValue fuel depth (.bool (n ≠ 0)) rest
    | 3, .varint, _ =>
      let (n, rest) ← readVarint rest
      mergeValue fuel depth (.ofInt (unzigzag n)) rest
    | 4, .varint, _ =>
      let (n, rest) ← readVarint rest
      mergeValue fuel depth (unsigned n) rest
    | 5, .fixed64, _ =>
      let (body, rest) ← splitAt? 8 rest
      mergeValue fuel depth (doubleValue body) rest
    | 6, .length, _ =>
      let (body, rest) ← readBlock rest
      let s ← Utf8.toString? body
      mergeValue fuel depth (.text s) rest
    | 7, .length, depth' + 1 =>
      let (body, rest) ← readBlock rest
      let items ← mergeItems fuel depth' body
      mergeValue fuel depth (.list (itemsSoFar sofar ++ items)) rest
    | 8, .length, depth' + 1 =>
      let (body, rest) ← readBlock rest
      let members ← mergeMembers fuel depth' (membersSoFar sofar) body
      mergeValue fuel depth (.object members) rest
    | number, wire, depth =>
      if 1 ≤ number ∧ number ≤ 8 then none
      else
        let rest ← skip? (2 * bytes.length) depth number wire rest
        mergeValue fuel depth sofar rest

/-- The items that a list message holds. -/
def mergeItems : (fuel depth : Nat) → Bytes → Option (List Value)
  | _, _, [] => some []
  | 0, _, _ => none
  | fuel + 1, depth, bytes => do
    let (number, wire, rest) ← readKey bytes
    match number, wire, depth with
    | 1, .length, depth' + 1 =>
      let (body, rest) ← readBlock rest
      let v ← mergeValue fuel depth' .null body
      let items ← mergeItems fuel depth rest
      some (v :: items)
    | number, wire, depth =>
      if number = 1 then none
      else
        let rest ← skip? (2 * bytes.length) depth number wire rest
        mergeItems fuel depth rest

/-- Adds the entries of an object message to the members so far. -/
def mergeMembers : (fuel depth : Nat) → (sofar : List (String × Value)) → Bytes →
    Option (List (String × Value))
  | _, _, sofar, [] => some sofar
  | 0, _, _, _ => none
  | fuel + 1, depth, sofar, bytes => do
    let (number, wire, rest) ← readKey bytes
    match number, wire, depth with
    | 1, _, depth' + 1 =>
      let (body, rest) ← readBlock rest
      let (k, v) ← mergeEntry fuel depth' "" .null body
      mergeMembers fuel depth (Members.insert k v sofar) rest
    | number, wire, depth =>
      if number = 1 then none
      else
        let rest ← skip? (2 * bytes.length) depth number wire rest
        mergeMembers fuel depth sofar rest

/-- Merges the fields of an entry into the key and the value so far. -/
def mergeEntry : (fuel depth : Nat) → (name : String) → (sofar : Value) → Bytes →
    Option (String × Value)
  | _, _, name, sofar, [] => some (name, sofar)
  | 0, _, _, _, _ => none
  | fuel + 1, depth, name, sofar, bytes => do
    let (number, wire, rest) ← readKey bytes
    match number, wire, depth with
    | 1, .length, _ =>
      let (body, rest) ← readBlock rest
      let name ← Utf8.toString? body
      mergeEntry fuel depth name sofar rest
    | 2, .length, depth' + 1 =>
      let (body, rest) ← readBlock rest
      let v ← mergeValue fuel depth' sofar body
      mergeEntry fuel depth name v rest
    | number, wire, depth =>
      if number = 1 ∨ number = 2 then none
      else
        let rest ← skip? (2 * bytes.length) depth number wire rest
        mergeEntry fuel depth name sofar rest

end

/-- The value that a message spells. -/
def read? (bytes : Bytes) : Option Value :=
  mergeValue (bytes.length + 1) maxDepth .null bytes

end Protobuf

end Exchange
