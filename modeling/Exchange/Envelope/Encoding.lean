-- SUMMARY: The two payload encodings, framed payloads, and why a payload is no envelope.
import Exchange.Ident
import Exchange.Data.Json.Printer
import Exchange.Data.Json.Reader
import Exchange.Data.Protobuf.Value

/-!
# Encodings

A payload is JSON text or a protobuf message, and carries the same structured
value in both. `Members` lists are written as they stand in text, and in the
order of their keys in binary.
-/

namespace Exchange

inductive Encoding where
  | text
  | binary
  deriving DecidableEq, Repr

/-- A payload and the encoding it is written in. -/
structure Frame where
  encoding : Encoding
  payload : Bytes
  deriving DecidableEq, Repr

/-! ## Errors -/

namespace Envelope

/-- Why a value is no envelope, with the request id if one could be recovered. -/
inductive Error where
  | notAnObject
  | invalidPath (id : Option RequestId)
  | malformed (id : Option RequestId)
  deriving DecidableEq, Repr

def Error.message : Error → String
  | .notAnObject => "envelope is not an object"
  | .invalidPath _ => "envelope is missing a well-formed path"
  | .malformed _ => "malformed envelope"

def Error.requestId? : Error → Option RequestId
  | .notAnObject => none
  | .invalidPath id | .malformed id => id

end Envelope

namespace Codec

/-- Why a payload is no envelope. -/
inductive Error where
  | text
  | binary
  | envelope (error : Envelope.Error)
  deriving DecidableEq, Repr

def Error.message : Error → String
  | .text => "invalid text payload"
  | .binary => "invalid binary payload"
  | .envelope e => e.message

def Error.requestId? : Error → Option RequestId
  | .envelope e => e.requestId?
  | _ => none

/-! ## Values in frames -/

/-- The payload of an object, whose members are given in the order of the text. -/
def encodeMembers (members : List (String × Value)) : Encoding → Bytes
  | .text => Utf8.encode (Json.print (.object members))
  | .binary => Protobuf.write (.ofMembers members)

/-- The payload of a value. -/
def encodeValue (v : Value) : Encoding → Bytes
  | .text => Utf8.encode (Json.print v)
  | .binary => Protobuf.write v

/-- The value that a payload carries. -/
def decodeValue (frame : Frame) : Except Error Value :=
  match frame.encoding with
  | .text =>
    match Json.ofBytes? frame.payload with
    | some v => .ok v
    | none => .error .text
  | .binary =>
    match Protobuf.read? frame.payload with
    | some v => .ok v
    | none => .error .binary

/-! ## Fields -/

/-- An optional text field: absent or null is no text, anything else is refused. -/
def textField? (key : String) (members : List (String × Value)) : Option (Option String) :=
  match Members.get? key members with
  | none | some .null => some none
  | some (.text s) => some (some s)
  | some _ => none

/-- The name that a value gives: a text, or the key of an object whose only member is null. -/
def nameOf? : Value → Option String
  | .text s => some s
  | .object [(name, .null)] => some name
  | _ => none

/-- An optional field of names; `read` says which names it knows. -/
def nameField? {α : Type} (read : String → Option α) (key : String)
    (members : List (String × Value)) : Option (Option α) :=
  match Members.get? key members with
  | none | some .null => some none
  | some v => do
    let a ← read (← nameOf? v)
    some (some a)

/-- The request id of an object, recovered whatever its other members are. -/
def recoverId? (members : List (String × Value)) : Option RequestId :=
  match Members.get? "id" members with
  | some (.text s) => some ⟨s⟩
  | _ => none

/-- A member, unless it is absent. -/
def field (key : String) : Option Value → List (String × Value)
  | some v => [(key, v)]
  | none => []

def textField (key : String) (s : Option String) : List (String × Value) :=
  field key (s.map .text)

end Codec

end Exchange
