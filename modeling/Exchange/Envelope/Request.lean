-- SUMMARY: Requests as handlers see them and as they travel, with their reading and writing.
import Exchange.Envelope.Encoding

/-!
# Requests

A `Request` is what a handler sees. On the wire it is an envelope that adds a
protocol version and the id that responses will bear. An envelope is read in
two steps: it must be an object with a non-empty path, and then each field must
be of its kind; fields that the protocol does not name are ignored.
-/

namespace Exchange

inductive Request.Kind where
  | call
  | subscribe
  | unsubscribe
  deriving DecidableEq, Repr

namespace Request.Kind

def name : Request.Kind → String
  | call => "call"
  | subscribe => "subscribe"
  | unsubscribe => "unsubscribe"

def ofName? (s : String) : Option Request.Kind :=
  if s = "call" then some call
  else if s = "subscribe" then some subscribe
  else if s = "unsubscribe" then some unsubscribe
  else none

@[simp] theorem ofName?_name (k : Request.Kind) : ofName? k.name = some k := by
  cases k <;> rfl

end Request.Kind

/-- A request as a handler sees it. -/
structure Request where
  path : String
  data : Value := .object []
  kind : Request.Kind := .call
  sid : Option Sid := none
  topic : Option String := none

namespace Request

/-- The protocol version that outgoing requests bear. -/
def protocolVersion : String := "1.0"

/-- A request as it travels. -/
structure Envelope where
  version : String := protocolVersion
  id : Option RequestId := none
  path : String
  data : Option Value := none
  kind : Option Kind := none
  sid : Option Sid := none
  topic : Option String := none

namespace Envelope

/-! ## Conversions -/

/-- Puts a request into an envelope with the id that its responses will bear. -/
def enclose (id : RequestId) (r : Request) : Envelope :=
  { id := some id, path := r.path, data := some r.data, kind := some r.kind, sid := r.sid
    topic := r.topic }

/-- Takes the request out; absent data is the empty object, an absent kind is a call. -/
def contents (e : Envelope) : Option RequestId × Request :=
  (e.id, { path := e.path, data := e.data.getD (.object []), kind := e.kind.getD .call
           sid := e.sid, topic := e.topic })

/-- The members of an envelope in the order in which they are written. -/
def toMembers (e : Envelope) : List (String × Value) :=
  ("version", .text e.version) ::
    Codec.textField "id" (e.id.map (·.text)) ++
    ("path", .text e.path) ::
    Codec.field "data" e.data ++
    Codec.textField "type" (e.kind.map (·.name)) ++
    Codec.textField "sid" (e.sid.map (·.text)) ++
    Codec.textField "topic" e.topic

def encode (e : Envelope) (encoding : Encoding) : Frame :=
  ⟨encoding, Codec.encodeMembers e.toMembers encoding⟩

/-! ## Reading -/

/-- The version field, which may be absent but not null. -/
def version? (members : List (String × Value)) : Option String :=
  match Members.get? "version" members with
  | none => some protocolVersion
  | some (.text s) => some s
  | some _ => none

/-- The data field; null counts as absent. -/
def dataOf (members : List (String × Value)) : Option Value :=
  match Members.get? "data" members with
  | none | some .null => none
  | some v => some v

/-- Reads the fields of an object whose path is known to be good. -/
def fields? (path : String) (members : List (String × Value)) : Option Envelope := do
  let version ← version? members
  let id ← Codec.textField? "id" members
  let kind ← Codec.nameField? Kind.ofName? "type" members
  let sid ← Codec.textField? "sid" members
  let topic ← Codec.textField? "topic" members
  some { version, id := id.map (⟨·⟩), path, data := dataOf members, kind, sid := sid.map (⟨·⟩), topic }

/-- The envelope that a value is. -/
def ofValue : Value → Except Exchange.Envelope.Error Envelope
  | .object members =>
    match Members.get? "path" members with
    | some (.text path) =>
      if path.isEmpty then .error (.invalidPath (Codec.recoverId? members))
      else
        match fields? path members with
        | some e => .ok e
        | none => .error (.malformed (Codec.recoverId? members))
    | _ => .error (.invalidPath (Codec.recoverId? members))
  | _ => .error .notAnObject

/-- The envelope that a frame carries. -/
def decode (frame : Frame) : Except Codec.Error Envelope := do
  let v ← Codec.decodeValue frame
  (ofValue v).mapError .envelope

end Envelope

end Request

end Exchange
