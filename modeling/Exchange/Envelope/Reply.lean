-- SUMMARY: Response frames as handlers build them and as they travel, with their reading and writing.
import Exchange.Envelope.Encoding
import Exchange.Status

/-!
# Replies

A `Reply` is one response frame. What the protocol does not name is kept in
`extra`. Reading coerces the status, and a type that the protocol does not know
is read as `unknown`.
-/

namespace Exchange

inductive Reply.Kind where
  | response
  | event
  | finish
  | error
  | subscribe
  | unknown
  deriving DecidableEq, Repr

namespace Reply.Kind

def name : Reply.Kind → String
  | response => "response"
  | event => "event"
  | finish => "finish"
  | error => "error"
  | subscribe => "subscribe"
  | unknown => "unknown"

def ofName (s : String) : Reply.Kind :=
  if s = "response" then response
  else if s = "event" then event
  else if s = "finish" then finish
  else if s = "error" then error
  else if s = "subscribe" then subscribe
  else unknown

@[simp] theorem ofName_name (k : Reply.Kind) : ofName k.name = k := by
  cases k <;> rfl

end Reply.Kind

/-- One response frame. -/
structure Reply where
  id : Option RequestId := none
  status : Option Status := none
  statusCode : Option String := none
  message : Option Value := none
  kind : Option Reply.Kind := none
  fin : Bool := false
  sid : Option Sid := none
  topic : Option String := none
  extra : List (String × Value) := []

namespace Reply

/-! ## Constructors -/

def response (message : Option Value) : Reply :=
  { message, kind := some .response }

/-- The frame that ends a request. -/
def finish : Reply :=
  { kind := some .finish, fin := true }

def event (sid : Sid) (topic : String) (message : Value) : Reply :=
  { message := some message, kind := some .event, sid := some sid, topic := some topic }

/-- The frame that opens the stream of a subscription. -/
def subscribed (sid : Sid) (topic : String) : Reply :=
  { status := some .created, message := some (.text "Subscribed"), kind := some .subscribe
    sid := some sid, topic := some topic }

/-! ## Views -/

/-- A frame without status counts as 500. -/
def effectiveStatus (r : Reply) : Status :=
  Status.orInternal r.status

def isFinish (r : Reply) : Bool :=
  r.kind = some .finish

/-- The keys that a frame owns, which can never be carried in `extra`. -/
def reserved : List String :=
  ["id", "status", "statusCode", "message", "type", "fin", "sid", "topic"]

def isReserved (name : String) : Bool :=
  reserved.contains name

/-! ## Writing -/

/-- The members of a frame in the order in which they are written. -/
def toMembers (r : Reply) : List (String × Value) :=
  Codec.textField "id" (r.id.map (·.text)) ++
    Codec.field "status" (r.status.map fun s => .ofNat s.toNat) ++
    Codec.textField "statusCode" r.statusCode ++
    Codec.field "message" r.message ++
    Codec.textField "type" (r.kind.map (·.name)) ++
    (if r.fin then [("fin", .bool true)] else []) ++
    Codec.textField "sid" (r.sid.map (·.text)) ++
    Codec.textField "topic" r.topic ++
    r.extra

/-- The frame as an object with ordered keys. -/
def toValue (r : Reply) : Value :=
  .ofMembers r.toMembers

def encode (r : Reply) (encoding : Encoding) : Frame :=
  ⟨encoding, Codec.encodeMembers r.toMembers encoding⟩

/-! ## Reading -/

/-- The status field, coerced; it is never refused. -/
def statusOf (members : List (String × Value)) : Option Status :=
  (Members.get? "status" members).bind Status.coerce

/-- The message field; null counts as absent. -/
def messageOf (members : List (String × Value)) : Option Value :=
  match Members.get? "message" members with
  | none | some .null => none
  | some v => some v

def fin? (members : List (String × Value)) : Option Bool :=
  match Members.get? "fin" members with
  | none => some false
  | some (.bool b) => some b
  | some _ => none

/-- Reads the fields of an object; all that the protocol does not name is extra. -/
def fields? (members : List (String × Value)) : Option Reply := do
  let id ← Codec.textField? "id" members
  let statusCode ← Codec.textField? "statusCode" members
  let kind ← Codec.nameField? (some ∘ Kind.ofName) "type" members
  let fin ← fin? members
  let sid ← Codec.textField? "sid" members
  let topic ← Codec.textField? "topic" members
  some {
    id := id.map (⟨·⟩), status := statusOf members, statusCode, message := messageOf members, kind
    fin, sid := sid.map (⟨·⟩), topic, extra := members.filter fun m => !isReserved m.1 }

/-- The frame that a value is. -/
def ofValue : Value → Except Envelope.Error Reply
  | .object members =>
    match fields? members with
    | some r => .ok r
    | none => .error (.malformed (Codec.recoverId? members))
  | _ => .error .notAnObject

/-- The response frame that a framed payload carries. -/
def decode (frame : Frame) : Except Codec.Error Reply := do
  let v ← Codec.decodeValue frame
  (ofValue v).mapError .envelope

end Reply

end Exchange
