-- SUMMARY: What a caller is told about a request: faults of the far side, events, and client errors.
import Exchange.Envelope.Request
import Exchange.Envelope.Reply
import Exchange.Framing

/-!
# What callers see

A `Fault` is an error frame as the caller sees it. An `Event` is one thing that
happens to a request; the terminal ones are the last of theirs. A client error
is why a request could not be sent or gave no message.
-/

namespace Exchange.Client

/-! ## Faults -/

/-- A reply of status 4xx or 5xx. Its status code is always a text. -/
structure Fault where
  status : Status
  statusCode : String
  message : String
  fields : List (String × Value)

namespace Fault

/-- The text of a fault whose frame carries none. -/
def defaultMessage : String := "Server Error"

/-- The text that a frame's message stands for. -/
def messageOf : Option Value → String
  | some (.text s) => if s.isEmpty then defaultMessage else s
  | none | some .null => defaultMessage
  | some v => Json.text v

/-- The fault that a frame reports under the status of its request. -/
def ofReply (r : Reply) (status : Status) : Fault :=
  let code := r.statusCode.getD status.text
  let fields := Members.erase "id" (Members.ofList r.toMembers)
  { status, statusCode := code, message := messageOf r.message
    fields := Members.insert "statusCode" (.text code)
      (Members.insert "status" (.ofNat status.toNat) fields) }

def text (f : Fault) : String :=
  f.message ++ " (" ++ f.statusCode ++ ")"

end Fault

/-! ## Events -/

inductive Event where
  /-- A frame of success. -/
  | response (message : Option Value) (reply : Reply)
  /-- The request produced its last frame. -/
  | finish
  /-- The request failed on the far side. -/
  | error (fault : Fault) (reply : Reply)
  /-- The connection failed while the request was pending. -/
  | transportError (reason : String)
  /-- Something on the connection could not be understood. -/
  | warning (text : String)
  /-- The connection closed while the request was pending. -/
  | close

def Event.isTerminal : Event → Bool
  | .response _ _ | .warning _ => false
  | .finish | .error _ _ | .transportError _ | .close => true

/-! ## Errors -/

inductive Error where
  | invalidPath
  | invalidData
  | connect (endpoint : String)
  | codec (e : Codec.Error)
  | closed
  | remote (fault : Fault)
  | transport (reason : String)

def Error.message : Error → String
  | .invalidPath => "Expected path to be a non-empty string"
  | .invalidData => "Expected data to be an object"
  | .connect endpoint => "failed to connect to " ++ endpoint
  | .codec e => e.message
  | .closed => "connection closed"
  | .remote fault => fault.text
  | .transport reason => "transport error: " ++ reason

/-- Refuses requests that the far side could never route. -/
def validate (r : Request) : Except Error Unit :=
  if r.path.isEmpty then .error .invalidPath
  else if !r.data.isObject then .error .invalidData
  else .ok ()

/-- What an event means to a caller who waits for the first response: `none` is to wait on. -/
def Event.answer? : Event → Option (Except Error (Option Value))
  | .response message _ => some (.ok message)
  | .warning _ => none
  | .finish => some (.ok none)
  | .error fault _ => some (.error (.remote fault))
  | .transportError reason => some (.error (.transport reason))
  | .close => some (.error .closed)

end Exchange.Client
