-- SUMMARY: The ways a dispatched request fails, their statuses and codes, and the frame that reports them.
import Exchange.Envelope.Reply

/-!
# Failures

Each failure has a status, a status code and a text. `Failure.toReply` is the
one frame that reports it. Handler failures may carry extra fields, which can
never stand in for the keys that a frame owns.
-/

namespace Exchange

inductive Failure where
  /-- The request was malformed or lacked a parameter. -/
  | validation (statusCode message : String)
  /-- No candidate was left for the path. -/
  | noRoute (path : String)
  /-- A handler failed. -/
  | handler (status : Status) (statusCode : Option String) (message : String)
      (fields : List (String × Value))
  /-- The connection that carried the request failed. -/
  | transport (message : String)
  /-- No such subscription is open. -/
  | noSubscription (sid : Sid)
  deriving Inhabited

namespace Failure

/-! ## Construction -/

def invalid (message : String) : Failure :=
  .validation Status.badRequest.text message

def missingParameter (name : String) : Failure :=
  .validation Status.missingParameterCode ("Missing required parameter \"" ++ name ++ "\"")

def withStatus (status : Status) (message : String) : Failure :=
  .handler status none message []

/-- A handler failure of status 500. -/
def ofMessage (message : String) : Failure :=
  withStatus .internalError message

/-- Gives the failure a status code of its own, if its kind admits one. -/
def withCode (code : String) : Failure → Failure
  | .validation _ message => .validation code message
  | .handler status _ message fields => .handler status (some code) message fields
  | f => f

/-- Puts a field on a handler failure, whatever its key. -/
def putField (key : String) (value : Value) : Failure → Failure
  | .handler status code message fields => .handler status code message (Members.insert key value fields)
  | f => f

/-- Puts a field on a handler failure, unless frames own its key. -/
def withField (key : String) (value : Value) (f : Failure) : Failure :=
  if Reply.isReserved key then f else f.putField key value

/-- What lies at the root of an error that was given contexts on its way. -/
inductive Root where
  | message (text : String)
  | failure (f : Failure)

/-- The failure of an error with contexts, innermost first: a failure at the root is kept as it is. -/
def ofRoot (contexts : List String) : Root → Failure
  | .failure f => f
  | .message text => ofMessage (String.intercalate ": " (contexts.reverse ++ [text]))

/-! ## Views -/

def message : Failure → String
  | .validation _ message => message
  | .noRoute _ => "No route"
  | .handler _ _ message _ => message
  | .transport message => message
  | .noSubscription sid => "subscription " ++ sid.text ++ " not found"

def status : Failure → Status
  | .validation _ _ => .badRequest
  | .noRoute _ | .noSubscription _ => .notFound
  | .handler status _ _ _ => status
  | .transport _ => .internalError

/-- The status code; where none was given it is the status as text. -/
def statusCode (f : Failure) : String :=
  match f with
  | .validation code _ => code
  | .handler _ (some code) _ _ => code
  | f => f.status.text

def isNoRoute : Failure → Bool
  | .noRoute _ => true
  | _ => false

/-- The fields that the frame of a failure carries beside its own. -/
def extra : Failure → List (String × Value)
  | .handler _ _ _ fields => fields.filter fun m => !Reply.isReserved m.1
  | _ => []

/-- The frame that reports a failure and ends its request. -/
def toReply (f : Failure) : Reply :=
  { status := some f.status, statusCode := some f.statusCode, message := some (.text f.message)
    kind := some .error, fin := true, extra := f.extra }

end Failure

end Exchange
