-- SUMMARY: Requests, faults and errors as structured values, the way handlers and logs show them.
import Exchange.Client.Event
import Exchange.Endpoint
import Exchange.Failure
import Exchange.Route.Pattern
import Exchange.Sink

/-!
# Reports

What can be shown in a message or a line of the journal is made a value first.
An error is reported by its kind and its text.
-/

namespace Exchange

namespace Report

def text? (s : Option String) : Value :=
  .ofOption (s.map .text)

/-- The report of an error: its kind, its text, and whatever else there is to say. -/
def error (kind message : String) (more : List (String × Value)) : Value :=
  .ofMembers ([("error", .text kind), ("message", .text message)] ++ more)

end Report

/-! ## Requests and routes -/

def Request.report (r : Request) : Value :=
  .ofMembers [("path", .text r.path), ("data", r.data), ("type", .text r.kind.name),
    ("sid", Report.text? (r.sid.map (·.text))), ("topic", Report.text? r.topic)]

def Bindings.report (b : Bindings) : Value :=
  .ofMembers (b.map fun p => (p.1, .text p.2))

def Segment.report : Segment → Value
  | .literal text => .list [.text "literal", .text text]
  | .parameter name => .list [.text "parameter", .text name]
  | .wildcard => .list [.text "wildcard"]

def Pattern.Error.kindName : Pattern.Error → String
  | .missingLeadingSlash _ => "MissingLeadingSlash"
  | .emptyParameter _ => "EmptyParameter"
  | .duplicateParameter _ _ => "DuplicateParameter"
  | .wildcardNotLast _ => "WildcardNotLast"
  | .wildcardInMount _ => "WildcardInMount"

def Pattern.Error.report (e : Pattern.Error) : Value :=
  Report.error e.kindName e.message []

/-- The report of a registration: a word if it succeeded. -/
def Pattern.Error.reportOf : Except Pattern.Error Unit → Value
  | .ok _ => .text "ok"
  | .error e => e.report

/-! ## Replies and failures -/

def Status.report (s : Status) : Value :=
  let kind : Value := match s.classOf with
    | .success => .text "success"
    | .clientError => .text "client_error"
    | .serverError => .text "server_error"
    | .other n => .ofMembers [("other", .ofNat n)]
  .ofMembers [("code", .ofNat s.toNat), ("display", .text s.text), ("class", kind), ("is_error", .bool s.isError)]

def Sink.report (answers : List Sink.Answer) : Value :=
  .list (answers.map Sink.Answer.toValue)

def Failure.report (f : Failure) : Value :=
  let stated := [("status", Value.ofNat f.status.toNat), ("status_code", .text f.statusCode)]
  match f with
  | .validation .. => Report.error "Validation" f.message stated
  | .noRoute path => Report.error "RouteNotFound" f.message (("path", .text path) :: stated)
  | .handler _ _ _ fields => Report.error "Handler" f.message (("fields", .object fields) :: stated)
  | .transport .. => Report.error "Transport" f.message stated
  | .noSubscription sid => Report.error "SubscriptionNotFound" f.message (("sid", .text sid.text) :: stated)

/-! ## Frames and endpoints -/

def Codec.Error.report (e : Codec.Error) : Value :=
  let kind := match e with
    | .text => "Text"
    | .binary => "Binary"
    | .envelope .notAnObject => "NotAnObject"
    | .envelope (.invalidPath _) => "InvalidPath"
    | .envelope (.malformed _) => "Malformed"
  Report.error kind e.message [("request_id", Report.text? (e.requestId?.map (·.text)))]

def Framing.Error.report (e : Framing.Error) : Value :=
  match e with
  | .io => Report.error "Io" e.message []
  | .tooLarge _ _ => Report.error "TooLarge" e.message []

def Endpoint.Error.report (e : Endpoint.Error) : Value :=
  let kind := match e with
    | .parse _ => "Parse"
    | .unsupportedScheme _ => "UnsupportedScheme"
    | .missingHostOrPort _ => "MissingHostOrPort"
    | .missingPath _ => "MissingPath"
  Report.error kind e.message []

/-! ## What callers see -/

def Client.Fault.report (f : Client.Fault) : Value :=
  .ofMembers [("status", .ofNat f.status.toNat), ("status_code", .text f.statusCode),
    ("message", .text f.message), ("fields", .object f.fields), ("display", .text f.text)]

def Client.Error.report (e : Client.Error) : Value :=
  match e with
  | .invalidPath => Report.error "InvalidPath" e.message []
  | .invalidData => Report.error "InvalidData" e.message []
  | .connect _ => Report.error "Connect" e.message []
  | .codec _ => Report.error "Codec" e.message []
  | .closed => Report.error "Closed" e.message []
  | .remote fault => Report.error "Remote" e.message [("remote", fault.report)]
  | .transport _ => Report.error "Transport" e.message []

def Client.Event.report (e : Client.Event) : Value :=
  let kind (name : String) : List (String × Value) := [("event", .text name)]
  let members := match e with
    | .response message reply =>
      kind "response" ++
        [("message", .ofOption message), ("has_message", .bool message.isSome), ("envelope", reply.toValue)]
    | .finish => kind "finish"
    | .error fault reply => kind "error" ++ [("error", fault.report), ("envelope", reply.toValue)]
    | .transportError reason => kind "transport_error" ++ [("text", .text reason)]
    | .warning text => kind "warning" ++ [("text", .text text)]
    | .close => kind "close"
  .ofMembers (members ++ [("terminal", .bool e.isTerminal)])

end Exchange
