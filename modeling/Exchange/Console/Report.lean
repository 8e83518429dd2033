-- SUMMARY: What console commands answer, as structured values.
import Exchange.Console.Sockets

/-!
# Reports of commands

The answers of the console's commands, shown as objects. What is not there is
shown as null.
-/

namespace Exchange

namespace Report

def events (es : List Client.Event) (ended : Bool) : Value :=
  .ofMembers [("events", .list (es.map Client.Event.report)), ("ended", .bool ended)]

/-- The body of a result; a stream is shown by a word. -/
def body {σ : Type} : Body σ → Value
  | .empty => .text "empty"
  | .message v => .ofMembers [("message", v)]
  | .stream _ => .text "stream"

def result {σ : Type} : Result σ → Value
  | .error f => f.report
  | .ok o =>
    .ofMembers [("status", .ofNat o.status.toNat), ("status_code", text? o.statusCode), ("body", body o.body)]

/-- What stands at a path, in a word. -/
def entry : Option FileEntry → Value
  | none => .text "nothing"
  | some .file => .text "file"
  | some .dir => .text "dir"
  | some (.link _) => .text "link"
  | some (.socket _) => .text "socket"

end Report

def Plugin.report (p : Plugin) : Value :=
  .ofMembers [("info", p.info), ("name", .text p.name.text), ("version", .text p.version),
    ("state", .text p.state.name), ("active", .ofNat p.active), ("total", .ofNat p.total),
    ("error", Report.text? p.error)]

/-- What a view of the plugin shows, as long as somebody owns the plugin. -/
def Plugin.view (p : Plugin) : Value :=
  if p.held then p.report else Report.error "PluginViewInvalid" (viewMessage p.name) []

def Session.Event.report : Session.Event → Value
  | .warning text => .ofMembers [("warning", .text text)]
  | .closed => .text "closed"
  | .error text => .ofMembers [("error", .text text)]

def Session.Error.report (e : Session.Error) : Value :=
  let kind := match e with
    | .read _ => "Read"
    | .write _ => "Write"
  Report.error kind e.message [("cause", .text e.cause.message)]

namespace Console

def Ready.report : Ready → Value
  | .frames rs ended => .ofMembers [("frames", .list (rs.map Reply.toValue)), ("ended", .bool ended)]
  | .events es ended => Report.events es ended

def CallState.report : CallState → Value
  | .pending => .text "pending"
  | .answered (.ok message) =>
    .ofMembers [("message", .ofOption message), ("has_message", .bool message.isSome)]
  | .answered (.error e) => e.report

def Received.report : Received → Value
  | .text payload => .ofMembers [("text", .text payload)]
  | .binary v => .ofMembers [("binary", v)]

/-- Received frames by the ids that they bear. -/
def reportById (frames : List (String × List Received)) : Value :=
  .ofMembers (frames.map fun p => (p.1, .list (p.2.map Received.report)))

def SessionReport.toValue (r : SessionReport) : Value :=
  let ended := match r.ended with
    | none => Value.null
    | some (.ok _) => .text "ok"
    | some (.error e) => e.report
  .ofMembers [("frames", reportById r.frames), ("events", .list (r.events.map Session.Event.report)),
    ("ended", ended), ("owned", .ofNat r.owned), ("closed", .bool r.closed),
    ("subscriptions", .ofNat r.subscriptions)]

/-- The report of a client, with the result of the command. -/
def RemoteReport.toValue (r : RemoteReport) (result : Value) : Value :=
  .ofMembers [("result", result), ("sent", .list (r.sent.map Received.report)),
    ("streams", .ofMembers (r.streams.map fun s => (s.1, Report.events s.2.1 s.2.2))),
    ("pending", .ofNat r.pending), ("closed", .bool r.closed)]

/-- Why a listener did not come to be; what the system says of it is left out. -/
def ListenError.report : ListenError → Value
  | .resolve => .ofMembers [("error", .text "Resolve")]
  | .bindHost => .ofMembers [("error", .text "BindTcp")]
  | .bindPath e path =>
    match e with
    | .notSocket => Report.error "UnixNotSocket" (bindMessage path e) []
    | .inUse => Report.error "UnixInUse" (bindMessage path e) []
    | .connect => .ofMembers [("error", .text "UnixConnect")]
    | .bind => .ofMembers [("error", .text "BindUnix")]

end Console

end Exchange
