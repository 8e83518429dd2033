-- SUMMARY: The requests that wait for frames on one connection, and the events that they have received.
import Exchange.Client.Progress
import Exchange.Hub.Channel
import Exchange.Data.Store

/-!
# The desk of a remote client

A desk matches frames to pending requests by their ids. What a frame means to a
request is put into the request's inbox; the request is done after a terminal
event, or when nobody reads the inbox any more. Frames that cannot be
understood are reported to every pending request. Once shut, the desk takes no
requests.
-/

namespace Exchange.Client

/-- A request that waits for frames. -/
structure Pending where
  id : RequestId
  progress : Progress := {}
  inbox : Ref .inbox

structure Desk where
  pending : List Pending := []
  inboxes : Store .inbox (Channel Event) := {}
  closed : Bool := false

namespace Desk

def find? (d : Desk) (id : RequestId) : Option Pending :=
  d.pending.find? fun p => p.id = id

def isRead (d : Desk) (inbox : Ref .inbox) : Bool :=
  match d.inboxes.get? inbox with
  | some c => c.reading
  | none => false

/-! ## Entries -/

/-- Adds a pending request with an inbox of its own. -/
def insert (d : Desk) (id : RequestId) : Desk × Ref .inbox :=
  let inbox := d.inboxes.next
  ({ d with pending := d.pending ++ [{ id, inbox }], inboxes := d.inboxes.push { writers := 1 } }, inbox)

/-- Takes a pending request away, which ends its inbox. -/
def remove (d : Desk) (id : RequestId) : Desk :=
  match d.find? id with
  | some p =>
    { d with pending := d.pending.filter (·.id ≠ id), inboxes := d.inboxes.modify p.inbox Channel.leave }
  | none => d

def put (d : Desk) (inbox : Ref .inbox) (events : List Event) : Desk :=
  { d with inboxes := d.inboxes.modify inbox fun c => events.foldl (fun c e => (c.send e).1) c }

/-- Tells a pending request a piece of news, and takes it away if it is done with that. -/
def feed (d : Desk) (id : RequestId) (input : Progress.Input) : Desk :=
  match d.find? id with
  | none => d
  | some p =>
    let (events, progress) := (p.progress.accept input).drain
    let d := d.put p.inbox events
    let d := { d with pending := d.pending.map fun q => if q.id = id then { q with progress } else q }
    if progress.finished || !d.isRead p.inbox then d.remove id else d

/-! ## News -/

def ids (d : Desk) : List RequestId :=
  d.pending.map (·.id)

/-- What is reported of a frame without a usable id. -/
def invalidResponse : String :=
  "Server response is not an object or has an invalid id"

/-- What is reported of a frame that is no response. -/
def warningOf : Codec.Error → String
  | .envelope .notAnObject => invalidResponse
  | e => "Server returned invalid JSON: " ++ e.message

/-- Reports a warning to every pending request. -/
def warnAll (d : Desk) (text : String) : Desk :=
  d.ids.foldl (fun d id => d.feed id (.warning text)) d

/-- Takes in a frame. -/
def accept (d : Desk) (frame : Frame) : Desk :=
  match Reply.decode frame with
  | .error e => d.warnAll (warningOf e)
  | .ok r =>
    match r.id with
    | some id => d.feed id (.frame r)
    | none => d.warnAll invalidResponse

/-! ## Shutting -/

/-- What the end of the connection is to a pending request. -/
def ending : Option String → Progress.Input
  | some reason => .failed reason
  | none => .closed

/-- Takes a pending request away with a last event. -/
def terminate (failure : Option String) (d : Desk) (id : RequestId) : Desk :=
  (d.feed id (ending failure)).remove id

/-- Closes the desk and terminates every pending request. -/
def shut (d : Desk) (failure : Option String) : Desk :=
  d.ids.foldl (terminate failure) { d with closed := true }

end Desk

end Exchange.Client
