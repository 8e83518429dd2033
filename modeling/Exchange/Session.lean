-- SUMMARY: The serving end of a connection: requests in, response frames out, and how it all ends.
import Exchange.Failure
import Exchange.Framing
import Exchange.Envelope.Request
import Exchange.Data.Store

/-!
# Sessions

A session reads requests from a byte stream and queues response frames, each in
the encoding of its request. Frames that are no requests are discarded with a
warning, and answered if their id could be recovered. `enqueue` never queues a
frame past the limit, unless what stands in for it is past the limit too.
-/

namespace Exchange

/-- Why a session ended without having been closed. -/
inductive Session.Error where
  | read (cause : Framing.Error)
  | write (cause : Framing.Error)
  deriving DecidableEq, Repr

def Session.Error.message : Session.Error → String
  | .read _ => "failed to read from connection"
  | .write _ => "failed to write to connection"

def Session.Error.cause : Session.Error → Framing.Error
  | .read e | .write e => e

/-- What a session tells its owner. -/
inductive Session.Event where
  /-- A frame was discarded. -/
  | warning (text : String)
  | closed
  | error (text : String)
  deriving DecidableEq, Repr

/-- A request that was read, and how it is to be answered. -/
structure Session.Job where
  id : Option RequestId
  encoding : Encoding
  request : Request

inductive Session.Reader where
  | reading
  | ended (result : Except Session.Error Unit)
  /-- The owner took the session down. -/
  | aborted

inductive Session.Writer where
  | writing
  /-- The session has ended. Frames are still taken, and lost. -/
  | stopping
  | stopped
  | failed (cause : Framing.Error)

structure Session where
  router : Ref .router
  scope : Ref .scope
  /-- The largest payload that is accepted or written. -/
  limit : Nat
  wire : Ref .wire
  reader : Session.Reader := .reading
  writer : Session.Writer := .writing
  /-- Bytes that were read and make no record as yet. -/
  buffer : Bytes := []
  /-- Frames that wait to be written. -/
  queue : List Frame := []
  /-- Requests under way. -/
  jobs : Nat := 0
  events : List Session.Event := []

namespace Session

def isReading (s : Session) : Bool :=
  match s.reader with
  | .reading => true
  | _ => false

def isWriting (s : Session) : Bool :=
  match s.writer with
  | .writing => true
  | _ => false

def isStopping (s : Session) : Bool :=
  match s.writer with
  | .stopping => true
  | _ => false

def tell (s : Session) (e : Event) : Session :=
  { s with events := s.events ++ [e] }

/-! ## Queueing frames -/

/-- What stands in for a frame past the limit. -/
def oversize (limit length : Nat) : Failure :=
  .ofMessage ("Response of " ++ toString length ++ " bytes exceeds the " ++ toString limit ++
    " byte frame limit")

/-- Queues a frame as it is, if there is a writer to take it. -/
def push (s : Session) (frame : Frame) : Session × Bool :=
  match s.writer with
  | .writing => ({ s with queue := s.queue ++ [frame] }, true)
  | .stopping => (s, true)
  | .stopped | .failed _ => (s, false)

/-- Queues a response frame; tells whether more may follow for its request. A frame past the
limit is replaced by an error frame with the same id, which ends the request. -/
def enqueue (s : Session) (r : Reply) (encoding : Encoding) : Session × Bool :=
  let frame := r.encode encoding
  if frame.payload.length ≤ s.limit then s.push frame
  else
    let fallback := { (oversize s.limit frame.payload.length).toReply with id := r.id }
    ((s.push (fallback.encode encoding)).1, false)

/-! ## Reading requests -/

/-- Takes in a frame: a request to dispatch, or a warning and, if there is an id, a rejection. -/
def accept (s : Session) (frame : Frame) : Session × Option Job :=
  match Request.Envelope.decode frame with
  | .ok e =>
    let (id, request) := e.contents
    ({ s with jobs := s.jobs + 1 }, some ⟨id, frame.encoding, request⟩)
  | .error e =>
    let s := s.tell (.warning e.message)
    match e.requestId? with
    | some id =>
      let rejection := { (Failure.invalid e.message).toReply with id := some id }
      ((s.enqueue rejection frame.encoding).1, none)
    | none => (s, none)

/-- Takes in frames in the order in which they came. -/
def acceptAll (s : Session) : List Frame → Session × List Job
  | [] => (s, [])
  | frame :: rest =>
    let (s, job) := s.accept frame
    let (s, jobs) := s.acceptAll rest
    (s, job.toList ++ jobs)

/-- Ends the session; what waits to be written is lost. -/
def finish (s : Session) (result : Except Error Unit) : Session :=
  let writer := if s.isWriting then Writer.stopping else .stopped
  let s := { s with reader := .ended result, writer, queue := [] }
  match result with
  | .ok _ => s.tell .closed
  | .error e => s.tell (.error e.message)

/-- Reads what has come; `closed` tells that nothing more will. -/
def read (s : Session) (bytes : Bytes) (closed : Bool) : Session × List Job :=
  let d := (if closed then Framing.drainEnd else Framing.drain) s.limit (s.buffer ++ bytes)
  let (s, jobs) := { s with buffer := d.buffer }.acceptAll d.frames
  match d.error with
  | some e => (s.finish (.error (.read e)), jobs)
  | none => (if closed then s.finish (.ok ()) else s, jobs)

/-! ## Writing frames -/

/-- The bytes of frames, up to the first that cannot be written. -/
def records (limit : Nat) : List Frame → Bytes × Option Framing.Error
  | [] => ([], none)
  | frame :: rest =>
    match Framing.encode limit frame with
    | .ok bytes =>
      let (more, e) := records limit rest
      (bytes ++ more, e)
    | .error e => ([], some e)

/-- Nobody will queue a frame any more. -/
def isSpent (s : Session) : Bool :=
  !s.isReading && s.jobs = 0

/-- Writes what waits, and stops if a frame cannot be written or nothing more will come. -/
def write (s : Session) : Session × Bytes :=
  let (bytes, e) := records s.limit s.queue
  let s := { s with queue := [] }
  match e with
  | some e => ({ s with writer := .failed e }, bytes)
  | none => (if s.isStopping || s.isSpent then { s with writer := .stopped } else s, bytes)

/-- Neither half uses the connection any more. -/
def isOver (s : Session) : Bool :=
  !s.isReading && !s.isWriting && !s.isStopping

end Session

end Exchange
