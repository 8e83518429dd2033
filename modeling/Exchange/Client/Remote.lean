-- SUMMARY: The calling end of a connection: requests out, frames in, and how it all ends.
import Exchange.Client.Desk
import Exchange.Session

/-!
# Remote clients

A remote client writes each request as a frame with an id of its own and hands
the frames that come back to its desk. When the connection closes or fails, or
the client disconnects, every pending request hears of it.
-/

namespace Exchange.Client

structure Remote where
  encoding : Encoding := .text
  /-- The largest payload that is accepted or written. -/
  limit : Nat
  wire : Ref .wire
  desk : Desk := {}
  /-- The client reads from the connection. -/
  reading : Bool := true
  /-- The client writes to the connection. -/
  writing : Bool := true
  buffer : Bytes := []
  /-- Frames that wait to be written. -/
  queue : List Frame := []

namespace Remote

def isClosed (c : Remote) : Bool :=
  c.desk.closed

/-- Shuts the desk; frames that wait are still written. -/
def shut (c : Remote) (failure : Option String) : Remote :=
  { c with desk := c.desk.shut failure }

/-- Sends a request under an id that is its own. -/
def request (c : Remote) (id : RequestId) (r : Request) : Remote × Except Error (Ref .inbox) :=
  match validate r with
  | .error e => (c, .error e)
  | .ok _ =>
    if c.isClosed then (c, .error .closed)
    else
      let frame := (Request.Envelope.enclose id r).encode c.encoding
      let (desk, inbox) := c.desk.insert id
      ({ c with desk, queue := c.queue ++ [frame] }, .ok inbox)

/-- Reads what has come; `closed` tells that nothing more will. -/
def read (c : Remote) (bytes : Bytes) (closed : Bool) : Remote :=
  let d := (if closed then Framing.drainEnd else Framing.drain) c.limit (c.buffer ++ bytes)
  let c := { c with buffer := d.buffer, desk := d.frames.foldl Desk.accept c.desk }
  match d.error with
  | some e => { c with reading := false }.shut (some e.message)
  | none => if closed then { c with reading := false }.shut none else c

/-- Writes what waits, and stops if a frame cannot be written or nothing more will come. -/
def write (c : Remote) : Remote × Bytes :=
  let (bytes, e) := Session.records c.limit c.queue
  let c := { c with queue := [] }
  match e with
  | some e => ({ c with writing := false }.shut (some e.message), bytes)
  | none => (if c.isClosed then { c with writing := false } else c, bytes)

def disconnect (c : Remote) : Remote :=
  { c with reading := false }.shut none

/-- Neither half uses the connection any more. -/
def isOver (c : Remote) : Bool :=
  !c.reading && !c.writing

end Remote

end Exchange.Client
