-- SUMMARY: Connections as two byte streams between a serving and a calling end.
import Exchange.Data.Bytes

/-!
# Wires

A wire carries bytes both ways. What was written before an end closed can still
be read at the other end.
-/

namespace Exchange

/-- The two ends of a wire. -/
inductive Side where
  | server
  | client
  deriving DecidableEq, Repr

namespace Side

def other : Side → Side
  | server => client
  | client => server

end Side

/-- One end of a wire: bytes that have come for it, and whether it is open. -/
structure Wire.End where
  incoming : Bytes := []
  isOpen : Bool := true

structure Wire where
  server : Wire.End := {}
  client : Wire.End := {}

namespace Wire

def get (w : Wire) : Side → End
  | .server => w.server
  | .client => w.client

def modify (w : Wire) (f : End → End) : Side → Wire
  | .server => { w with server := f w.server }
  | .client => { w with client := f w.client }

/-- Writes bytes at one end; they are lost if the other end is closed. -/
def write (w : Wire) (side : Side) (bytes : Bytes) : Wire :=
  w.modify (fun e => if e.isOpen then { e with incoming := e.incoming ++ bytes } else e) side.other

/-- Takes what has come at one end; tells whether nothing more will. -/
def read (w : Wire) (side : Side) : Wire × Bytes × Bool :=
  (w.modify (fun e => { e with incoming := [] }) side, (w.get side).incoming,
    !(w.get side.other).isOpen)

/-- Reading at an end would find something, be it the end of the stream. -/
def hasNews (w : Wire) (side : Side) : Bool :=
  !(w.get side).incoming.isEmpty || !(w.get side.other).isOpen

/-- Closes one end. -/
def close (w : Wire) (side : Side) : Wire :=
  w.modify (fun _ => { incoming := [], isOpen := false }) side

end Wire

end Exchange
