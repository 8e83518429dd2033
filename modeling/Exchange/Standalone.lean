-- SUMMARY: A daemon of one's own: one connection to it, and commands that are run against it.
import Exchange.Console.Sockets

/-!
# Standing alone

Where there are no sockets, a daemon can still serve one connection whose bytes
come from elsewhere, and a command can be run against a daemon that was started
for it. A `Line` is such a connection, seen from the calling end.
-/

namespace Exchange

/-! ## One connection -/

/-- The calling end of a connection to a daemon. -/
structure Line where
  world : World
  wire : Ref .wire

namespace Line

/-- A connection to a fresh daemon. -/
def fresh : Line :=
  let (switch, root) := Switch.addRouter {}
  let (switch, clock) := Daemon.install switch root
  let (switch, scope) := switch.addScope
  let world : World := { switch }
  let (world, wire) := world.addWire
  let (world, _) := world.spawn (.tick clock)
  let (world, _) := world.serve wire root scope Framing.defaultMax
  { world, wire }

/-- Lets everything go on, and takes the bytes that come back. -/
def take (l : Line) : Line × Bytes :=
  let world := l.world.settle
  match world.wires.get? l.wire with
  | none => ({ l with world }, [])
  | some wire =>
    let (wire, bytes, _) := wire.read .client
    ({ l with world := { world with wires := world.wires.set l.wire wire } }, bytes)

def write (l : Line) (bytes : Bytes) : Line :=
  { l with world := l.world.modifyWire l.wire (·.write .client bytes) }

/-- Lets seconds go by one after another. -/
def elapse : (n : Nat) → Line → Line
  | 0, l => l
  | n + 1, l => elapse n { l with world := l.world.elapse.settle }

/-- The serving end has closed the connection. -/
def isOver (l : Line) : Bool :=
  match l.world.wires.get? l.wire with
  | some wire => !wire.server.isOpen
  | none => true

end Line

/-! ## Commands -/

/-- A console with a daemon on the endpoint that the environment names, if that is a path. -/
def Console.withDaemon (env : Command.Environment) : Console :=
  match env.endpoint with
  | .ok (.unix path) =>
    let c := Console.fresh
    let files := c.world.files.makeDirs (SocketDir.parent path)
    let c := { c with world := { c.world with files } }
    (c.startDaemon Daemon.programName env).1
  | _ => Console.fresh

/-- Runs a command against a daemon of its own until it has printed a number of lines. -/
def Command.runAlone (command : Command) (env : Command.Environment) (lines : Nat) : Console.Outcome :=
  ((Console.withDaemon env).runCommand command env [] lines fun _ =>
    if lines = 0 then .none else .interrupt).2

end Exchange
