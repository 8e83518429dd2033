-- SUMMARY: Console commands on sessions, on remote clients, and on raw ends of connections.
import Exchange.Console.Clients
import Exchange.Console.Subscriptions

/-!
# Commands on the two ends of a connection

The console can play the peer of a session or of a remote client: it writes
bytes as they are given, and reports the frames that come back.
-/

namespace Exchange.Console

/-- A frame as it was received: the text of its payload, or its value. -/
inductive Received where
  | text (payload : String)
  | binary (v : Value)
  deriving Inhabited

/-! ## Raw ends -/

/-- What a frame holds, and the id that it bears. -/
def receive (f : Frame) : Received × Option RequestId :=
  let v := match Codec.decodeValue f with
    | .ok v => v
    | .error _ => .null
  let id := match v with
    | .object members => Codec.recoverId? members
    | _ => none
  match f.encoding with
  | .text => (.text ((Utf8.toString? f.payload).getD ""), id)
  | .binary => (.binary v, id)

/-- Takes the frames that have come at a raw end; tells whether the other end has closed. -/
def readTap (c : Console) (tap : Tap) : Console × Tap × List (Received × Option RequestId) × Bool :=
  match c.world.wires.get? tap.wire with
  | none => (c, tap, [], true)
  | some wire =>
    let (wire, bytes, closed) := wire.read tap.side
    let world := { c.world with wires := c.world.wires.set tap.wire wire }
    let d := Framing.drain Framing.defaultMax (tap.buffer ++ bytes)
    ({ c with world }, { tap with buffer := d.buffer }, d.frames.map receive, closed)

def writeTap (c : Console) (tap : Tap) (bytes : Bytes) : Console :=
  { c with world := c.world.modifyWire tap.wire (·.write tap.side bytes) }

def closeTap (c : Console) (tap : Tap) : Console :=
  { c with world := c.world.modifyWire tap.wire (·.close tap.side) }

/-- Puts received frames under the ids that they bear, in the order in which they came. -/
def byId (received : List (Received × Option RequestId)) : List (String × List Received) :=
  received.foldl (fun acc r =>
    let id := match r.2 with
      | some id => id.text
      | none => ""
    Members.insert id ((Members.get? id acc).getD [] ++ [r.1]) acc) []

/-! ## Sessions -/

/-- What a session has done since it was last asked. -/
structure SessionReport where
  frames : List (String × List Received)
  events : List Session.Event
  /-- How the session ended, told once. -/
  ended : Option (Except Session.Error Unit)
  owned : Nat
  closed : Bool
  subscriptions : Nat

/-- How a session ended, unless that was told before. -/
def endOf (served : Served) (s : Session) : Option (Except Session.Error Unit) :=
  if served.endTold then none
  else
    match s.reader with
    | .ended result => some result
    | _ => none

/-- Lets everything go on, and reports what a session has done. -/
def reportSession (c : Console) (name : String) (served : Served) : Console × Option SessionReport :=
  let c := c.settle
  match c.world.sessions.get? served.session with
  | none => (c, none)
  | some s =>
    let (c, peer, received, _) := c.readTap served.peer
    let ended := endOf served s
    let scope := c.scopeState served.scope
    let report : SessionReport :=
      { frames := byId received, events := s.events.drop served.told, ended, owned := scope.size
        closed := scope.isClosed, subscriptions := c.openCount }
    let served := { served with peer, told := s.events.length, endTold := served.endTold || ended.isSome }
    ({ c with served := Members.insert name served c.served }, some report)

/-- Serves a fresh wire with a session whose scope has a name. -/
def serveNamed (c : Console) (router scopeName : String) (limit : Nat) :
    Console × Ref .session × Ref .scope × Ref .wire :=
  let (c, router) := c.routerNamed router
  let (s, scope) := c.switch.addScope
  let c := c.withSwitch (s.nameScope scopeName scope)
  let (world, wire) := c.world.addWire
  let (world, session) := world.serve wire router scope limit
  ({ c with world }, session, scope, wire)

/-- Closes the peer's end of the session that has a name, if there is one. -/
def dropServed (c : Console) (name : String) : Console :=
  match Members.get? name c.served with
  | some old => c.closeTap old.peer
  | none => c

/-- Starts a session. It takes the place of the one that had its name. -/
def startSession (c : Console) (name router : String) (limit : Nat) : Console × Option SessionReport :=
  let (c, session, scope, wire) := (c.dropServed name).serveNamed router ("session:" ++ name) limit
  c.reportSession name { session, scope, peer := { wire, side := .client } }

def sendSession (c : Console) (name : String) (served : Served) (bytes : Bytes) :
    Console × Option SessionReport :=
  (c.writeTap served.peer bytes).reportSession name served

def hangUpSession (c : Console) (name : String) (served : Served) : Console × Option SessionReport :=
  (c.closeTap served.peer).reportSession name served

/-! ## Remote clients -/

/-- What has happened at a remote client since it was last asked. -/
structure RemoteReport where
  /-- The frames that the raw peer received. -/
  sent : List Received
  streams : List (String × List Client.Event × Bool)
  pending : Nat
  closed : Bool

/-- Remembers the ids that a raw peer saw for the first time. -/
def see (c : Console) (ids : List RequestId) : Console :=
  { c with seenIds := ids.foldl (fun seen id => if seen.contains id then seen else seen ++ [id]) c.seenIds }

def readPeer (c : Console) (caller : Caller) : Console × Caller × List Received :=
  match caller.peer with
  | none => (c, caller, [])
  | some tap =>
    let (c, tap, received, _) := c.readTap tap
    (c.see (received.filterMap (·.2)), { caller with peer := some tap }, received.map (·.1))

/-- Takes what has come for each stream of a client. -/
def drainStreams (w : World) (client : Ref .remote) :
    List (String × Ref .inbox) → World × List (String × List Client.Event × Bool)
  | [] => (w, [])
  | (name, inbox) :: rest =>
    let (w, events, ended) := w.drainMail (.remote client inbox)
    let (w, more) := drainStreams w client rest
    (w, (name, events, ended) :: more)

/-- Reports what has happened at a client, without letting anything go on. -/
def tellRemote (c : Console) (name : String) (caller : Caller) : Console × RemoteReport :=
  let (c, caller, sent) := c.readPeer caller
  let (world, streams) := drainStreams c.world caller.client caller.streams
  let c := { c with world, callers := Members.insert name caller c.callers }
  let (pending, closed) := match c.world.remotes.get? caller.client with
    | some r => (r.desk.pending.length, r.isClosed)
    | none => (0, true)
  (c, { sent, streams, pending, closed })

/-- Lets everything go on, and reports what has happened at a client. -/
def reportRemote (c : Console) (name : String) (caller : Caller) : Console × RemoteReport :=
  c.settle.tellRemote name caller

/-- Gives up the client that has a name, if there is one. -/
def dropCaller (c : Console) (name : String) : Console :=
  match Members.get? name c.callers with
  | some old => { c with world := c.world.cutOff old.client }
  | none => c

/-- Puts a client on a fresh wire, with a session or with nobody at the other end. It takes the
place of the client that had its name. -/
def startRemote (c : Console) (name : String) (encoding : Encoding) (router : Option String)
    (limit clientLimit : Nat) : Console × RemoteReport :=
  let c := c.dropCaller name
  match router with
  | some router =>
    let (c, _, _, wire) := c.serveNamed router ("remote:" ++ name) limit
    let (world, client) := c.world.addRemote wire encoding clientLimit
    { c with world }.reportRemote name { client }
  | none =>
    let (world, wire) := c.world.addWire
    let (world, client) := world.addRemote wire encoding clientLimit
    { c with world }.reportRemote name { client, peer := some { wire, side := .server } }

/-- Sends a request and keeps its stream under a name, in the place of the one that was there. -/
def requestRemote (c : Console) (name : String) (caller : Caller) (r : Request) (stream : String) :
    Console × RemoteReport × Except Client.Error Unit :=
  match c.world.requestRemote caller.client r with
  | (world, .error e) =>
    let (c, report) := { c with world }.reportRemote name caller
    (c, report, .error e)
  | (world, .ok inbox) =>
    let world := match Members.get? stream caller.streams with
      | some old => world.dropMail (.remote caller.client old)
      | none => world
    let caller := { caller with streams := Members.insert stream inbox caller.streams }
    let (c, report) := { c with world }.reportRemote name caller
    (c, report, .ok ())

/-- Sends a request and waits for the first response. -/
def callRemote (c : Console) (name : String) (caller : Caller) (r : Request) (call : String) :
    Console × RemoteReport × CallState :=
  match c.world.requestRemote caller.client r with
  | (world, .error e) =>
    let (c, report) := { c with world }.reportRemote name caller
    let (c, state) := c.refuse e call
    (c, report, state)
  | (world, .ok inbox) =>
    let (c, state) := { c with world }.await (.remote caller.client inbox) call
    let (c, report) := c.tellRemote name caller
    (c, report, state)

/-- Drops a stream of a client; tells whether there was one of that name. -/
def dropRemote (c : Console) (name : String) (caller : Caller) (stream : String) :
    Console × RemoteReport × Bool :=
  match Members.get? stream caller.streams with
  | none =>
    let (c, report) := c.reportRemote name caller
    (c, report, false)
  | some inbox =>
    let world := c.world.dropMail (.remote caller.client inbox)
    let caller := { caller with streams := Members.erase stream caller.streams }
    let (c, report) := { c with world }.reportRemote name caller
    (c, report, true)

def sendPeer (c : Console) (name : String) (caller : Caller) (bytes : Bytes) : Console × RemoteReport :=
  let c := match caller.peer with
    | some tap => c.writeTap tap bytes
    | none => c
  c.reportRemote name caller

def hangUpPeer (c : Console) (name : String) (caller : Caller) : Console × RemoteReport :=
  let c := match caller.peer with
    | some tap => c.closeTap tap
    | none => c
  c.reportRemote name caller

def disconnect (c : Console) (name : String) (caller : Caller) : Console × RemoteReport :=
  { c with world := c.world.disconnect caller.client }.reportRemote name caller

end Exchange.Console
