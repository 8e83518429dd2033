-- SUMMARY: All that is under way: requests, sessions, clients, listeners and commands, as tasks over the switch.
import Exchange.Client.Remote
import Exchange.Command
import Exchange.Connections
import Exchange.Dispatch
import Exchange.Feed
import Exchange.SocketDir
import Exchange.Wire

/-!
# The world

A `World` holds the switch, the connections with their two ends, and the tasks
that are under way. A task is something that goes on by itself as soon as it
can. The operations here start tasks; `World.settle`, in the module on
scheduling, carries them on.
-/

namespace Exchange

/-! ## Tasks -/

/-- A request under way: first its handlers, then its frames. -/
inductive Work where
  | dispatching (a : Activity)
  | feeding (f : Feed)

/-- Where the events of a request wait to be read. -/
inductive Mail where
  | insider (inbox : Ref .inbox)
  | remote (client : Ref .remote) (inbox : Ref .inbox)
  deriving DecidableEq, Repr

inductive Task where
  | done
  /-- A dispatch whose result is collected once it is there. -/
  | dispatch (a : Activity)
  /-- A request of a session. -/
  | answer (session : Ref .session) (id : Option RequestId) (encoding : Encoding) (work : Work)
  /-- A request of a client of this program. -/
  | inside (work : Work) (progress : Client.Progress) (inbox : Ref .inbox)
  /-- A caller who waits for the first response. -/
  | call (mail : Mail) (answer : Option (Except Client.Error (Option Value)))
  | readSession (s : Ref .session)
  | writeSession (s : Ref .session)
  | readRemote (c : Ref .remote)
  | writeRemote (c : Ref .remote)
  /-- The clock of a service. -/
  | tick (service : Ref .service)
  | program (p : Ref .program)

/-! ## The parts of the world -/

/-- Accepts connections and serves each with a session. -/
structure Listener where
  /-- Where its socket is. -/
  path : String
  router : Ref .router
  limit : Nat
  running : Bool := true
  connections : Connections := {}
  /-- The sessions that were started, with the ids of their connections. -/
  sessions : List (ConnectionId × Ref .session) := []

/-- A command that runs, and the client it talks through. -/
structure Program where
  run : Command.Run
  client : Ref .remote
  /-- Where the events of its request wait. -/
  inbox : Ref .inbox
  /-- Where the answer to its last request waits. -/
  leave : Option (Ref .inbox) := none
  path : String

structure World where
  switch : Switch := {}
  inboxes : Store .inbox (Channel Client.Event) := {}
  wires : Store .wire Wire := {}
  sessions : Store .session Session := {}
  remotes : Store .remote Client.Remote := {}
  listeners : Store .listener Listener := {}
  programs : Store .program Program := {}
  files : SocketDir := []
  tasks : Store .task Task := {}
  /-- The tasks that can go on, in the order in which they became able to. -/
  ready : List (Ref .task) := []
  /-- How many request ids were issued. -/
  requestIds : Nat := 0
  /-- Seconds that have gone by. -/
  seconds : Nat := 0

namespace World

def hub (w : World) : Hub :=
  w.switch.hub

def withHub (w : World) (hub : Hub) : World :=
  { w with switch := { w.switch with hub } }

/-- Adds a task that is not queued as yet. -/
def addTask (w : World) (t : Task) : World × Ref .task :=
  ({ w with tasks := w.tasks.push t }, w.tasks.next)

/-- Adds a task and queues it. -/
def spawn (w : World) (t : Task) : World × Ref .task :=
  let (w, ref) := w.addTask t
  ({ w with ready := w.ready ++ [ref] }, ref)

/-! ## Mail -/

/-- The channel in which the events of a request wait. -/
def mailbox? (w : World) : Mail → Option (Channel Client.Event)
  | .insider inbox => w.inboxes.get? inbox
  | .remote c inbox => (w.remotes.get? c).bind (·.desk.inboxes.get? inbox)

def modifyMailbox (w : World) (f : Channel Client.Event → Channel Client.Event) : Mail → World
  | .insider inbox => { w with inboxes := w.inboxes.modify inbox f }
  | .remote c inbox =>
    { w with remotes := w.remotes.modify c fun r =>
      { r with desk := { r.desk with inboxes := r.desk.inboxes.modify inbox f } } }

def pullMail (w : World) (m : Mail) : World × Pull Client.Event :=
  match w.mailbox? m with
  | none => (w, .finished)
  | some c =>
    let (c, found) := c.pull
    (w.modifyMailbox (fun _ => c) m, found)

def hasMail (w : World) (m : Mail) : Bool :=
  match w.mailbox? m with
  | none => true
  | some c => c.isReady

def dropMail (w : World) (m : Mail) : World :=
  w.modifyMailbox Channel.close m

/-- Takes all events that have come; tells whether no more will. -/
def drainMail (w : World) (m : Mail) : World × List Client.Event × Bool :=
  match w.mailbox? m with
  | none => (w, [], true)
  | some c => (w.modifyMailbox (fun c => { c with queue := [] }) m, c.queue, c.writers = 0)

/-! ## Requests -/

/-- Sends a request through a client of this program. -/
def requestInside (w : World) (i : Insider) (r : Request) :
    World × Except Client.Error (Ref .inbox) :=
  match Client.validate r with
  | .error e => (w, .error e)
  | .ok _ =>
    if w.hub.isClosed i.scope then (w, .error .closed)
    else
      let inbox := w.inboxes.next
      let w := { w with inboxes := w.inboxes.push { writers := 1 } }
      let (w, _) := w.spawn (.inside (.dispatching (.start i.router r i.scope)) {} inbox)
      (w, .ok inbox)

/-- Sends a request through a remote client. -/
def requestRemote (w : World) (c : Ref .remote) (r : Request) :
    World × Except Client.Error (Ref .inbox) :=
  match w.remotes.get? c with
  | none => (w, .error .closed)
  | some client =>
    let n := w.requestIds + 1
    match client.request (.nth n) r with
    | (_, .error e) => (w, .error e)
    | (client, .ok inbox) =>
      ({ w with remotes := w.remotes.set c client, requestIds := n }, .ok inbox)

/-- Waits for the first response to a request. -/
def awaitFirst (w : World) (m : Mail) : World × Ref .task :=
  w.spawn (.call m none)

/-! ## Connections -/

def addWire (w : World) : World × Ref .wire :=
  ({ w with wires := w.wires.push {} }, w.wires.next)

/-- Serves a wire with a session that owns a scope. -/
def serve (w : World) (wire : Ref .wire) (router : Ref .router) (scope : Ref .scope) (limit : Nat) :
    World × Ref .session :=
  let s := w.sessions.next
  let w := { w with sessions := w.sessions.push { router, scope, limit, wire } }
  let (w, _) := w.spawn (.readSession s)
  let (w, _) := w.spawn (.writeSession s)
  (w, s)

/-- Puts a client at the calling end of a wire. -/
def addRemote (w : World) (wire : Ref .wire) (encoding : Encoding) (limit : Nat) :
    World × Ref .remote :=
  let c := w.remotes.next
  let w := { w with remotes := w.remotes.push { encoding, limit, wire } }
  let (w, _) := w.spawn (.writeRemote c)
  let (w, _) := w.spawn (.readRemote c)
  (w, c)

def modifyWire (w : World) (wire : Ref .wire) (f : Wire → Wire) : World :=
  { w with wires := w.wires.modify wire f }

/-- Disconnects a client, which gives up its end of the wire. -/
def disconnect (w : World) (c : Ref .remote) : World :=
  { w with remotes := w.remotes.modify c Client.Remote.disconnect }

/-- Closes a client's end of the wire at once. -/
def cutOff (w : World) (c : Ref .remote) : World :=
  match w.remotes.get? c with
  | none => w
  | some client =>
    let client := { client.disconnect with writing := false, queue := [] }
    { w with remotes := w.remotes.set c client }.modifyWire client.wire (·.close .client)

/-! ## Listeners -/

/-- Binds a listener to a path and starts it. -/
def listen (w : World) (path : String) (router : Ref .router) (limit : Nat) :
    World × Except SocketDir.BindError (Ref .listener) :=
  let l := w.listeners.next
  match w.files.bind path l with
  | .error e => (w, .error e)
  | .ok files =>
    ({ w with files, listeners := w.listeners.push { path, router, limit } }, .ok l)

/-- Accepts a connection from `peer` and serves it. -/
def accept (w : World) (l : Ref .listener) (listener : Listener) (wire : Ref .wire)
    (peer : String) : World :=
  let (switch, scope) := w.switch.addScope
  let (w, s) := { w with switch }.serve wire listener.router scope listener.limit
  let (connections, id) := listener.connections.create peer scope
  let listener := { listener with connections, sessions := listener.sessions ++ [(id, s)] }
  { w with listeners := w.listeners.set l listener }

/-- Connects to the socket at a path, if somebody listens there. -/
def connect? (w : World) (path : String) : Option (World × Ref .wire) :=
  match w.files.connect? path with
  | none => none
  | some (.listener l) =>
    let (w, wire) := w.addWire
    match w.listeners.get? l with
    | some listener =>
      if listener.running then some (w.accept l listener wire (Endpoint.unix listener.path).text, wire)
      else none
    | none => none
  | some _ => some w.addWire

/-- Forgets the connection of a session that has ended. -/
def forgetSession (w : World) (s : Ref .session) : World :=
  { w with listeners := ⟨w.listeners.items.map fun l =>
      match l.sessions.find? fun p => p.2 = s with
      | some (id, _) =>
        { l with connections := l.connections.remove id, sessions := l.sessions.filter fun p => p.2 ≠ s }
      | none => l⟩ }

/-- Takes a listener down: its sessions stop reading, their scopes close, and its socket goes. -/
def shutdown (w : World) (l : Ref .listener) : World :=
  match w.listeners.get? l with
  | none => w
  | some listener =>
    if !listener.running then w
    else
      let sessions := listener.sessions.foldl
        (fun (store : Store .session Session) p => store.modify p.2 fun s => { s with reader := .aborted })
        w.sessions
      let (connections, hub, _) := listener.connections.closeAll w.hub
      let listener := { listener with running := false, connections, sessions := [] }
      let files := w.files.unlink listener.path
      { w with sessions, files, listeners := w.listeners.set l listener }.withHub hub

end World

end Exchange
