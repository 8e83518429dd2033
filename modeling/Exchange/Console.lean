-- SUMMARY: A world whose parts are known by name, worked on one command at a time.
import Exchange.Handler.Script
import Exchange.Handler.Subscriptions
import Exchange.World.Schedule

/-!
# The console

A `Console` is a world together with names for the streams, calls, clients,
sessions and plugins in it. Each command does one thing and gives a typed
answer. The lines that the journal gained by a command are its log; the lines
of a command in which hooks ran in no particular order are sorted.
-/

namespace Exchange

/-- A response stream that is kept under a name. -/
inductive Console.Handle where
  | raw (s : Stream)
  | shaped (f : Feed)
  /-- The events of a request of a client of this program. -/
  | events (inbox : Ref .inbox)

/-- A raw end of a wire: nobody but the console reads and writes there. -/
structure Console.Tap where
  wire : Ref .wire
  side : Side
  /-- Bytes that were read and make no record as yet. -/
  buffer : Bytes := []

/-- A session that the console started, and what it has told of it. -/
structure Console.Served where
  session : Ref .session
  scope : Ref .scope
  peer : Console.Tap
  /-- How many events were told. -/
  told : Nat := 0
  /-- The end was told. -/
  endTold : Bool := false

/-- A remote client, its streams by name, and its raw peer, if it has one. -/
structure Console.Caller where
  client : Ref .remote
  peer : Option Console.Tap := none
  streams : List (String × Ref .inbox) := []

/-- A daemon that the console started. -/
structure Console.Daemon where
  listener : Ref .listener
  path : String

structure Console where
  world : World := {}
  manager : Ref .manager := ⟨0⟩
  streams : List (String × Console.Handle) := []
  calls : List (String × Ref .task) := []
  services : List (String × Ref .service) := []
  connections : Connections := {}
  plugins : List (String × Ref .plugin) := []
  /-- The revisions up to which plugins were watched. -/
  watches : List (String × Nat) := []
  served : List (String × Console.Served) := []
  callers : List (String × Console.Caller) := []
  listeners : List (String × Ref .listener) := []
  /-- The listeners that were told to have been joined. -/
  joined : List String := []
  taps : List (String × Console.Tap) := []
  daemons : List (String × Console.Daemon) := []
  /-- The request ids in the order in which raw peers saw them. -/
  seenIds : List RequestId := []
  /-- How many sessions had ended when the command began. -/
  endedBefore : Nat := 0
  /-- The length of the journal when the command began. -/
  mark : Nat := 0
  /-- The log of the command is to be sorted. -/
  unordered : Bool := false

namespace Console

/-- The router that plugins are mounted on. -/
def rootName : String := "root"

/-- The scope of dispatches that name none. -/
def mainScope : String := "main"

/-- A console without anything but an empty root router and a table of subscriptions. -/
def fresh : Console :=
  let switch : Switch := { hub := { managers := (Store.mk #[]).push {} } }
  { world := { switch := (switch.routerNamed rootName).1 } }

def switch (c : Console) : Switch :=
  c.world.switch

def hub (c : Console) : Hub :=
  c.world.hub

def withSwitch (c : Console) (switch : Switch) : Console :=
  { c with world := { c.world with switch } }

def withHub (c : Console) (hub : Hub) : Console :=
  { c with world := c.world.withHub hub }

def settle (c : Console) : Console :=
  { c with world := c.world.settle }

def routerNamed (c : Console) (name : String) : Console × Ref .router :=
  let (s, r) := c.switch.routerNamed name
  (c.withSwitch s, r)

def scopeNamed (c : Console) (name : String) : Console × Ref .scope :=
  let (s, r) := c.switch.scopeNamed name
  (c.withSwitch s, r)

/-! ## The log -/

def endedSessions (c : Console) : Nat :=
  (c.world.sessions.items.filter fun s =>
    match s.reader with
    | .ended _ => true
    | _ => false).size

/-- Starts a command. What the one before has made able to go on is queued ahead of what this one starts. -/
def begin (c : Console) : Console :=
  { c with
    world := c.world.wake, mark := c.hub.journal.length, endedBefore := c.endedSessions, unordered := false }

/-- The lines that the journal gained since the command began. -/
def log (c : Console) : List String :=
  let entries := c.hub.journal.drop c.mark
  let entries := if c.unordered ∨ c.endedBefore < c.endedSessions then Journal.sorted entries else entries
  entries.map (·.text)

/-! ## Routes -/

/-- Registers a script as a handler. -/
def install (c : Console) (place : Place) (keep : Option String) (script : Script) :
    Console × Except Pattern.Error Unit :=
  let (s, result) := c.switch.install place keep (script.handler c.manager)
  (c.withSwitch s, result)

/-- Registers what is there already, if it is there. -/
def attach (c : Console) (place : Place) (what : Existing) (keep : Option String) :
    Console × Option (Except Pattern.Error Unit) :=
  let (s, result) := c.switch.attach place what keep
  (c.withSwitch s, result)

def unregister (c : Console) (router pattern target : String) : Console × Bool :=
  let (s, removed) := c.switch.detach router pattern target
  (c.withSwitch s, removed)

def table (c : Console) (router : String) : Console × Table Target :=
  let (c, r) := c.routerNamed router
  (c, c.switch.table r)

/-! ## Streams -/

/-- Frames or events that were ready, and whether the stream is over. -/
inductive Ready where
  | frames (rs : List Reply) (ended : Bool)
  | events (es : List Client.Event) (ended : Bool)

/-- Takes at most `n` frames off a stream, as far as they are ready. -/
def pullRaw : (n : Nat) → Hub → Stream → Hub × Stream × List Reply × Bool
  | 0, h, s => (h, s, [], false)
  | n + 1, h, s =>
    match h.pull s with
    | (h, s, .item r) =>
      let (h, s, rs, ended) := pullRaw n h s
      (h, s, r :: rs, ended)
    | (h, s, .finished) => (h, s, [], true)
    | (h, s, .pending) => (h, s, [], false)

/-- Takes at most `n` frames off a feed, as far as they are ready. -/
def pullShaped : (n : Nat) → Hub → Feed → Hub × Feed × List Reply × Bool
  | 0, h, f => (h, f, [], false)
  | n + 1, h, f =>
    match f.pull h with
    | (h, f, .item r) =>
      let (h, f, rs, ended) := pullShaped n h f
      (h, f, r :: rs, ended)
    | (h, f, .finished) => (h, f, [], true)
    | (h, f, .pending) => (h, f, [], false)

/-- How many frames are taken off a stream at once. -/
def atOnce : Nat := 1000000

def dropHandle (c : Console) : Handle → Console
  | .raw s => c.withHub (c.hub.dropStream s)
  | .shaped f => c.withHub (f.drop c.hub)
  | .events inbox => { c with world := c.world.dropMail (.insider inbox) }

/-- Keeps a stream under a name, in the place of the one that was there, or drops it. -/
def keep (c : Console) (name : Option String) (h : Handle) : Console :=
  match name with
  | none => c.dropHandle h
  | some name =>
    let c := match Members.get? name c.streams with
      | some old => c.dropHandle old
      | none => c
    { c with streams := Members.insert name h c.streams }

/-- Takes what is ready off a stream. -/
def take (c : Console) : Handle → Console × Handle × Ready
  | .raw s =>
    let (hub, s, rs, ended) := pullRaw atOnce c.hub s
    (c.withHub hub, .raw s, .frames rs ended)
  | .shaped f =>
    let (hub, f, rs, ended) := pullShaped atOnce c.hub f
    (c.withHub hub, .shaped f, .frames rs ended)
  | .events inbox =>
    let (world, es, ended) := c.world.drainMail (.insider inbox)
    ({ c with world }, .events inbox, .events es ended)

/-- Takes what is ready off the stream that has a name, if there is one. -/
def takeNamed (c : Console) (name : String) : Console × Option Ready :=
  let c := c.settle
  match Members.get? name c.streams with
  | none => (c, none)
  | some h =>
    let (c, h, ready) := c.take h
    ({ c with streams := Members.insert name h c.streams }, some ready)

def dropNamed (c : Console) (name : String) : Console × Bool :=
  match Members.get? name c.streams with
  | none => (c, false)
  | some h => ({ c.dropHandle h with streams := Members.erase name c.streams }, true)

/-! ## Dispatch -/

def forgetStream : Body Stream → Body Unit
  | .empty => .empty
  | .message v => .message v
  | .stream _ => .stream ()

/-- Dispatches a request; a stream is kept under a name or dropped. -/
def dispatch (c : Console) (router scope : String) (r : Request) (name : Option String) :
    Console × Option (Result Unit) :=
  let (c, router) := c.routerNamed router
  let (c, scope) := c.scopeNamed scope
  let (world, result) := c.world.dispatch router r scope
  let c := { c with world }
  match result with
  | none => (c, none)
  | some (.error f) => (c, some (.error f))
  | some (.ok o) =>
    let c := match o.body with
      | .stream s => c.keep name (.raw s)
      | _ => c
    (c, some (.ok { status := o.status, statusCode := o.statusCode, body := forgetStream o.body }))

/-- Dispatches a request, shapes the result and takes the frames that are ready. -/
def dispatchShaped (c : Console) (router scope : String) (r : Request) (name : Option String) :
    Console × Option Ready :=
  let (c, router) := c.routerNamed router
  let (c, scope) := c.scopeNamed scope
  let (world, result) := c.world.dispatch router r scope
  let c := { c with world }
  match result with
  | none => (c, none)
  | some result =>
    let (c, h, ready) := c.take (.shaped (.ofResult result))
    (c.keep name h, some ready)

/-! ## Sinks -/

/-- Uses the sink that is held under a name; tells the answers, and whether nobody reads any more. -/
def useSink (c : Console) (name : String) (items : List Sink.Item) :
    Console × Option (List Sink.Answer × Bool) :=
  match Members.get? name c.switch.sinks with
  | none => (c, none)
  | some sink =>
    let (hub, answers) := c.hub.useAll sink items
    (c.withHub hub, some (answers, !hub.isRead sink))

def releaseSink (c : Console) (name : String) : Console × Bool :=
  let (s, released) := c.switch.releaseSink name
  (c.withSwitch s, released)

end Console

end Exchange
