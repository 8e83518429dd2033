-- SUMMARY: Console commands on clients of this program and on plugins.
import Exchange.Console

/-!
# Commands on clients and plugins

Clients of this program send requests to a router without a connection. Every
plugin has such a client, and a router of its own.
-/

namespace Exchange.Console

/-! ## Clients -/

def addClient (c : Console) (name router : String) : Console :=
  let (c, router) := c.routerNamed router
  c.withSwitch (c.switch.addInsider name router).1

def insider? (c : Console) (name : String) : Option Insider :=
  Members.get? name c.switch.insiders

/-- Sends a request and keeps its events under a name. -/
def request (c : Console) (i : Insider) (r : Request) (name : String) :
    Console × Except Client.Error Ready :=
  match c.world.requestInside i r with
  | (world, .error e) => ({ c with world }, .error e)
  | (world, .ok inbox) =>
    let c := { c with world }.settle
    let (c, h, ready) := c.take (.events inbox)
    (c.keep (some name) h, .ok ready)

/-- What a call has come to. -/
inductive CallState where
  | answered (result : Except Client.Error (Option Value))
  | pending

/-- Asks what a call that is waited for has come to. -/
def callState (c : Console) (t : Ref .task) : CallState :=
  match c.world.tasks.get? t with
  | some (.call _ (some result)) => .answered result
  | _ => .pending

/-- Gives a name to a new call; what it has come to is told at once. A call that had the name goes on without it. -/
def nameCall (c : Console) (name : String) (t : Ref .task) : Console × CallState :=
  match c.callState t with
  | .answered result => ({ c with calls := Members.erase name c.calls }, .answered result)
  | .pending => ({ c with calls := Members.insert name t c.calls }, .pending)

/-- Waits for the first response to a request, and keeps the call under a name while it is pending. -/
def await (c : Console) (mail : Mail) (name : String) : Console × CallState :=
  let (world, t) := c.world.awaitFirst mail
  { c with world }.settle.nameCall name t

/-- A call that failed before it was sent. -/
def refuse (c : Console) (e : Client.Error) (name : String) : Console × CallState :=
  ({ c with calls := Members.erase name c.calls }, .answered (.error e))

def call (c : Console) (i : Insider) (r : Request) (name : String) : Console × CallState :=
  match c.world.requestInside i r with
  | (world, .error e) => { c with world }.settle.refuse e name
  | (world, .ok inbox) => { c with world }.await (.insider inbox) name

/-- Asks again for a call that was pending. -/
def join (c : Console) (name : String) : Console × Option CallState :=
  let c := c.settle
  match Members.get? name c.calls with
  | none => (c, none)
  | some t =>
    match c.callState t with
    | .answered result => ({ c with calls := Members.erase name c.calls }, some (.answered result))
    | .pending => (c, some .pending)

/-- Releases what a client subscribed to; tells how much that was. -/
def closeClient (c : Console) (i : Insider) : Console × Nat :=
  let (hub, n) := c.hub.closeScope i.scope
  (c.withHub hub, n)

/-! ## Plugins -/

/-- The name of a plugin's router and of its client. -/
def pluginPart (name : String) : String :=
  "plugin:" ++ name

/-- Makes a plugin, with a router and a client of its own. -/
def addPlugin (c : Console) (known : String) (name : PluginName) (version : String) :
    Console × Ref .plugin :=
  let (s, router) := c.switch.addRouter
  let s := { s with routerNames := Members.insert (pluginPart known) router s.routerNames }
  let (s, insider) := s.addInsider (pluginPart known) s.root
  let (s, p) := s.addPlugin name version router insider.scope
  ({ c with plugins := Members.insert known p c.plugins }.withSwitch s, p)

def plugin? (c : Console) (known : String) : Option (Ref .plugin × Plugin) :=
  (Members.get? known c.plugins).bind fun p => (c.switch.plugin? p).map (p, ·)

def insertPlugin (c : Console) (p : Ref .plugin) (name : PluginName) :
    Console × Except Plugin.InsertError Unit :=
  let (s, result) := c.switch.insertPlugin p name
  (c.withSwitch s, result)

def removePlugin (c : Console) (name : PluginName) : Console × Bool :=
  let (s, removed) := c.switch.removePlugin name
  (c.withSwitch s, removed)

/-- The plugin that is registered under a name; `known` is the name under which it is known from now on. -/
def lendPlugin (c : Console) (name : PluginName) (known : Option String) :
    Console × Option (Ref .plugin) :=
  match Members.get? name.text c.switch.registered with
  | none => (c, none)
  | some p =>
    match known with
    | some known => ({ c with plugins := Members.insert known p c.plugins }, some p)
    | none => (c, some p)

/-- What can be done to a plugin. -/
inductive PluginAction where
  | start
  | stop
  | fail (error : String)

def actOnPlugin (c : Console) (p : Ref .plugin) : PluginAction → Console
  | .start => c.withSwitch (c.switch.revisePlugin p Plugin.start)
  | .stop => c.withSwitch (c.switch.stopPlugin p)
  | .fail error => c.withSwitch (c.switch.revisePlugin p (Plugin.fail error))

/-- What watching a plugin shows. -/
inductive Change where
  | same
  | changed
  /-- Nothing will change any more. -/
  | final
  deriving DecidableEq, Repr

/-- Looks whether a plugin was changed since it was last looked at; the first look shows no change. -/
def watch (c : Console) (known : String) (p : Plugin) : Console × Option Change :=
  let looked := { c with watches := Members.insert known p.revision c.watches }
  match Members.get? known c.watches with
  | none => if p.held then (looked, some .same) else (c, none)
  | some seen =>
    if p.isOver then (looked, some .final)
    else (looked, some (if seen < p.revision then .changed else .same))

end Exchange.Console
