-- SUMMARY: Console commands on subscriptions, scopes, services and served connections.
import Exchange.Console

/-!
# Commands on subscriptions

Publishing and ending, looking into the table of subscriptions, tracking sids
in scopes, services, and a set of connections that own scopes.
-/

namespace Exchange.Console

/-! ## The table of subscriptions -/

def table? (c : Console) : Manager :=
  (c.hub.managers.get? c.manager).getD {}

/-- How many subscriptions are open. -/
def openCount (c : Console) : Nat :=
  c.table?.size

def publish (c : Console) (topic : String) (message : Value) : Console × Nat :=
  let (hub, n) := c.hub.publish c.manager topic message
  (c.withHub hub, n)

def finish (c : Console) (sid : Sid) : Console × Except Failure Unit :=
  let (hub, result) := c.hub.finish c.manager sid
  (c.withHub hub, result)

/-! ## Scopes -/

/-- Tracks a sid, whose release reports a text; tells whether the scope was open. -/
def track (c : Console) (scope : String) (sid : Sid) (text : String) : Console × Bool :=
  let (c, scope) := c.scopeNamed scope
  match c.hub.track? scope sid (.report text) with
  | some hub => (c.withHub hub, true)
  | none => (c, false)

def untrack (c : Console) (scope : String) (sid : Sid) : Console × Bool :=
  let (c, scope) := c.scopeNamed scope
  let (hub, tracked) := c.hub.untrack scope sid
  (c.withHub hub, tracked)

def scopeState (c : Console) (scope : Ref .scope) : Scope :=
  (c.hub.scopes.get? scope).getD ⟨none⟩

def lookAtScope (c : Console) (scope : String) : Console × Scope :=
  let (c, scope) := c.scopeNamed scope
  (c, c.scopeState scope)

def closeScope (c : Console) (scope : String) : Console × Nat :=
  let (c, scope) := c.scopeNamed scope
  let (hub, n) := c.hub.closeScope scope
  (c.withHub hub, n)

/-! ## Services -/

/-- Registers a service; a script handles calls, and without one they are deferred. -/
def addService (c : Console) (place : Place) (keep : Option String) (name : String)
    (param : Option String) (onCall : Option Script) (announcement : Option Value) :
    Console × Except Pattern.Error Unit :=
  let service := c.hub.services.next
  let record : Service := { name, manager := c.manager, param, producer := .herald announcement }
  let c := c.withHub { c.hub with services := c.hub.services.push record }
  let calls : Handler := match onCall with
    | some script => script.handler c.manager
    | none => fun _ => .defer
  let (s, result) := c.switch.install place keep (Handler.ofService service c.manager param calls)
  ({ c with services := Members.insert name service c.services }.withSwitch s, result)

/-- What came of publishing through a service: the subscribers before, those reached, those after. -/
structure Published where
  before : Nat
  delivered : Nat
  after : Nat

/-- Publishes on a topic for which a service of the name has been active. -/
def publishThrough (c : Console) (name topic : String) (message : Value) :
    Console × Option Published :=
  if c.hub.services.items.any fun s => s.name = name && s.published.contains topic then
    let before := c.table?.count topic
    let (c, delivered) := c.publish topic message
    (c, some ⟨before, delivered, c.table?.count topic⟩)
  else (c, none)

def activeTopics (c : Console) (name : String) : Nat :=
  match (Members.get? name c.services).bind c.hub.services.get? with
  | some s => s.activeTopics
  | none => 0

/-! ## Connections -/

def connect (c : Console) (peer scope : String) : Console × ConnectionId :=
  let (c, scope) := c.scopeNamed scope
  let (connections, id) := c.connections.create peer scope
  ({ c with connections }, id)

/-- Forgets a connection; tells who it was and how much its scope tracks. -/
def removeConnection (c : Console) (id : ConnectionId) : Console × Option (Connection × Nat) :=
  match c.connections.find? id with
  | none => (c, none)
  | some connection =>
    ({ c with connections := c.connections.remove id },
      some (connection, (c.scopeState connection.scope).size))

def closeConnections (c : Console) : Console × Nat :=
  let (connections, hub, n) := c.connections.closeAll c.hub
  ({ c with connections, unordered := true }.withHub hub, n)

end Exchange.Console
