-- SUMMARY: Routers, their handlers, and plugins, over the hub that handlers share.
import Exchange.Handler.Plan
import Exchange.Hub

/-!
# The switch

A `Switch` is what dispatching works on: the hub, the routers and handlers, the
plugins that are mounted on the root router, and the names under which routers,
scopes, targets, clients and sinks are known. Routers and scopes come into
being when their names are first used.
-/

namespace Exchange

/-- What a route leads to. -/
inductive Target where
  | handler (h : Ref .handler)
  | router (r : Ref .router)
  /-- Serves a plugin, as long as somebody owns it. -/
  | plugin (p : Ref .plugin)
  deriving DecidableEq, Repr

/-- A client of this program: where its requests go, and what owns its subscriptions. -/
structure Insider where
  router : Ref .router
  scope : Ref .scope
  deriving DecidableEq, Repr

/-- Why a plugin could not be inserted. -/
inductive Plugin.InsertError where
  | alreadyPresent (name : PluginName)
  | invalidName (cause : Pattern.Error)
  deriving DecidableEq, Repr

namespace Plugin

def InsertError.message : InsertError → String
  | .alreadyPresent name => "a plugin named " ++ name.text ++ " is already registered"
  | .invalidName _ => "plugin name cannot be mounted"

def InsertError.cause? : InsertError → Option Pattern.Error
  | .alreadyPresent _ => none
  | .invalidName cause => some cause

def notFoundMessage (name : PluginName) : String :=
  "no plugin named " ++ name.text ++ " is registered"

end Plugin

structure Switch where
  hub : Hub := {}
  routers : Store .router (Table Target) := {}
  handlers : Store .handler Handler := {}
  /-- The router that plugins are mounted on. -/
  root : Ref .router := ⟨0⟩
  /-- The plugins mounted there, in the order of their names. -/
  registered : List (String × Ref .plugin) := []
  routerNames : List (String × Ref .router) := []
  scopeNames : List (String × Ref .scope) := []
  targets : List (String × Target) := []
  insiders : List (String × Insider) := []
  sinks : List (String × Ref .channel) := []

namespace Switch

/-! ## Names -/

def addRouter (s : Switch) : Switch × Ref .router :=
  ({ s with routers := s.routers.push {} }, s.routers.next)

def routerNamed (s : Switch) (name : String) : Switch × Ref .router :=
  match Members.get? name s.routerNames with
  | some r => (s, r)
  | none =>
    let (s, r) := s.addRouter
    ({ s with routerNames := Members.insert name r s.routerNames }, r)

def addScope (s : Switch) : Switch × Ref .scope :=
  let (hub, r) := s.hub.openScope
  ({ s with hub }, r)

def nameScope (s : Switch) (name : String) (scope : Ref .scope) : Switch :=
  { s with scopeNames := Members.insert name scope s.scopeNames }

def scopeNamed (s : Switch) (name : String) : Switch × Ref .scope :=
  match Members.get? name s.scopeNames with
  | some r => (s, r)
  | none =>
    let (s, r) := s.addScope
    (s.nameScope name r, r)

def keepTarget (s : Switch) (name : Option String) (target : Target) : Switch :=
  match name with
  | some name => { s with targets := Members.insert name target s.targets }
  | none => s

def addInsider (s : Switch) (name : String) (router : Ref .router) : Switch × Insider :=
  let (s, scope) := s.addScope
  ({ s with insiders := Members.insert name ⟨router, scope⟩ s.insiders }, ⟨router, scope⟩)

/-! ## Sinks under names -/

/-- Drops the sink that is held under a name; tells whether there was one. -/
def releaseSink (s : Switch) (name : String) : Switch × Bool :=
  match Members.get? name s.sinks with
  | some c => ({ s with hub := s.hub.dropSink c, sinks := Members.erase name s.sinks }, true)
  | none => (s, false)

/-- Holds a sink under a name, in the place of the one that was there, or drops it. -/
def holdSink (s : Switch) (name : Option String) (c : Ref .channel) : Switch :=
  match name with
  | none => { s with hub := s.hub.dropSink c }
  | some name =>
    let (s, _) := s.releaseSink name
    { s with sinks := Members.insert name c s.sinks }

/-! ## Routes -/

def table (s : Switch) (r : Ref .router) : Table Target :=
  (s.routers.get? r).getD {}

def register (s : Switch) (r : Ref .router) (mount : Mount) (pattern : String) (target : Target) :
    Switch × Except Pattern.Error Unit :=
  match (s.table r).register mount pattern target with
  | .ok t => ({ s with routers := s.routers.set r t }, .ok ())
  | .error e => (s, .error e)

def unregister (s : Switch) (r : Ref .router) (pattern : String) (target : Target) : Switch × Bool :=
  let (t, removed) := (s.table r).unregister pattern target
  ({ s with routers := s.routers.set r t }, removed)

def addHandler (s : Switch) (h : Handler) : Switch × Target :=
  ({ s with handlers := s.handlers.push h }, .handler s.handlers.next)

/-- Registers a target at a place, and keeps it under a name even if that fails. -/
def registerAt (s : Switch) (place : Place) (keep : Option String) (target : Target) :
    Switch × Except Pattern.Error Unit :=
  let (s, r) := s.routerNamed place.router
  (s.keepTarget keep target).register r place.mount place.pattern target

/-- Registers a new handler at a place. -/
def install (s : Switch) (place : Place) (keep : Option String) (h : Handler) :
    Switch × Except Pattern.Error Unit :=
  let (s, target) := s.addHandler h
  s.registerAt place keep target

/-- Registers what is there already at a place, if it is there. -/
def attach (s : Switch) (place : Place) (what : Existing) (keep : Option String) :
    Switch × Option (Except Pattern.Error Unit) :=
  match what with
  | .router name =>
    let (s, child) := s.routerNamed name
    let (s, result) := s.registerAt place keep (.router child)
    (s, some result)
  | .target name =>
    match Members.get? name s.targets with
    | some target =>
      let (s, result) := s.registerAt place keep target
      (s, some result)
    | none => (s, none)

def detach (s : Switch) (router pattern target : String) : Switch × Bool :=
  let (s, r) := s.routerNamed router
  match Members.get? target s.targets with
  | some target => s.unregister r pattern target
  | none => (s, false)

/-! ## Plugins -/

/-- Makes a plugin; its client sends requests to the root router. -/
def addPlugin (s : Switch) (name : PluginName) (version : String) (router : Ref .router)
    (scope : Ref .scope) : Switch × Ref .plugin :=
  let p : Plugin := { name, version, router, scope }
  ({ s with hub := { s.hub with plugins := s.hub.plugins.push p } }, s.hub.plugins.next)

def plugin? (s : Switch) (p : Ref .plugin) : Option Plugin :=
  s.hub.plugins.get? p

def revisePlugin (s : Switch) (p : Ref .plugin) (f : Plugin → Plugin) : Switch :=
  { s with hub := s.hub.revisePlugin p f }

/-- Nobody owns the plugin any more. -/
def dropPlugin (s : Switch) (p : Ref .plugin) : Switch :=
  s.revisePlugin p fun p => { p with held := false }

/-- Stops a plugin and releases what it subscribed to. -/
def stopPlugin (s : Switch) (p : Ref .plugin) : Switch :=
  match s.plugin? p with
  | none => s
  | some plugin =>
    let s := s.revisePlugin p (Plugin.setState .stopping)
    let s := { s with hub := (s.hub.closeScope plugin.scope).1 }
    s.revisePlugin p (Plugin.setState .stopped)

/-- Mounts a plugin on a router and starts it. -/
def mountPlugin (s : Switch) (r : Ref .router) (p : Ref .plugin) (name : PluginName) :
    Switch × Except Pattern.Error Unit :=
  match s.register r .below name.mountPrefix (.plugin p) with
  | (s, .ok _) => (s.revisePlugin p Plugin.start, .ok ())
  | (s, .error e) => (s, .error e)

/-- Registers a plugin under its name; a plugin that is refused is dropped. -/
def insertPlugin (s : Switch) (p : Ref .plugin) (name : PluginName) :
    Switch × Except Plugin.InsertError Unit :=
  match Members.get? name.text s.registered with
  | some q => (if q = p then s else s.dropPlugin p, .error (.alreadyPresent name))
  | none =>
    match s.mountPlugin s.root p name with
    | (s, .ok _) => ({ s with registered := Members.insert name.text p s.registered }, .ok ())
    | (s, .error e) => (s.dropPlugin p, .error (.invalidName e))

/-- Unmounts, stops and drops a plugin; tells whether one was registered under the name. -/
def removePlugin (s : Switch) (name : PluginName) : Switch × Bool :=
  match Members.get? name.text s.registered with
  | none => (s, false)
  | some p =>
    let s := { s with registered := Members.erase name.text s.registered }
    let (s, _) := s.unregister s.root name.mountPrefix (.plugin p)
    ((s.stopPlugin p).dropPlugin p, true)

/-! ## Effects -/

def look (s : Switch) (slot : Slot) (scope : Ref .scope) : Glimpse :=
  let sc := (s.hub.scopes.get? scope).getD ⟨none⟩
  { hasBody := slot.hasBody, status := slot.status, scopeSize := sc.size, scopeClosed := sc.isClosed }

/-- Performs an effect of a handler whose request has the given slot and scope. -/
def perform (s : Switch) (slot : Slot) (scope : Ref .scope) :
    (e : Effect) → Switch × Slot × e.Answer
  | .respond message =>
    let (hub, slot) := s.hub.setBody slot (.message message)
    ({ s with hub }, slot, ())
  | .setStatus status => (s, { slot with status := some status }, ())
  | .setCode code => (s, { slot with statusCode := some code }, ())
  | .look => (s, slot, s.look slot scope)
  | .stream items hold =>
    let (hub, slot, c) := s.hub.openStream slot
    let (hub, answers) := hub.useAll c items
    (({ s with hub }).holdSink hold c, slot, answers)
  | .forward items =>
    let (hub, c) := s.hub.openChannel
    let (hub, answers) := hub.useAll c items
    let (hub, slot) := (hub.dropSink c).setBody slot (.stream (.channel c))
    ({ s with hub }, slot, answers)
  | .wrap f =>
    match slot.body with
    | .stream inner => (s, { slot with body := .stream (.mapped f inner) }, true)
    | _ => (s, slot, false)
  | .note text => ({ s with hub := s.hub.note (.note text) }, slot, ())
  | .subscribe manager topic cleanup =>
    let (hub, slot, result) := s.hub.subscribe slot scope manager topic cleanup
    ({ s with hub }, slot, result)
  | .unsubscribe manager sid topic =>
    let (hub, slot, removed) := s.hub.unsubscribe slot manager sid topic
    ({ s with hub }, slot, removed)
  | .finish manager sid =>
    let (hub, result) := s.hub.finish manager sid
    ({ s with hub }, slot, result)
  | .publish manager topic message =>
    let (hub, n) := s.hub.publish manager topic message
    ({ s with hub }, slot, n)
  | .enter service topic => ({ s with hub := s.hub.enterService service topic }, slot, ())
  | .leave service topic => ({ s with hub := s.hub.leaveService service topic }, slot, ())
  | .closeScope =>
    let (hub, n) := s.hub.closeScope scope
    ({ s with hub }, slot, n)
  | .attach place what keep =>
    let (s, result) := s.attach place what keep
    (s, slot, result)
  | .detach router pattern target =>
    let (s, removed) := s.detach router pattern target
    (s, slot, removed)
  | .removePlugin name =>
    let (s, removed) := s.removePlugin name
    (s, slot, removed)

end Switch

end Exchange
