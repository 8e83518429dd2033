-- SUMMARY: Dispatch of one request: through the candidates of its path, nested routers, and plugins.
import Exchange.Switch

/-!
# Dispatch

An `Activity` is a dispatch under way: what it does next, and the levels that
wait for the result of that. A router resolves a path into a chain and tries
its links in order. A router that is itself a candidate, and has no route for
the rest of the path, makes room for the next candidate; so does a plugin,
which answers for its own root though. `Activity.step` is one step; an activity
that waits for a client's call is taken further by the world.
-/

namespace Exchange

/-- The candidates that are left for a path. -/
structure Chain where
  links : List (Link Target)
  path : String

inductive Control where
  /-- A handler carries out its plan. -/
  | run (plan : Plan) (rest : Chain)
  /-- The next candidate of a chain is tried. -/
  | next (chain : Chain)
  /-- A router resolves a path. -/
  | call (router : Ref .router) (path : String)
  /-- A candidate has come to a result. -/
  | back (result : Except Failure Unit)
  /-- A handler has given up; nobody recovers from that. -/
  | unwind
  /-- A handler waits for the first response to a call. -/
  | await (inbox : Ref .inbox) (k : Except Client.Error (Option Value) → Plan) (rest : Chain)
  | settled (result : Result Stream)

/-- What waits for the result of a candidate. -/
inductive Level where
  /-- A handler that deferred. -/
  | handler (k : Except Failure Unit → Plan) (rest : Chain)
  /-- A router that was a candidate, with the candidates after it. -/
  | router (rest : Chain)
  /-- A plugin that was a candidate for `path`, with the candidates after it. -/
  | plugin (p : Ref .plugin) (path : String) (rest : Chain)
  /-- A plugin that has let the request by. -/
  | bypass (p : Ref .plugin)

structure Activity where
  request : Request
  scope : Ref .scope
  slot : Slot := {}
  control : Control
  stack : List Level := []

namespace Activity

/-- A request that is about to be dispatched. -/
def start (router : Ref .router) (request : Request) (scope : Ref .scope) : Activity :=
  { request, scope, control := .call router request.path }

/-- The result, once there is one. -/
def result? (a : Activity) : Option (Result Stream) :=
  match a.control with
  | .settled result => some result
  | _ => none

def goTo (a : Activity) (control : Control) : Activity :=
  { a with control }

/-- Goes one level deeper. -/
def enter (a : Activity) (level : Level) (control : Control) : Activity :=
  { a with control, stack := level :: a.stack }

/-- Settles with a failure; what the handlers have produced is dropped. -/
def settleFailed (a : Activity) (s : Switch) (f : Failure) : Activity × Switch :=
  ({ a with slot := {}, control := .settled (.error f) }, { s with hub := s.hub.dropBody a.slot.body })

/-- The failure of a request whose handler gave up. -/
def panicked : Failure :=
  .ofMessage "Handler panicked"

/-! ## Trying candidates -/

def visit (a : Activity) (link : Link Target) (rest : Chain) : Visit :=
  { request := a.request, path := link.path, params := link.params, remaining := rest.links.length }

/-- A request comes to a plugin; one that is not started lets it by. -/
def tryPlugin (a : Activity) (s : Switch) (p : Ref .plugin) (plugin : Plugin) (path : String)
    (rest : Chain) : Activity × Switch :=
  let s := s.revisePlugin p Plugin.receive
  if plugin.state = .started then
    (a.enter (.plugin p path rest) (.call plugin.router path), s.revisePlugin p Plugin.begin)
  else (a.enter (.bypass p) (.next rest), s)

/-- Tries a candidate; one that is gone makes room for the rest. -/
def tryLink (a : Activity) (s : Switch) (link : Link Target) (rest : Chain) : Activity × Switch :=
  match link.target with
  | .handler h =>
    match s.handlers.get? h with
    | some handler => (a.goTo (.run (handler (a.visit link rest)) rest), s)
    | none => (a.goTo (.next rest), s)
  | .router r => (a.enter (.router rest) (.call r link.path), s)
  | .plugin p =>
    match s.plugin? p with
    | some plugin =>
      if plugin.held then a.tryPlugin s p plugin link.path rest else (a.goTo (.next rest), s)
    | none => (a.goTo (.next rest), s)

/-- Tries the next candidate; without one there is no route. -/
def tryNext (a : Activity) (s : Switch) (chain : Chain) : Activity × Switch :=
  match chain.links with
  | [] => (a.goTo (.back (.error (.noRoute chain.path))), s)
  | link :: links => a.tryLink s link ⟨links, chain.path⟩

/-! ## Returning -/

/-- Takes the result of a request past a plugin that it came to. -/
def passPlugin (a : Activity) (s : Switch) (p : Ref .plugin) (result : Except Failure Unit) :
    Activity × Switch :=
  (a.goTo (.back result), s.revisePlugin p Plugin.release)

/-- Takes the result of a plugin's router back to where the plugin was a candidate. -/
def leavePlugin (a : Activity) (s : Switch) (p : Ref .plugin) (path : String) (rest : Chain) :
    Except Failure Unit → Activity × Switch
  | .ok _ =>
    match a.slot.body with
    | .stream inner =>
      { a with slot := { a.slot with body := .stream (.counted p inner) } }.passPlugin s p (.ok ())
    | _ => a.passPlugin (s.revisePlugin p Plugin.finish) p (.ok ())
  | .error f =>
    let s := s.revisePlugin p Plugin.finish
    if f.isNoRoute then
      if path = "/" then
        let info := match s.plugin? p with
          | some plugin => plugin.info
          | none => .null
        let (hub, slot) := s.hub.setBody { a.slot with status := some .ok } (.message info)
        { a with slot }.passPlugin { s with hub } p (.ok ())
      else (a.enter (.bypass p) (.next rest), s)
    else a.passPlugin s p (.error f)

/-- Takes a result one level up. -/
def goBack (a : Activity) (s : Switch) (result : Except Failure Unit) : Activity × Switch :=
  match a.stack with
  | [] =>
    match result with
    | .ok _ => ({ a with slot := {}, control := .settled (.ok a.slot.outcome) }, s)
    | .error f => a.settleFailed s f
  | level :: stack =>
    let a := { a with stack }
    match level with
    | .handler k rest => (a.goTo (.run (k result) rest), s)
    | .router rest =>
      match result with
      | .error f => if f.isNoRoute then (a.goTo (.next rest), s) else (a.goTo (.back result), s)
      | .ok _ => (a.goTo (.back result), s)
    | .plugin p path rest => a.leavePlugin s p path rest result
    | .bypass p => a.passPlugin s p result

/-- Leaves one level without a result. -/
def unwind (a : Activity) (s : Switch) : Activity × Switch :=
  match a.stack with
  | [] => a.settleFailed s panicked
  | .plugin p _ _ :: stack =>
    ({ a with stack }, (s.revisePlugin p Plugin.finish).revisePlugin p Plugin.release)
  | .bypass p :: stack => ({ a with stack }, s.revisePlugin p Plugin.release)
  | _ :: stack => ({ a with stack }, s)

/-! ## Steps -/

/-- Goes on with a plan; one that calls a client stays where it is. -/
def runPlan (a : Activity) (s : Switch) (plan : Plan) (rest : Chain) : Activity × Switch :=
  match plan with
  | .done result => (a.goTo (.back result), s)
  | .panic => (a.goTo .unwind, s)
  | .next k => (a.enter (.handler k rest) (.next rest), s)
  | .perform e k =>
    let (s, slot, answer) := s.perform a.slot a.scope e
    ({ a with slot, control := .run (k answer) rest }, s)
  | .install place keep handler k =>
    let (s, result) := s.install place keep handler
    (a.goTo (.run (k result) rest), s)
  | .call _ _ _ => (a, s)

def step (a : Activity) (s : Switch) : Activity × Switch :=
  match a.control with
  | .run plan rest => a.runPlan s plan rest
  | .next chain => a.tryNext s chain
  | .call router path => (a.goTo (.next ⟨(s.table router).resolve path, path⟩), s)
  | .back result => a.goBack s result
  | .unwind => a.unwind s
  | .await _ _ _ | .settled _ => (a, s)

end Activity

end Exchange
