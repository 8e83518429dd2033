-- SUMMARY: What handlers are: plans that perform effects, defer to the next candidate, and end with a result.
import Exchange.Client.Event
import Exchange.Failure
import Exchange.Hub.Manager
import Exchange.Route.Table
import Exchange.Sink

/-!
# Plans

A handler looks at a request as its route presents it and answers with a
`Plan`. A plan performs effects one after another, each of which has an answer
that the rest of the plan may depend on; `next` defers to the candidates that
are left and goes on with their result. Plans are trees without infinite
branches, so a handler always comes to its end.
-/

namespace Exchange

/-- A request as a handler sees it. -/
structure Visit where
  request : Request
  /-- The path relative to the router that handles the request. -/
  path : String
  params : Bindings
  /-- How many candidates are left to defer to. -/
  remaining : Nat

/-- Where something is registered. -/
structure Place where
  router : String
  mount : Mount
  pattern : String

/-- Something that can be registered and is there already, by name. -/
inductive Existing where
  /-- A target that was kept under a name. -/
  | target (name : String)
  | router (name : String)

/-- What a handler sees of the response and of the scope of its request. -/
structure Glimpse where
  hasBody : Bool
  status : Option Status
  scopeSize : Nat
  scopeClosed : Bool

/-! ## Effects -/

/-- What a handler can do beside deferring, registering handlers and calling clients. -/
inductive Effect where
  | respond (message : Value)
  | setStatus (status : Status)
  | setCode (code : String)
  | look
  /-- Makes the response a stream, writes items to it, and holds its sink under a name or drops it. -/
  | stream (items : List Sink.Item) (hold : Option String)
  /-- Writes items to a stream of its own and then makes that the response. -/
  | forward (items : List Sink.Item)
  /-- Changes every frame of the response, if that is a stream. -/
  | wrap (f : Reply → Reply)
  | note (text : String)
  | subscribe (manager : Ref .manager) (topic : String) (cleanup : Option Cleanup)
  | unsubscribe (manager : Ref .manager) (sid : Sid) (topic : Option String)
  | finish (manager : Ref .manager) (sid : Sid)
  | publish (manager : Ref .manager) (topic : String) (message : Value)
  /-- Counts a subscriber of a service in. -/
  | enter (service : Ref .service) (topic : String)
  /-- Counts a subscriber of a service out. -/
  | leave (service : Ref .service) (topic : String)
  /-- Closes the scope of the request. -/
  | closeScope
  /-- Registers what is there already, and keeps it as a target under a name. -/
  | attach (place : Place) (what : Existing) (keep : Option String)
  /-- Takes a target away from a pattern. -/
  | detach (router pattern target : String)
  | removePlugin (name : PluginName)

/-- What performing an effect tells the handler. -/
def Effect.Answer : Effect → Type
  | .respond _ | .setStatus _ | .setCode _ | .note _ | .enter _ _ | .leave _ _ => Unit
  | .look => Glimpse
  | .stream _ _ | .forward _ => List Sink.Answer
  | .wrap _ => Bool
  | .subscribe _ _ _ => Except Failure Sid
  | .unsubscribe _ _ _ => Bool
  | .finish _ _ => Except Failure Unit
  | .publish _ _ _ => Nat
  | .closeScope => Nat
  | .attach _ _ _ => Option (Except Pattern.Error Unit)
  | .detach _ _ _ => Bool
  | .removePlugin _ => Bool

/-! ## Plans -/

inductive Plan where
  | done (result : Except Failure Unit)
  /-- Gives up in a way that no handler recovers from. -/
  | panic
  /-- Defers to the candidates that are left. -/
  | next (k : Except Failure Unit → Plan)
  | perform (e : Effect) (k : e.Answer → Plan)
  /-- Registers a new handler, and keeps it as a target under a name. -/
  | install (place : Place) (keep : Option String) (handler : Visit → Plan)
      (k : Except Pattern.Error Unit → Plan)
  /-- Sends a request through a client of this program and waits for the first response. -/
  | call (client : String) (request : Request)
      (k : Except Client.Error (Option Value) → Plan)

abbrev Handler := Visit → Plan

namespace Plan

def succeed : Plan :=
  .done (.ok ())

def fail (f : Failure) : Plan :=
  .done (.error f)

/-- Defers, and ends with the result. -/
def defer : Plan :=
  .next .done

/-- Goes on if the result is a success, and fails with the failure otherwise. -/
def andThen {α : Type} (rest : α → Plan) : Except Failure α → Plan
  | .ok a => rest a
  | .error f => fail f

end Plan

/-! ## What handlers read -/

namespace Visit

/-- A parameter of the request data that has to be a text with something in it. -/
def require (v : Visit) (name : String) : Except Failure String :=
  match (v.request.data.get? name).bind Value.asText? with
  | some s => if s.isEmpty then .error (.missingParameter name) else .ok s
  | none => .error (.missingParameter name)

/-- The sid that the request names. -/
def sid (v : Visit) : Except Failure Sid :=
  match v.request.sid with
  | some sid => .ok sid
  | none => .error (.missingParameter "sid")

end Visit

end Exchange
