-- SUMMARY: The handler of a service: subscribing starts production, and leaving stops it.
import Exchange.Handler.Plan
import Exchange.Hub.Service

/-!
# Handlers of services

A service answers `subscribe` with a subscription whose cleanup counts the
subscriber out again, and `unsubscribe` whether there is a subscription or not.
A `call` is up to the service.
-/

namespace Exchange.Handler

/-- The topic that a request refers to. -/
def topicOf (param : Option String) (v : Visit) : Except Failure String :=
  match param with
  | some name => v.require name
  | none => .ok v.path

/-- Counts the subscriber in before the subscription opens, and out again if that fails. -/
def subscribeTo (service : Ref .service) (manager : Ref .manager) (topic : String) : Plan :=
  .perform (.enter service topic) fun _ =>
    .perform (.subscribe manager topic (some (.leave service topic))) fun result =>
      match result with
      | .ok _ => .succeed
      | .error f => .perform (.leave service topic) fun _ => .fail f

def leave (manager : Ref .manager) (v : Visit) : Plan :=
  Plan.andThen (fun sid => .perform (.unsubscribe manager sid v.request.topic) fun _ => .succeed) v.sid

/-- The handler of a service; `onCall` handles what is neither `subscribe` nor `unsubscribe`. -/
def ofService (service : Ref .service) (manager : Ref .manager) (param : Option String)
    (onCall : Handler) : Handler := fun v =>
  match v.request.kind with
  | .call => onCall v
  | .subscribe => Plan.andThen (subscribeTo service manager) (topicOf param v)
  | .unsubscribe => leave manager v

end Exchange.Handler
