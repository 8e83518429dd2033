-- SUMMARY: Handlers written as lists of simple actions.
import Exchange.Handler.Plan
import Exchange.Report
import Exchange.Data.Json.Printer

/-!
# Scripts

A script is a handler without code of its own: a list of actions, done in order
until one fails. Most actions report to the journal what came of them.
-/

namespace Exchange

inductive Action where
  | respond (message : Value)
  /-- Responds with all that the handler sees of the request. -/
  | echo
  /-- Responds with a parameter of the route. -/
  | param (name : String)
  | status (s : Status)
  | code (c : String)
  /-- Needs a text in the request data. -/
  | require (name : String)
  | log (text : String)
  /-- Reports what can be seen of the request's progress. -/
  | look
  | next
  /-- Defers, and goes on even if that fails. -/
  | catchNext
  | fail (f : Failure)
  | panic
  | stream (items : List Sink.Item) (hold : Option String)
  | forward (items : List Sink.Item)
  /-- Puts a tag on every frame of the response. -/
  | wrap (tag : Value)
  | subscribe (topic cleanup : Option String)
  | unsubscribe
  | publish (topic : String) (message : Value)
  | finish
  | closeScope
  | attach (place : Place) (what : Existing) (keep : Option String)
  | detach (router pattern target : String)
  | removePlugin (name : PluginName)
  | call (client : String) (request : Request)

inductive Script where
  | stop
  | act (a : Action) (rest : Script)
  /-- Registers a script as a handler. -/
  | install (place : Place) (keep : Option String) (handler : Script) (rest : Script)
  deriving Inhabited

namespace Action

def flag (b : Bool) : String :=
  if b then "true" else "false"

/-- The line that reports what can be seen of a request's progress. -/
def lookLine (v : Visit) (g : Glimpse) : String :=
  "path=" ++ v.path ++ " remaining=" ++ toString v.remaining ++ " has_response=" ++ flag g.hasBody ++
    " status=" ++ (match g.status with | some s => s.text | none => "none") ++
    " scope_len=" ++ toString g.scopeSize ++ " scope_closed=" ++ flag g.scopeClosed

/-- The message that shows all that the handler sees of the request. -/
def echoMessage (v : Visit) : Value :=
  .ofMembers [("path", .text v.path), ("params", v.params.report), ("kind", .text v.request.kind.name),
    ("data", v.request.data), ("request", v.request.report)]

def caughtLine : Except Failure Unit → String
  | .ok _ => "caught nothing"
  | .error f => "caught " ++ f.statusCode ++ " " ++ f.message

/-- The message that tells what came of a call. -/
def callMessage : Except Client.Error (Option Value) → Value
  | .ok message => .ofMembers [("called", .ofOption message)]
  | .error e => .ofMembers [("call_failed", e.report)]

/-- Journals a line and goes on. -/
def journal (line : String) (k : Plan) : Plan :=
  .perform (.note line) fun _ => k

/-- One action of a handler, and `k` after it; subscriptions are opened with `manager`. -/
def plan (manager : Ref .manager) (v : Visit) (k : Plan) : Action → Plan
  | respond message => .perform (.respond message) fun _ => k
  | echo => .perform (.respond (echoMessage v)) fun _ => k
  | param name =>
    .perform (.respond (.ofMembers [("param", Report.text? (Members.get? name v.params))])) fun _ => k
  | status s => .perform (.setStatus s) fun _ => k
  | code c => .perform (.setCode c) fun _ => k
  | require name =>
    Plan.andThen (fun value => journal ("require " ++ name ++ "=" ++ value) k) (v.require name)
  | log text => journal text k
  | look => .perform .look fun g => journal (lookLine v g) k
  | next => .next (Plan.andThen fun _ => k)
  | catchNext => .next fun result => journal (caughtLine result) k
  | fail f => .fail f
  | panic => .panic
  | stream items hold =>
    .perform (.stream items hold) fun answers => journal ("writes " ++ Json.text (Sink.report answers)) k
  | forward items => .perform (.forward items) fun _ => k
  | wrap tag =>
    .perform (.wrap fun r => { r with extra := Members.insert "tag" tag r.extra }) fun wrapped =>
      journal ("wrapped " ++ flag wrapped) k
  | subscribe topic cleanup =>
    .perform (.subscribe manager (topic.getD v.path) (cleanup.map .report)) (Plan.andThen fun _ => k)
  | unsubscribe =>
    Plan.andThen
      (fun sid => .perform (.unsubscribe manager sid v.request.topic) fun removed =>
        journal ("unsubscribed " ++ flag removed) k)
      v.sid
  | publish topic message =>
    .perform (.publish manager topic message) fun (n : Nat) => journal ("published " ++ toString n) k
  | finish =>
    Plan.andThen (fun sid => .perform (.finish manager sid) (Plan.andThen fun _ => k)) v.sid
  | closeScope => .perform .closeScope fun (n : Nat) => journal ("released " ++ toString n) k
  | attach place what keep =>
    .perform (.attach place what keep) fun
      | some result => journal ("register " ++ Json.text (Pattern.Error.reportOf result)) k
      | none => .panic
  | detach router pattern target =>
    .perform (.detach router pattern target) fun removed => journal ("unregister " ++ flag removed) k
  | removePlugin name =>
    .perform (.removePlugin name) fun
      | true => journal "plugin removed" k
      | false => journal ("no plugin named " ++ name.text ++ " is registered") k
  | call client request =>
    .call client request fun result => .perform (.respond (callMessage result)) fun _ => k

end Action

/-- The plan of a script's handler; subscriptions are opened with `manager`. -/
def Script.plan (manager : Ref .manager) (v : Visit) : Script → Plan
  | .stop => .succeed
  | .act a rest => a.plan manager v (rest.plan manager v)
  | .install place keep handler rest =>
    .install place keep (fun v => handler.plan manager v) fun result =>
      Action.journal ("register " ++ Json.text (Pattern.Error.reportOf result)) (rest.plan manager v)

def Script.handler (manager : Ref .manager) (s : Script) : Handler :=
  fun v => s.plan manager v

end Exchange
