-- SUMMARY: The two commands that talk to a daemon: what they send, and what they make of the events.
import Exchange.Client.Event
import Exchange.Data.Json.Printer
import Exchange.Endpoint

/-!
# Commands

`request` sends one request and prints each message of the response, indented.
`subscribe` opens a subscription and prints, a line each, the messages after the
response that told its sid. Both take their settings from environment variables
and end with an error text or without.
-/

namespace Exchange

inductive Command where
  | request
  | subscribe
  deriving DecidableEq, Repr

namespace Command

/-- Variables by name. -/
abbrev Environment := List (String × String)

/-- The variables that the commands look at. -/
def variableNames : List String :=
  [Endpoint.variableName, "REQUEST_PATH", "REQUEST_DATA", "REQUEST_TYPE", "REQUEST_ENCODING", "SUBSCRIBE_PATH"]

def Environment.lookup (env : Environment) (name : String) (standard : String) : String :=
  (Members.get? name env).getD standard

def Environment.endpoint (env : Environment) : Except String Endpoint :=
  (Endpoint.ofVariable (Members.get? Endpoint.variableName env)).mapError Endpoint.Error.message

/-! ## Settings -/

/-- Where a command connects to and what it sends. -/
structure Settings where
  endpoint : Endpoint
  encoding : Encoding := .text
  request : Request

def requestSettings (env : Environment) : Except String Settings := do
  let endpoint ← env.endpoint
  let path := env.lookup "REQUEST_PATH" "/status"
  let encoding := if env.lookup "REQUEST_ENCODING" "text" = "binary" then Encoding.binary else .text
  let data ← match Json.parse? (env.lookup "REQUEST_DATA" "\x7b\x7d") with
    | some v => .ok v
    | none => .error "REQUEST_DATA is not valid JSON"
  let kind ← match Request.Kind.ofName? (env.lookup "REQUEST_TYPE" "call") with
    | some k => .ok k
    | none => .error "REQUEST_TYPE must be call, subscribe or unsubscribe"
  return { endpoint, encoding, request := { path, data, kind } }

def subscribeSettings (env : Environment) : Except String Settings := do
  let endpoint ← env.endpoint
  let path := env.lookup "SUBSCRIBE_PATH" "/clock"
  return { endpoint, request := { path, kind := .subscribe } }

def settings : Command → Environment → Except String Settings
  | request => requestSettings
  | subscribe => subscribeSettings

/-- The request that takes a subscription back. -/
def takeBack (path : String) (sid : Sid) : Request :=
  { path, kind := .unsubscribe, sid := some sid }

/-! ## Events -/

/-- How far a command has come. -/
inductive State where
  | running
  /-- The subscription is being taken back. -/
  | leaving
  | ended (error : Option String)
  /-- The command was interrupted and does not handle that. -/
  | killed
  deriving DecidableEq, Repr

/-- A command under way. -/
structure Run where
  command : Command
  sid : Option Sid := none
  /-- Lines of output, oldest first. -/
  output : List String := []
  state : State := .running

namespace Run

def isEnded (r : Run) : Bool :=
  match r.state with
  | .ended _ | .killed => true
  | .running | .leaving => false

def stop (r : Run) (error : Option String) : Run :=
  { r with state := .ended error }

def kill (r : Run) : Run :=
  { r with state := .killed }

/-- Prints a text of one or more lines. -/
def print (r : Run) (text : String) : Run :=
  { r with output := r.output ++ text.splitOn "\n" }

/-- A response: printed, unless it is the one that tells the sid. -/
def onResponse (r : Run) (message : Option Value) (reply : Reply) : Run :=
  match r.command with
  | .request => r.print (Json.indented (.ofOption message))
  | .subscribe =>
    match r.sid with
    | none => { r with sid := reply.sid }
    | some _ => r.print (Json.text (.ofOption message))

/-- Takes in an event; `none` is the end of the events. -/
def onEvent (r : Run) : Option Client.Event → Run
  | some (.response message reply) => r.onResponse message reply
  | some (.warning _) => r
  | some (.error fault _) => r.stop (some fault.text)
  | some (.transportError reason) => r.stop (some ("transport error: " ++ reason))
  | some .finish =>
    match r.command with
    | .request => r
    | .subscribe => r.stop none
  | some .close =>
    match r.command with
    | .request => r.stop (some "connection closed")
    | .subscribe => r.stop none
  | none => r.stop none

/-- Takes in what came of taking the subscription back. -/
def onAnswer (r : Run) : Except Client.Error (Option Value) → Run
  | .ok _ => r.stop none
  | .error e => r.stop (some e.message)

end Run

end Command

end Exchange
