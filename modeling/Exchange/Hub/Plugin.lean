-- SUMMARY: Plugins: their live metadata, how it changes, and the record that reports it.
import Exchange.Data.Store
import Exchange.Data.Value
import Exchange.Ident

/-!
# Plugins

A plugin has a private router and a scope that owns what it subscribes to. Its
metadata changes as it starts, stops and serves requests; `revision` counts
the changes, also those that leave all as it was.
-/

namespace Exchange

inductive Plugin.State where
  | stopped
  | starting
  | started
  | stopping
  deriving DecidableEq, Repr

def Plugin.State.name : Plugin.State → String
  | stopped => "stopped"
  | starting => "starting"
  | started => "started"
  | stopping => "stopping"

structure Plugin where
  name : PluginName
  version : String
  state : Plugin.State := .stopped
  /-- Requests under way, streams that they answered with included. -/
  active : Nat := 0
  /-- Requests that were ever begun. -/
  total : Nat := 0
  error : Option String := none
  router : Ref .router
  /-- Owns what the plugin subscribes to. -/
  scope : Ref .scope
  /-- Somebody still owns the plugin. -/
  held : Bool := true
  /-- Requests that have come to the plugin and have no result as yet, also those that it has let by. -/
  visitors : Nat := 0
  revision : Nat := 0

namespace Plugin

/-- Changes the metadata. -/
def revise (f : Plugin → Plugin) (p : Plugin) : Plugin :=
  let p := f p
  { p with revision := p.revision + 1 }

def setState (s : State) : Plugin → Plugin :=
  revise fun p => { p with state := s }

/-- Starts the plugin, which takes two changes. -/
def start (p : Plugin) : Plugin :=
  (p.setState .starting).revise fun p => { p with state := .started, error := none }

/-- Records a failure, which stops the plugin. -/
def fail (error : String) : Plugin → Plugin :=
  revise fun p => { p with state := .stopped, error := some error }

/-- Counts a request that begins. -/
def begin : Plugin → Plugin :=
  revise fun p => { p with active := p.active + 1, total := p.total + 1 }

/-- Counts a request that has ended. -/
def finish : Plugin → Plugin :=
  revise fun p => { p with active := p.active - 1 }

/-- A request has come to the plugin. -/
def receive (p : Plugin) : Plugin :=
  { p with visitors := p.visitors + 1 }

/-- A request that had come to the plugin has its result. -/
def release (p : Plugin) : Plugin :=
  { p with visitors := p.visitors - 1 }

/-- Neither an owner nor a request is left to change the metadata. -/
def isOver (p : Plugin) : Bool :=
  !p.held && p.active = 0 && p.visitors = 0

/-- The metadata as an object. -/
def info (p : Plugin) : Value :=
  .ofMembers ([("name", .text p.name.text), ("version", .text p.version),
    ("state", .text p.state.name), ("activeRequests", .ofNat p.active),
    ("totalRequests", .ofNat p.total)] ++ p.error.toList.map fun e => ("error", .text e))

/-- How the view of a plugin that nobody owns fails. -/
def viewMessage (name : PluginName) : String :=
  "the plugin " ++ name.text ++ " is no longer registered"

end Plugin

end Exchange
