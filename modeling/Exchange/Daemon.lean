-- SUMMARY: The daemon: the routes that it serves, and starting it on an endpoint.
import Exchange.Handler.Subscriptions
import Exchange.World

/-!
# The daemon

The daemon tells its name and version at `/status`, answers at `/pass` with two
handlers of which the first defers to the second, ticks at `/clock`, and has a
plugin that echoes a word.
-/

namespace Exchange.Daemon

def programName : String := "switchboard"

def programVersion : String := "0.1.0"

/-- Tells the name and the version. -/
def statusHandler : Handler := fun _ =>
  .perform (.respond (.ofMembers [("name", .text programName), ("version", .text programVersion)])) fun _ =>
    .succeed

def passHandler : Handler := fun _ =>
  .perform (.respond (.text "pass!")) fun _ => .succeed

/-- Responds with the word that stands in the path, and with the data of the request. -/
def echoHandler : Handler := fun v =>
  let word := (Members.get? "word" v.params).getD ""
  .perform (.respond (.ofMembers [("echo", .text word), ("data", v.request.data)])) fun _ => .succeed

/-- Registers a handler whose pattern is known to be good. -/
def route (s : Switch) (r : Ref .router) (pattern : String) (h : Handler) : Switch :=
  let (s, target) := s.addHandler h
  (s.register r .exact pattern target).1

/-- Puts the daemon's routes on a router, with a table of subscriptions and a clock of their own. -/
def install (s : Switch) (root : Ref .router) : Switch × Ref .service :=
  let s := route s root "/status" statusHandler
  let s := route s root "/pass" fun _ => .defer
  let s := route s root "/pass" passHandler
  let manager := s.hub.managers.next
  let service := s.hub.services.next
  let clock : Service := { name := "clock", manager, producer := .clock }
  let hub := { s.hub with managers := s.hub.managers.push {}, services := s.hub.services.push clock }
  let s := route { s with hub } root "/clock" (Handler.ofService service manager none fun _ => .defer)
  let (s, router) := s.addRouter
  let (s, scope) := s.addScope
  let s := route s router "/:word" echoHandler
  let name : PluginName := ⟨"echo"⟩
  let (s, plugin) := s.addPlugin name programVersion router scope
  ((s.mountPlugin root plugin name).1, service)

/-- Starts a daemon that listens at a path, with a root router of its own. -/
def start (w : World) (path : String) : World × Except SocketDir.BindError (Ref .listener) :=
  let (switch, root) := w.switch.addRouter
  let (switch, clock) := install switch root
  let (w, _) := { w with switch }.spawn (.tick clock)
  w.listen path root Framing.defaultMax

end Exchange.Daemon
