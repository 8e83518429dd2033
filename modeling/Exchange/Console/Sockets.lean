-- SUMMARY: Console commands on files, listeners, connections through sockets, and programs.
import Exchange.Console.Peers
import Exchange.Daemon

/-!
# Commands on sockets and programs

Listeners are bound to paths in a directory of the console's own. Daemons and
commands run in the same world as all else and meet at these paths.
-/

namespace Exchange.Console

/-- The directory that paths are relative to. -/
def directory : String := "/run/exchange"

def inDirectory (path : String) : String :=
  directory ++ "/" ++ path

/-- A console whose directory is there, and empty. -/
def initial : Console :=
  let c := fresh
  { c with world := { c.world with files := c.world.files.makeDirs directory } }

/-! ## Files -/

/-- What stands at a path, links not followed. -/
def look (c : Console) (path : String) : Option FileEntry :=
  c.world.files.look? (inDirectory path)

/-- Places something at a path, if it can be placed there. -/
def place? (c : Console) (path : String) (e : FileEntry) : Option Console :=
  (c.world.files.place? (inDirectory path) e).map fun files => { c with world := { c.world with files } }

/-! ## Listeners -/

/-- Why a listener could not be started. -/
inductive ListenError where
  /-- The host has no address. -/
  | resolve
  /-- No address of the host can be bound. -/
  | bindHost
  | bindPath (cause : SocketDir.BindError) (path : String)

/-- Gives up the listener of a name, if there is one. -/
def dropListener (c : Console) (name : String) : Console :=
  match Members.get? name c.listeners with
  | some old => { c with world := c.world.shutdown old, joined := c.joined.filter (· ≠ name) }.settle
  | none => c

/-- Starts a listener at a path. It takes the place of the one that had its name. -/
def listen (c : Console) (name path router : String) (limit : Nat) :
    Console × Except ListenError (Ref .listener) :=
  let (c, router) := c.routerNamed router
  let path := inDirectory path
  match c.world.listen path router limit with
  | (world, .ok l) =>
    let c := { c with world }.dropListener name
    ({ c with listeners := Members.insert name l c.listeners }, .ok l)
  | (world, .error e) => ({ c with world }, .error (.bindPath e path))

/-- Starts a listener on a host. The world has no network, so no host can be bound. -/
def listenHost (host : String) : ListenError :=
  if host.toList.contains (Char.ofNat 0) then .resolve else .bindHost

def listener? (c : Console) (name : String) : Option (Ref .listener × Listener) :=
  (Members.get? name c.listeners).bind fun l => (c.world.listeners.get? l).map (l, ·)

/-- Takes a listener down; tells what is at its path then, unless that was told before. -/
def shutdown (c : Console) (name : String) (l : Ref .listener) (listener : Listener) :
    Console × Option (Option FileEntry) :=
  let c := { c with world := c.world.shutdown l, unordered := true }.settle
  if c.joined.contains name then (c, none)
  else ({ c with joined := name :: c.joined }, some (c.world.files.look? listener.path))

/-! ## Connecting -/

/-- The path of a listener or a daemon. -/
def pathOf? (c : Console) (name : String) : Option String :=
  match c.listener? name with
  | some (_, l) => some l.path
  | none => (Members.get? name c.daemons).map (·.path)

/-- Connects a client to a path. -/
def dial (c : Console) (name path : String) (encoding : Encoding) :
    Console × Except Client.Error RemoteReport :=
  match c.world.connect? path with
  | none => (c.settle, .error (.connect (Endpoint.unix path).text))
  | some (world, wire) =>
    let (world, client) := world.addRemote wire encoding Framing.defaultMax
    let (c, report) := ({ c with world }.dropCaller name).reportRemote name { client }
    (c, .ok report)

/-- Connects to a path without a client; tells whether that worked. -/
def dialRaw (c : Console) (name path : String) : Console × Bool :=
  match c.world.connect? path with
  | none => (c.settle, false)
  | some (world, wire) =>
    let c := match Members.get? name c.taps with
      | some old => { c with world }.closeTap old
      | none => { c with world }
    let tap : Tap := { wire, side := .client }
    ({ c with taps := Members.insert name tap c.taps }.settle, true)

/-- Writes bytes to a raw connection; tells the frames that came back, and whether it was closed. -/
def sendTap (c : Console) (name : String) (tap : Tap) (bytes : Bytes) :
    Console × List (String × List Received) × Bool :=
  let c := (c.writeTap tap bytes).settle
  let (c, tap, received, closed) := c.readTap tap
  ({ c with taps := Members.insert name tap c.taps }, byId received, closed)

def dropTap (c : Console) (name : String) : Console × Bool :=
  match Members.get? name c.taps with
  | none => (c.settle, false)
  | some tap => ({ c.closeTap tap with taps := Members.erase name c.taps }.settle, true)

/-! ## Daemons -/

def bindMessage (path : String) : SocketDir.BindError → String
  | .notSocket => "unix socket path " ++ path ++ " is not a socket"
  | .inUse => "existing unix socket " ++ path ++ " is already in use"
  | .connect => "failed to connect to existing unix socket " ++ path
  | .bind => "failed to bind unix listener at " ++ path

/-- Starts a daemon on the endpoint that the environment names; the text is why it did not start. -/
def startDaemon (c : Console) (name : String) (env : Command.Environment) :
    Console × Except String Unit :=
  match env.endpoint with
  | .error text => (c, .error text)
  | .ok (.tcp host port) =>
    (c, .error ("failed to bind TCP listener at " ++ host ++ ":" ++ toString port.toNat))
  | .ok (.unix path) =>
    match Daemon.start c.world path with
    | (_, .error e) => (c, .error (bindMessage path e))
    | (world, .ok listener) =>
      ({ c with world, daemons := Members.insert name { listener, path } c.daemons }.settle, .ok ())

/-- Takes a daemon down; tells what is at its path then. -/
def stopDaemon (c : Console) (d : Daemon) : Console × Option FileEntry :=
  let c := { c with world := c.world.shutdown d.listener }.settle
  (c, c.world.files.look? d.path)

/-! ## Running commands -/

/-- What happens to a command once its output is there. -/
inductive Finale where
  | none
  | interrupt
  | shutdown (listener : String)
  | finish (sid : Sid)

/-- What a command came to. -/
structure Outcome where
  /-- The exit code; a command that was killed has none. -/
  exit : Option Nat
  output : List String
  /-- The text of the error that the command ended with. -/
  error : Option String

def Outcome.failed (text : String) : Outcome :=
  { exit := some 1, output := [], error := some text }

/-- How a command that ran came to its end. -/
def Outcome.ofRun (r : Command.Run) : Outcome :=
  match r.state with
  | .ended (some text) => { exit := some 1, output := r.output, error := some text }
  | .ended none => { exit := some 0, output := r.output, error := none }
  | _ => { exit := none, output := r.output, error := none }

def runOf (c : Console) (p : Ref .program) : Command.Run :=
  match c.world.programs.get? p with
  | some program => program.run
  | none => { command := .request, state := .ended none }

/-- Lets at most `n` seconds go by until a command has printed a number of lines. -/
def awaitLines (p : Ref .program) (lines : Nat) : (n : Nat) → Console → Console
  | 0, c => c
  | n + 1, c =>
    if (c.runOf p).isEnded ∨ lines ≤ (c.runOf p).output.length then c
    else awaitLines p lines n { c with world := c.world.elapse }.settle

/-- Lets a command take its subscription back. -/
def takeBack (w : World) (ref : Ref .program) (p : Program) (sid : Sid) : World :=
  match w.requestRemote p.client (Command.takeBack p.path sid) with
  | (w, .ok inbox) =>
    let p := { p with run := { p.run with state := .leaving }, leave := some inbox }
    { w with programs := w.programs.set ref p }
  | (w, .error e) => w.settleProgram ref { p with run := p.run.onAnswer (.error e) }

/-- Interrupts a command that runs: one that has a subscription takes it back, any other ends. -/
def interrupt (w : World) (ref : Ref .program) : World :=
  match w.programs.get? ref with
  | none => w
  | some p =>
    if p.run.isEnded then w
    else
      match p.run.command, p.run.sid with
      | .request, _ => w.settleProgram ref { p with run := p.run.kill }
      | .subscribe, none => w.settleProgram ref { p with run := p.run.stop none }
      | .subscribe, some sid => takeBack w ref p sid

def perform (c : Console) (p : Ref .program) : Finale → Console
  | .none => c
  | .interrupt => { c with world := interrupt c.world p }
  | .shutdown name =>
    match c.listener? name with
    | some (l, listener) => (c.shutdown name l listener).1
    | none => c
  | .finish sid => (c.finish sid).1

/-- Starts a command whose settings are known; the text is why it did not start. -/
def launch (c : Console) (command : Command) (settings : Command.Settings) :
    Console × Except String (Ref .program) :=
  let refused := (Client.Error.connect settings.endpoint.text).message
  match settings.endpoint with
  | .tcp _ _ => (c, .error refused)
  | .unix path =>
    match c.world.connect? path with
    | none => (c, .error refused)
    | some (world, wire) =>
      let (world, client) := world.addRemote wire settings.encoding Framing.defaultMax
      match world.requestRemote client settings.request with
      | (world, .error e) => ({ c with world := world.cutOff client }.settle, .error e.message)
      | (world, .ok inbox) =>
        let p := world.programs.next
        let program : Program := { run := { command }, client, inbox, path := settings.request.path }
        let world := { world with programs := world.programs.push program }
        let (world, _) := world.spawn (.program p)
        ({ c with world }.settle, .ok p)

/-- Runs a command to its end. While it runs, messages are published, then a number of lines is
waited for, and then the finale takes place. -/
def runCommand (c : Console) (command : Command) (env : Command.Environment)
    (messages : List (String × Value)) (lines : Nat) (finale : Console → Finale) :
    Console × Outcome :=
  match command.settings env with
  | .error text => (c.settle, .failed text)
  | .ok settings =>
    match c.launch command settings with
    | (c, .error text) => (c.settle, .failed text)
    | (c, .ok p) =>
      let c := (messages.foldl (fun c m => (c.publish m.1 m.2).1) c).settle
      let c := awaitLines p lines (lines + 2) c
      let c := (c.perform p (finale c)).settle
      (c, .ofRun (c.runOf p))

end Exchange.Console
