-- SUMMARY: Carrying tasks on, one small step at a time, until none can go on.
import Exchange.World

/-!
# Scheduling

`World.canRun` tells whether a task can go on, and `World.advance` lets it do
one step. Tasks that can go on wait in a queue in the order in which they became
able to; the one at its head goes on for as long as it can. `World.settle`
carries on until no task can.
-/

namespace Exchange.World

/-! ## Who can go on -/

def canDispatch (w : World) (a : Activity) : Bool :=
  match a.control with
  | .await inbox _ _ => w.hasMail (.insider inbox)
  | .settled _ => false
  | _ => true

def canWork (w : World) : Work → Bool
  | .dispatching a => a.result?.isSome || w.canDispatch a
  | .feeding f => f.isReady w.hub

/-- There is something to read at an end of a wire. -/
def hasNews (w : World) (wire : Ref .wire) (side : Side) : Bool :=
  match w.wires.get? wire with
  | some wire => wire.hasNews side
  | none => false

def hasFailed : Session.Writer → Bool
  | .failed _ => true
  | _ => false

def canRun (w : World) : Task → Bool
  | .done => false
  | .dispatch a => w.canDispatch a
  | .answer _ _ _ work | .inside work _ _ => w.canWork work
  | .call mail answer => answer.isNone && w.hasMail mail
  | .readSession s =>
    match w.sessions.get? s with
    | some s => s.isReading && (hasFailed s.writer || w.hasNews s.wire .server)
    | none => false
  | .writeSession s =>
    match w.sessions.get? s with
    | some s => s.isStopping || s.isWriting && (!s.queue.isEmpty || s.isSpent)
    | none => false
  | .readRemote c =>
    match w.remotes.get? c with
    | some c => c.reading && w.hasNews c.wire .client
    | none => false
  | .writeRemote c =>
    match w.remotes.get? c with
    | some c => c.writing && (!c.queue.isEmpty || c.isClosed)
    | none => false
  | .tick service =>
    match w.hub.services.get? service with
    | some s => !s.due.isEmpty
    | none => false
  | .program p =>
    match w.programs.get? p with
    | some p =>
      match p.run.state with
      | .running => w.hasMail (.remote p.client p.inbox)
      | .leaving => p.leave.all fun inbox => w.hasMail (.remote p.client inbox)
      | .ended _ | .killed => false
    | none => false

/-! ## Requests -/

/-- Sends the request of a handler, which then waits for the first response. -/
def startCall (w : World) (a : Activity) (client : String) (r : Request)
    (k : Except Client.Error (Option Value) → Plan) (rest : Chain) : World × Activity :=
  match Members.get? client w.switch.insiders with
  | none => (w, a.goTo .unwind)
  | some insider =>
    match w.requestInside insider r with
    | (w, .ok inbox) => (w, a.goTo (.await inbox k rest))
    | (w, .error e) => (w, a.goTo (.run (k (.error e)) rest))

/-- Takes in an event for a handler that waits for the first response. -/
def receiveCall (w : World) (a : Activity) (inbox : Ref .inbox)
    (k : Except Client.Error (Option Value) → Plan) (rest : Chain) : World × Activity :=
  match w.pullMail (.insider inbox) with
  | (w, .pending) => (w, a)
  | (w, .finished) => (w, a.goTo (.run (k (.error .closed)) rest))
  | (w, .item e) =>
    match e.answer? with
    | none => (w, a)
    | some answer => (w.dropMail (.insider inbox), a.goTo (.run (k answer) rest))

/-- One step of a dispatch, calls to clients included. -/
def stepActivity (w : World) (a : Activity) : World × Activity :=
  match a.control with
  | .run (.call client r k) rest => w.startCall a client r k rest
  | .await inbox k rest => w.receiveCall a inbox k rest
  | _ =>
    let (a, switch) := a.step w.switch
    ({ w with switch }, a)

/-- One step of a request; a settled one becomes a feed of frames. -/
def stepWork (w : World) : Work → World × Work × Pull Reply
  | .dispatching a =>
    match a.result? with
    | some result => (w, .feeding (.ofResult result), .pending)
    | none =>
      let (w, a) := w.stepActivity a
      (w, .dispatching a, .pending)
  | .feeding f =>
    let (hub, f, found) := f.pull w.hub
    (w.withHub hub, .feeding f, found)

def dropWork (w : World) : Work → World
  | .dispatching _ => w
  | .feeding f => w.withHub (f.drop w.hub)

def setTask (w : World) (t : Ref .task) (task : Task) : World :=
  { w with tasks := w.tasks.set t task }

/-- A request of a session has ended. -/
def endJob (w : World) (t : Ref .task) (s : Ref .session) (work : Work) : World :=
  let w := w.dropWork work
  { w with sessions := w.sessions.modify s fun s => { s with jobs := s.jobs - 1 } }.setTask t .done

def stepAnswer (w : World) (t : Ref .task) (s : Ref .session) (id : Option RequestId)
    (encoding : Encoding) (work : Work) : World :=
  match w.stepWork work with
  | (w, work, .pending) => w.setTask t (.answer s id encoding work)
  | (w, work, .finished) => w.endJob t s work
  | (w, work, .item r) =>
    match w.sessions.get? s with
    | none => w.endJob t s work
    | some session =>
      let (session, goesOn) := session.enqueue { r with id } encoding
      let w := { w with sessions := w.sessions.set s session }
      if goesOn then w.setTask t (.answer s id encoding work) else w.endJob t s work

/-- Puts events into an inbox of this program's clients. -/
def deliverInside (w : World) (inbox : Ref .inbox) (events : List Client.Event) : World :=
  { w with inboxes := w.inboxes.modify inbox fun c => events.foldl (fun c e => (c.send e).1) c }

/-- A request of a client of this program has ended. -/
def endInside (w : World) (t : Ref .task) (inbox : Ref .inbox) (work : Work) : World :=
  let w := w.dropWork work
  { w with inboxes := w.inboxes.modify inbox Channel.leave }.setTask t .done

def isInboxRead (w : World) (inbox : Ref .inbox) : Bool :=
  match w.inboxes.get? inbox with
  | some c => c.reading
  | none => false

def stepInside (w : World) (t : Ref .task) (work : Work) (progress : Client.Progress)
    (inbox : Ref .inbox) : World :=
  match w.stepWork work with
  | (w, work, .pending) => w.setTask t (.inside work progress inbox)
  | (w, work, .finished) =>
    let (events, _) := (progress.accept .closed).drain
    (w.deliverInside inbox events).endInside t inbox work
  | (w, work, .item r) =>
    let (events, progress) := (progress.accept (.frame r)).drain
    let w := w.deliverInside inbox events
    if progress.finished || !w.isInboxRead inbox then w.endInside t inbox work
    else w.setTask t (.inside work progress inbox)

def stepCall (w : World) (t : Ref .task) (mail : Mail) : World :=
  match w.pullMail mail with
  | (w, .pending) => w
  | (w, .finished) => w.setTask t (.call mail (some (.error .closed)))
  | (w, .item e) =>
    match e.answer? with
    | none => w
    | some answer => (w.dropMail mail).setTask t (.call mail (some answer))

/-! ## Connections -/

/-- Closes the serving end of a wire that no half of the session uses any more. -/
def tidySession (w : World) (s : Session) : World :=
  if s.isOver then w.modifyWire s.wire (·.close .server) else w

def startJobs (w : World) (ref : Ref .session) (s : Session) (jobs : List Session.Job) : World :=
  jobs.foldl (fun w job =>
    (w.spawn (.answer ref job.id job.encoding (.dispatching (.start s.router job.request s.scope)))).1) w

/-- Puts back a session that may have ended; if it has, its scope closes. -/
def settleSession (w : World) (ref : Ref .session) (s : Session) : World :=
  let w := { w with sessions := w.sessions.set ref s }
  match s.reader with
  | .ended _ =>
    let (hub, _) := w.hub.closeScope s.scope
    ((w.withHub hub).forgetSession ref).tidySession s
  | _ => w

def stepReadSession (w : World) (ref : Ref .session) : World :=
  match w.sessions.get? ref with
  | none => w
  | some s =>
    match s.writer with
    | .failed e => w.settleSession ref (s.finish (.error (.write e)))
    | _ =>
      match w.wires.get? s.wire with
      | none => w
      | some wire =>
        let (wire, bytes, closed) := wire.read .server
        let w := { w with wires := w.wires.set s.wire wire }
        let (s, jobs) := s.read bytes closed
        (w.startJobs ref s jobs).settleSession ref s

def stepWriteSession (w : World) (ref : Ref .session) : World :=
  match w.sessions.get? ref with
  | none => w
  | some s =>
    let (s, bytes) := s.write
    let w := { w with sessions := w.sessions.set ref s }
    (w.modifyWire s.wire (·.write .server bytes)).tidySession s

def tidyRemote (w : World) (c : Client.Remote) : World :=
  if c.isOver then w.modifyWire c.wire (·.close .client) else w

def stepReadRemote (w : World) (ref : Ref .remote) : World :=
  match w.remotes.get? ref with
  | none => w
  | some c =>
    match w.wires.get? c.wire with
    | none => w
    | some wire =>
      let (wire, bytes, closed) := wire.read .client
      let w := { w with wires := w.wires.set c.wire wire }
      let c := c.read bytes closed
      { w with remotes := w.remotes.set ref c }.tidyRemote c

def stepWriteRemote (w : World) (ref : Ref .remote) : World :=
  match w.remotes.get? ref with
  | none => w
  | some c =>
    let (c, bytes) := c.write
    let w := { w with remotes := w.remotes.set ref c }
    (w.modifyWire c.wire (·.write .client bytes)).tidyRemote c

/-! ## Clocks and commands -/

/-- The time at which the clock starts, in milliseconds. -/
def epoch : Nat := 1700000000000

/-- The message that tells the time. -/
def clockMessage (w : World) : Value :=
  .ofMembers [("now", .ofNat (epoch + 1000 * w.seconds))]

/-- Publishes the time on the first topic that is due. -/
def stepTick (w : World) (ref : Ref .service) : World :=
  match w.hub.services.get? ref with
  | none => w
  | some s =>
    match s.due with
    | [] => w
    | topic :: rest =>
      let hub := { w.hub with services := w.hub.services.set ref { s with due := rest } }
      let (hub, _) := hub.publish s.manager topic w.clockMessage
      w.withHub hub

/-- Lets a second go by, after which the time is due on every active topic. -/
def elapse (w : World) : World :=
  let services : Store .service Service :=
    ⟨w.hub.services.items.map fun s => if s.isClock then { s with due := Members.keys s.active } else s⟩
  { w with seconds := w.seconds + 1 }.withHub { w.hub with services }

/-- Puts back a command that may have ended; if it has, its connection is cut. -/
def settleProgram (w : World) (ref : Ref .program) (p : Program) : World :=
  let w := { w with programs := w.programs.set ref p }
  if p.run.isEnded then w.cutOff p.client else w

def stepProgram (w : World) (ref : Ref .program) : World :=
  match w.programs.get? ref with
  | none => w
  | some p =>
    match p.run.state, p.leave with
    | .leaving, some inbox =>
      match w.pullMail (.remote p.client inbox) with
      | (w, .pending) => w
      | (w, .finished) => w.settleProgram ref { p with run := p.run.onAnswer (.error .closed) }
      | (w, .item e) =>
        match e.answer? with
        | none => w
        | some answer => w.settleProgram ref { p with run := p.run.onAnswer answer }
    | _, _ =>
      match w.pullMail (.remote p.client p.inbox) with
      | (w, .pending) => w
      | (w, .finished) => w.settleProgram ref { p with run := p.run.onEvent none }
      | (w, .item e) => w.settleProgram ref { p with run := p.run.onEvent (some e) }

/-! ## Steps -/

/-- Lets a task do one step. -/
def advance (w : World) (t : Ref .task) : Task → World
  | .done => w
  | .dispatch a =>
    let (w, a) := w.stepActivity a
    w.setTask t (.dispatch a)
  | .answer s id encoding work => w.stepAnswer t s id encoding work
  | .inside work progress inbox => w.stepInside t work progress inbox
  | .call mail _ => w.stepCall t mail
  | .readSession s => w.stepReadSession s
  | .writeSession s => w.stepWriteSession s
  | .readRemote c => w.stepReadRemote c
  | .writeRemote c => w.stepWriteRemote c
  | .tick service => w.stepTick service
  | .program p => w.stepProgram p

def canGoOn (w : World) (t : Ref .task) : Bool :=
  match w.tasks.get? t with
  | some task => w.canRun task
  | none => false

/-- Queues the tasks that have become able to go on. -/
def wake (w : World) : World :=
  { w with ready := w.ready ++ w.tasks.refs.filter fun t => !w.ready.contains t && w.canGoOn t }

/-- Lets the task at the head of the queue do one step, or takes it off. -/
def beat (w : World) : World :=
  match w.ready with
  | [] => w
  | t :: rest =>
    match w.tasks.get? t with
    | some task => if w.canRun task then (w.advance t task).wake else { w with ready := rest }
    | none => { w with ready := rest }

/-- Carries on for at most `n` steps. -/
def run : (n : Nat) → World → World
  | 0, w => w
  | n + 1, w => if w.ready.isEmpty then w else run n w.beat

/-- How many steps a world is given to come to rest. -/
def patience : Nat := 1000000

/-- Carries on until no task can go on. -/
def settle (w : World) : World :=
  run patience w.wake

/-! ## Collecting the result of one task -/

/-- The result of a dispatch that was started as a task. -/
def resultOf? (w : World) (t : Ref .task) : Option (Result Stream) :=
  match w.tasks.get? t with
  | some (.dispatch a) => a.result?
  | _ => none

/-- Dispatches a request, and lets everything go on. -/
def dispatch (w : World) (router : Ref .router) (r : Request) (scope : Ref .scope) :
    World × Option (Result Stream) :=
  let (w, t) := w.spawn (.dispatch (.start router r scope))
  let w := w.settle
  (w.setTask t .done, w.resultOf? t)

end Exchange.World
