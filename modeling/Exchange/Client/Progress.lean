-- SUMMARY: The progress of one pending request: frames and connection news in, events out.
import Exchange.Client.Event

/-!
# Progress of a request

`Progress` classifies the frames of one request into events. The first frame
fixes the status; later frames are reported under it. After a terminal event
nothing counts any more. Events wait in a queue until they are polled.
-/

namespace Exchange.Client

structure Progress where
  status : Option Status := none
  finished : Bool := false
  queue : List Event := []

namespace Progress

inductive Input where
  | frame (r : Reply)
  | warning (text : String)
  | closed
  | failed (reason : String)

/-- The events of a frame that is reported under `status`. -/
def eventsOf (status : Status) (r : Reply) : List Event :=
  let r := { r with id := none, status := some status }
  match status.classOf with
  | .success =>
    (if r.isFinish then [] else [.response r.message r]) ++ (if r.fin then [.finish] else [])
  | .clientError | .serverError =>
    let fault := Fault.ofReply r status
    [.error fault { r with statusCode := some fault.statusCode }]
  | .other _ => []

/-- Appends events, the last of which may be terminal. -/
def push (p : Progress) (events : List Event) : Progress :=
  { p with finished := events.any Event.isTerminal, queue := p.queue ++ events }

/-- Takes in one piece of news. -/
def accept (p : Progress) (input : Input) : Progress :=
  if p.finished then p
  else
    match input with
    | .frame r =>
      let status := p.status.getD r.effectiveStatus
      { p with status := some status }.push (eventsOf status r)
    | .warning text => p.push [.warning text]
    | .closed => p.push [.close]
    | .failed reason => p.push [.transportError reason]

/-- Takes the oldest event out of the queue. -/
def poll (p : Progress) : Option Event × Progress :=
  match p.queue with
  | [] => (none, p)
  | e :: rest => (some e, { p with queue := rest })

/-- Takes all events out of the queue. -/
def drain (p : Progress) : List Event × Progress :=
  (p.queue, { p with queue := [] })

end Progress

end Exchange.Client
