-- SUMMARY: Channels, scopes, subscriptions, services and plugins, and the operations that join them.
import Exchange.Hub.Channel
import Exchange.Hub.Journal
import Exchange.Hub.Scope
import Exchange.Hub.Manager
import Exchange.Hub.Service
import Exchange.Hub.Plugin
import Exchange.Hub.Stream
import Exchange.Sink

/-!
# The hub

A `Hub` holds all that handlers share. Its operations keep the parts in step: a
record leaves the table together with its entry in the scope that owns it, its
cleanup runs, and the stream that it feeds loses its sink. The small operations
`takeRecord`, `track?`, `takeScope` and `runRelease` are atomic; `subscribe`
and `closeScope` are made of them.
-/

namespace Exchange

structure Hub where
  channels : Store .channel (Channel Reply) := {}
  scopes : Store .scope Scope := {}
  managers : Store .manager Manager := {}
  services : Store .service Service := {}
  plugins : Store .plugin Plugin := {}
  journal : Journal := []

namespace Hub

def note (h : Hub) (e : Journal.Entry) : Hub :=
  { h with journal := h.journal ++ [e] }

/-! ## Sinks -/

/-- Opens a channel with one sink. -/
def openChannel (h : Hub) : Hub × Ref .channel :=
  ({ h with channels := h.channels.push { writers := 1 } }, h.channels.next)

/-- Whether the reading half of a sink's channel is there. -/
def isRead (h : Hub) (sink : Ref .channel) : Bool :=
  match h.channels.get? sink with
  | some c => c.reading
  | none => false

def send (h : Hub) (sink : Ref .channel) (r : Reply) : Hub × Bool :=
  match h.channels.get? sink with
  | some c =>
    let (c, sent) := c.send r
    ({ h with channels := h.channels.set sink c }, sent)
  | none => (h, false)

def dropSink (h : Hub) (sink : Ref .channel) : Hub :=
  { h with channels := h.channels.modify sink Channel.leave }

/-- Uses a sink once. -/
def use (h : Hub) (sink : Ref .channel) (item : Sink.Item) : Hub × Sink.Answer :=
  match item.reply? with
  | some r =>
    let (h, sent) := h.send sink r
    (h, item.answer sent)
  | none => (h, item.answer (h.isRead sink))

/-- Uses a sink item by item. -/
def useAll (h : Hub) (sink : Ref .channel) : List Sink.Item → Hub × List Sink.Answer
  | [] => (h, [])
  | item :: rest =>
    let (h, answer) := h.use sink item
    let (h, answers) := h.useAll sink rest
    (h, answer :: answers)

/-! ## Streams -/

def revisePlugin (h : Hub) (p : Ref .plugin) (f : Plugin → Plugin) : Hub :=
  { h with plugins := h.plugins.modify p f }

/-- Drops a stream, and with it the guards around it. -/
def dropStream (h : Hub) : Stream → Hub
  | .ended => h
  | .channel c => { h with channels := h.channels.modify c Channel.close }
  | .mapped _ s => h.dropStream s
  | .counted p s => (h.dropStream s).revisePlugin p Plugin.finish

/-- Reads the next frame of a stream; a guard goes when the stream inside it is over. -/
def pull (h : Hub) : Stream → Hub × Stream × Pull Reply
  | .ended => (h, .ended, .finished)
  | .channel c =>
    match h.channels.get? c with
    | some channel =>
      let (channel, found) := channel.pull
      ({ h with channels := h.channels.set c channel }, .channel c, found)
    | none => (h, .ended, .finished)
  | .mapped f s =>
    match h.pull s with
    | (h, s, .item r) => (h, .mapped f s, .item (f r))
    | (h, s, .finished) => (h, .mapped f s, .finished)
    | (h, s, .pending) => (h, .mapped f s, .pending)
  | .counted p s =>
    match h.pull s with
    | (h, s, .finished) => ((h.dropStream s).revisePlugin p Plugin.finish, .ended, .finished)
    | (h, s, found) => (h, .counted p s, found)

/-- Reading the stream would not have to wait. -/
def isReady (h : Hub) : Stream → Bool
  | .ended => true
  | .channel c =>
    match h.channels.get? c with
    | some channel => channel.isReady
    | none => true
  | .mapped _ s | .counted _ s => h.isReady s

def dropBody (h : Hub) : Body Stream → Hub
  | .stream s => h.dropStream s
  | _ => h

/-- Puts a body into a slot; a stream that was there is dropped. -/
def setBody (h : Hub) (slot : Slot) (body : Body Stream) : Hub × Slot :=
  (h.dropBody slot.body, { slot with body })

/-- Makes the response a stream and gives its sink. -/
def openStream (h : Hub) (slot : Slot) : Hub × Slot × Ref .channel :=
  let (h, c) := h.openChannel
  let (h, slot) := h.setBody slot (.stream (.channel c))
  (h, slot, c)

/-! ## Leaving the table -/

/-- Stops production for a topic. -/
def deactivate (h : Hub) (service : Ref .service) (s : Service) (topic : String) : Hub :=
  match s.producer with
  | .clock =>
    let s := { s with due := s.due.filter (· ≠ topic) }
    { h with services := h.services.set service s }
  | .herald _ => h.note (.deactivated s.name topic)

/-- Counts a service's subscriber out, and stops production after the last. -/
def leaveService (h : Hub) (service : Ref .service) (topic : String) : Hub :=
  match h.services.get? service with
  | none => h
  | some s =>
    let (s, last) := s.leave topic
    let h := { h with services := h.services.set service s }
    if last then h.deactivate service s topic else h

def runCleanup (h : Hub) : Option Cleanup → Hub
  | none => h
  | some (.report label) => h.note (.cleaned label)
  | some (.leave service topic) => h.leaveService service topic

/-- Takes the record of a sid out of the table, if it is of the topic, where one is given. -/
def takeRecord (h : Hub) (manager : Ref .manager) (sid : Sid) (topic : Option String) :
    Hub × Option Record :=
  match (h.managers.get? manager).bind (·.select? sid topic) with
  | some r => ({ h with managers := h.managers.modify manager (·.erase sid) }, some r)
  | none => (h, none)

def untrack (h : Hub) (scope : Ref .scope) (sid : Sid) : Hub × Bool :=
  match h.scopes.get? scope with
  | some s =>
    let (s, tracked) := s.untrack sid
    ({ h with scopes := h.scopes.set scope s }, tracked)
  | none => (h, false)

/-- Ends the stream of a record that has left the table, and cleans up. -/
def retire (h : Hub) (r : Record) : Hub :=
  (h.runCleanup r.cleanup).dropSink r.sink

/-- Removes a subscription, if it is of the topic, where one is given; tells whether there was one. -/
def remove (h : Hub) (manager : Ref .manager) (sid : Sid) (topic : Option String) : Hub × Bool :=
  match h.takeRecord manager sid topic with
  | (h, some r) => (((h.untrack r.scope sid).1).retire r, true)
  | (h, none) => (h, false)

/-- Ends a subscription from the producing side. -/
def finish (h : Hub) (manager : Ref .manager) (sid : Sid) : Hub × Except Failure Unit :=
  match h.remove manager sid none with
  | (h, true) => (h, .ok ())
  | (h, false) => (h, .error (.noSubscription sid))

/-- Removes a subscription whether there is one or not, and answers the request with that. -/
def unsubscribe (h : Hub) (slot : Slot) (manager : Ref .manager) (sid : Sid)
    (topic : Option String) : Hub × Slot × Bool :=
  let (h, removed) := h.remove manager sid topic
  let slot := { slot with status := some .ok, statusCode := some Status.unsubscribedCode }
  let (h, slot) := h.setBody slot (.message (.text "Unsubscribed"))
  (h, slot, removed)

/-! ## Scopes -/

def openScope (h : Hub) : Hub × Ref .scope :=
  ({ h with scopes := h.scopes.push {} }, h.scopes.next)

def isClosed (h : Hub) (scope : Ref .scope) : Bool :=
  match h.scopes.get? scope with
  | some s => s.isClosed
  | none => true

/-- Tracks a sid, unless the scope is closed. -/
def track? (h : Hub) (scope : Ref .scope) (sid : Sid) (release : Release) : Option Hub :=
  ((h.scopes.get? scope).bind (·.track? sid release)).map fun s =>
    { h with scopes := h.scopes.set scope s }

/-- Closes a scope and takes what it tracked. -/
def takeScope (h : Hub) (scope : Ref .scope) : Hub × List (Sid × Release) :=
  match h.scopes.get? scope with
  | some s =>
    let (s, owned) := s.close
    ({ h with scopes := h.scopes.set scope s }, owned)
  | none => (h, [])

def runRelease (h : Hub) (sid : Sid) : Release → Hub
  | .report text => h.note (.released text)
  | .forget manager =>
    match h.takeRecord manager sid none with
    | (h, some r) => h.retire r
    | (h, none) => h

/-- Closes a scope and runs what it tracked; tells how much that was. -/
def closeScope (h : Hub) (scope : Ref .scope) : Hub × Nat :=
  let mark := h.journal.length
  let (h, owned) := h.takeScope scope
  let h := owned.foldl (fun h p => h.runRelease p.1 p.2) h
  ({ h with journal := h.journal.sortFrom mark }, owned.length)

/-! ## Publishing -/

/-- Sends an event to one subscriber, who is removed if the stream is gone. -/
def deliver (manager : Ref .manager) (topic : String) (message : Value) (acc : Hub × Nat)
    (r : Record) : Hub × Nat :=
  match acc.1.send r.sink (.event r.sid topic message) with
  | (h, true) => (h, acc.2 + 1)
  | (h, false) => ((h.remove manager r.sid none).1, acc.2)

def subscribers (h : Hub) (manager : Ref .manager) (topic : String) : List Record :=
  match h.managers.get? manager with
  | some m => m.onTopic topic
  | none => []

/-- Sends an event to the subscribers of a topic, oldest first; tells how many received it. -/
def publish (h : Hub) (manager : Ref .manager) (topic : String) (message : Value) : Hub × Nat :=
  (h.subscribers manager topic).foldl (deliver manager topic message) (h, 0)

/-! ## Subscribing -/

/-- The failure of a subscription whose scope is closed. -/
def sessionClosed : Failure :=
  .transport "Session closed"

/-- Makes the response a stream that a subscription feeds. The frame that tells of the
subscription comes before the record is in the table, and thus before any event. -/
def subscribe (h : Hub) (slot : Slot) (scope : Ref .scope) (manager : Ref .manager)
    (topic : String) (cleanup : Option Cleanup) : Hub × Slot × Except Failure Sid :=
  match h.managers.get? manager with
  | none => (h, slot, .error sessionClosed)
  | some m =>
    let (m, n) := m.issue
    let sid := Sid.nth manager.index n
    let (h, slot, sink) := h.openStream slot
    let (h, _) := h.send sink (.subscribed sid topic)
    let h := { h with managers := h.managers.set manager (m.insert { sid, topic, sink, scope, cleanup }) }
    match h.track? scope sid (.forget manager) with
    | some h => (h, slot, .ok sid)
    | none => (((h.takeRecord manager sid none).1).dropSink sink, slot, .error sessionClosed)

/-- Starts production for a topic, to whose subscribers the newest does not belong as yet. -/
def activate (h : Hub) (service : Ref .service) (s : Service) (topic : String) : Hub :=
  let count := (h.subscribers s.manager topic).length
  let s := { s with published := topic :: s.published }
  match s.producer with
  | .clock =>
    let s := { s with due := s.due ++ [topic] }
    { h with services := h.services.set service s }
  | .herald announcement =>
    let h := { h with services := h.services.set service s }.note (.activated s.name topic count)
    match announcement with
    | none => h
    | some v =>
      let (h, n) := h.publish s.manager topic v
      h.note (.announced n)

/-- Counts a service's subscriber in, and starts production for the first. -/
def enterService (h : Hub) (service : Ref .service) (topic : String) : Hub :=
  match h.services.get? service with
  | none => h
  | some s =>
    let (s, first) := s.enter topic
    let h := { h with services := h.services.set service s }
    if first then h.activate service s topic else h

end Hub

end Exchange
