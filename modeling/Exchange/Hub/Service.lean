-- SUMMARY: Services: how many subscribers each topic has, and when production starts and stops.
import Exchange.Data.Store
import Exchange.Data.Value

/-!
# Services

A service produces for a topic as long as somebody subscribes to it through
the service. `enter` and `leave` count the subscribers of a topic and tell when
the first has come and the last has gone.
-/

namespace Exchange

/-- What a service does for a topic that it produces for. -/
inductive Service.Producer where
  /-- Tells the journal when it starts and stops, and publishes a message at the start, if there is one. -/
  | herald (announcement : Option Value)
  /-- Publishes the time, at once and then every second. -/
  | clock

structure Service where
  name : String
  /-- Where the service's subscriptions are recorded. -/
  manager : Ref .manager
  /-- The field of the request data that names the topic; without one the path is the topic. -/
  param : Option String := none
  producer : Service.Producer := .herald none
  /-- The topics with subscribers, and how many each has. -/
  active : List (String × Nat) := []
  /-- The topics that have had a producer. -/
  published : List String := []
  /-- The topics on which the clock has an event to publish. -/
  due : List String := []

namespace Service

def isClock (s : Service) : Bool :=
  match s.producer with
  | .clock => true
  | .herald _ => false

def countOf (s : Service) (topic : String) : Nat :=
  (Members.get? topic s.active).getD 0

/-- Counts one more subscriber; tells whether it is the first. -/
def enter (s : Service) (topic : String) : Service × Bool :=
  let count := s.countOf topic + 1
  ({ s with active := Members.insert topic count s.active }, count = 1)

/-- Counts one subscriber less; tells whether it was the last. -/
def leave (s : Service) (topic : String) : Service × Bool :=
  match Members.get? topic s.active with
  | none => (s, false)
  | some count =>
    if count ≤ 1 then ({ s with active := Members.erase topic s.active }, true)
    else ({ s with active := Members.insert topic (count - 1) s.active }, false)

/-- How many topics have subscribers. -/
def activeTopics (s : Service) : Nat :=
  s.active.length

end Service

end Exchange
