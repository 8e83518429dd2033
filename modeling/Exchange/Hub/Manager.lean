-- SUMMARY: The table of open subscriptions, in the order in which they were opened.
import Exchange.Data.Store
import Exchange.Ident

/-!
# Subscription tables

A manager holds one record for each open subscription, oldest first, and counts
the sids it has issued. It only keeps the table; what follows from putting in
and taking out is done by the hub.
-/

namespace Exchange

/-- What is done when a subscription leaves the table. -/
inductive Cleanup where
  /-- The journal is told. -/
  | report (label : String)
  /-- The service loses a subscriber of the topic. -/
  | leave (service : Ref .service) (topic : String)
  deriving DecidableEq, Repr

/-- One open subscription. -/
structure Record where
  sid : Sid
  topic : String
  /-- The sink of the response stream that the subscription feeds. -/
  sink : Ref .channel
  /-- The scope that owns the subscription. -/
  scope : Ref .scope
  cleanup : Option Cleanup := none
  deriving DecidableEq, Repr

structure Manager where
  records : List Record := []
  issued : Nat := 0

namespace Manager

/-- Counts one more sid; the `n`th is `Sid.nth manager n`. -/
def issue (m : Manager) : Manager × Nat :=
  ({ m with issued := m.issued + 1 }, m.issued + 1)

def insert (m : Manager) (r : Record) : Manager :=
  { m with records := m.records ++ [r] }

def find? (m : Manager) (sid : Sid) : Option Record :=
  m.records.find? fun r => r.sid = sid

/-- The record that a sid names, if it is of the topic, where one is given. -/
def select? (m : Manager) (sid : Sid) (topic : Option String) : Option Record :=
  (m.find? sid).filter fun r => topic.all (r.topic = ·)

def erase (m : Manager) (sid : Sid) : Manager :=
  { m with records := m.records.filter fun r => r.sid ≠ sid }

/-- The records of a topic, oldest first. -/
def onTopic (m : Manager) (topic : String) : List Record :=
  m.records.filter fun r => r.topic = topic

def count (m : Manager) (topic : String) : Nat :=
  (m.onTopic topic).length

def size (m : Manager) : Nat :=
  m.records.length

def contains (m : Manager) (sid : Sid) : Bool :=
  (m.find? sid).isSome

def topicOf? (m : Manager) (sid : Sid) : Option String :=
  (m.find? sid).map (·.topic)

end Manager

end Exchange
