-- SUMMARY: Reading halves of streamed responses, and the slot that holds what a chain has produced so far.
import Exchange.Data.Store
import Exchange.Shaping

/-!
# Streams of frames

A stream is read from a channel, through functions that change each frame and
guards that count a plugin's request until the stream has ended or is dropped.
The slot of a request holds status, status code and body until the request is
settled.
-/

namespace Exchange

inductive Stream where
  /-- Nothing comes any more. -/
  | ended
  | channel (c : Ref .channel)
  /-- Each frame is changed by a function. -/
  | mapped (f : Reply → Reply) (s : Stream)
  /-- A request of the plugin is active as long as the stream is. -/
  | counted (plugin : Ref .plugin) (s : Stream)

/-- What the handlers of a request have produced so far. -/
structure Slot where
  status : Option Status := none
  statusCode : Option String := none
  body : Body Stream := .empty

namespace Slot

def hasBody (s : Slot) : Bool :=
  match s.body with
  | .empty => false
  | _ => true

/-- The status of a settled request: 200 unless one was set, and 500 in the place of zero. -/
def settledStatus (s : Slot) : Status :=
  match s.status with
  | none => .ok
  | some status => if status.code = 0 then .internalError else status

def outcome (s : Slot) : Outcome Stream :=
  { status := s.settledStatus, statusCode := s.statusCode, body := s.body }

end Slot

end Exchange
