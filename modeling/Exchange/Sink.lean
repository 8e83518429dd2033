-- SUMMARY: What a handler can do with the writing half of a streamed response, and the answers it gets.
import Exchange.Envelope.Reply

/-!
# Sinks

A streamed response has a writing half, the sink. Each item is one use of it:
most put a frame into the stream and tell whether anybody reads it still.
-/

namespace Exchange.Sink

inductive Item where
  | write (message : Value)
  | writeStatus (status : Status) (message : Value)
  | event (sid : Sid) (topic : String) (message : Value)
  | send (r : Reply)
  /-- Sends a finish frame, which tells nothing. -/
  | finish
  /-- Asks whether the reading half is gone. -/
  | isClosed

/-- What the use of a sink gives back. -/
inductive Answer where
  | flag (b : Bool)
  | finished
  deriving DecidableEq, Repr

/-- The frame that an item puts into the stream. -/
def Item.reply? : Item → Option Reply
  | .write message => some (.response (some message))
  | .writeStatus status message => some { Reply.response (some message) with status := some status }
  | .event sid topic message => some (.event sid topic message)
  | .send r => some r
  | .finish => some .finish
  | .isClosed => none

/-- The answer to an item when the stream is read (`reading`) or is not. -/
def Item.answer (reading : Bool) : Item → Answer
  | .finish => .finished
  | .isClosed => .flag (!reading)
  | _ => .flag reading

def Answer.toValue : Answer → Value
  | .flag b => .bool b
  | .finished => .text "finish"

end Exchange.Sink
