-- SUMMARY: Unbounded channels between those who write and one who reads.

/-!
# Channels

What is sent waits in a queue until it is read. Sending fails once the reading
half is gone. A channel is over when nothing waits and no writer is left.
-/

namespace Exchange

structure Channel (α : Type) where
  queue : List α := []
  writers : Nat := 0
  reading : Bool := true

/-- What reading finds: an item, the end, or nothing as yet. -/
inductive Pull (α : Type) where
  | item (a : α)
  | finished
  | pending
  deriving Repr

namespace Channel

variable {α : Type}

/-- Queues an item; tells whether the reading half is there to receive it. -/
def send (c : Channel α) (a : α) : Channel α × Bool :=
  if c.reading then ({ c with queue := c.queue ++ [a] }, true) else (c, false)

/-- Takes the oldest item. -/
def pull (c : Channel α) : Channel α × Pull α :=
  match c.queue with
  | a :: rest => ({ c with queue := rest }, .item a)
  | [] => (c, if c.writers = 0 then .finished else .pending)

/-- Reading would not have to wait. -/
def isReady (c : Channel α) : Bool :=
  !c.queue.isEmpty || c.writers = 0

/-- Adds a writing half. -/
def join (c : Channel α) : Channel α :=
  { c with writers := c.writers + 1 }

/-- Drops a writing half. -/
def leave (c : Channel α) : Channel α :=
  { c with writers := c.writers - 1 }

/-- Drops the reading half, and with it all that waits. -/
def close (c : Channel α) : Channel α :=
  { c with queue := [], reading := false }

end Channel

end Exchange
