-- SUMMARY: The frames of a settled request as they become ready.
import Exchange.Hub

/-!
# Feeds

A feed gives the frames of a result one at a time. For a list of frames that
ends it gives what `Result.frames` lists; where a stream makes it wait, the
feed waits with it.
-/

namespace Exchange

inductive Feed where
  /-- All that is left is known. -/
  | rest (frames : List Reply)
  | flow (latch : Latch) (s : Stream)

namespace Feed

def ofResult : Result Stream → Feed
  | .error f => .rest [f.toReply]
  | .ok o =>
    match o.body with
    | .empty => .rest (Outcome.single o.status o.statusCode none)
    | .message v => .rest (Outcome.single o.status o.statusCode (some v))
    | .stream s => .flow ⟨none, o.status⟩ s

/-- Takes the next frame; the stream is dropped with the last frame that it gives. -/
def pull (h : Hub) : Feed → Hub × Feed × Pull Reply
  | .rest [] => (h, .rest [], .finished)
  | .rest (r :: frames) => (h, .rest frames, .item r)
  | .flow latch s =>
    match h.pull s with
    | (h, s, .pending) => (h, .flow latch s, .pending)
    | (h, s, .finished) => (h.dropStream s, .rest [], .item latch.finish)
    | (h, s, .item r) =>
      match latch.shape r with
      | (latch, .more r) => (h, .flow latch s, .item r)
      | (latch, .closing r) => (h.dropStream s, .rest [latch.finish], .item r)
      | (_, .last r) => (h.dropStream s, .rest [], .item r)

/-- Taking the next frame would not have to wait. -/
def isReady (h : Hub) : Feed → Bool
  | .rest _ => true
  | .flow _ s => h.isReady s

def drop (h : Hub) : Feed → Hub
  | .rest _ => h
  | .flow _ s => h.dropStream s

end Feed

end Exchange
