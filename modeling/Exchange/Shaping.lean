-- SUMMARY: What a dispatched request results in, and the response frames that this result becomes.
import Exchange.Failure

/-!
# Shaping results

A handler chain settles with a failure or an outcome. `Result.frames` turns
either into the frames that the caller receives: one error frame; a response
and a finish frame; or the frames of a stream, each with a status, up to the
first that ends the request. `Latch` carries from frame to frame the status
that frames without one are given.
-/

namespace Exchange

/-- What a handler chain produced; `σ` is the type of streams of frames. -/
inductive Body (σ : Type) where
  | empty
  | message (v : Value)
  | stream (s : σ)

structure Outcome (σ : Type) where
  status : Status
  statusCode : Option String := none
  body : Body σ

/-- The result of a dispatched request. -/
abbrev Result (σ : Type) := Except Failure (Outcome σ)

/-! ## Statuses -/

/-- The status that the first frame of a request fixes, and what it is if that frame has none. -/
structure Latch where
  fixed : Option Status := none
  fallback : Status

namespace Latch

/-- The status given to frames without one. -/
def status (l : Latch) : Status :=
  l.fixed.getD l.fallback

/-- Gives a frame a status, and fixes it if the frame is the first. -/
def stamp (l : Latch) (r : Reply) : Latch × Reply :=
  match r.status with
  | some s => ({ l with fixed := some (l.fixed.getD s) }, r)
  | none => ({ l with fixed := some l.status }, { r with status := some l.status })

end Latch

/-- Makes a frame the error frame that ends its request. -/
def Reply.toError (r : Reply) : Reply :=
  { r with
    kind := some .error, fin := true
    statusCode := some (r.statusCode.getD r.effectiveStatus.text) }

/-! ## Frames of a stream -/

/-- A shaped frame, and what follows it. -/
inductive Shaped where
  /-- The stream goes on. -/
  | more (r : Reply)
  /-- A finish frame follows, whatever else the stream holds. -/
  | closing (r : Reply)
  /-- Nothing follows. -/
  | last (r : Reply)

namespace Latch

/-- Shapes the next frame of a stream. -/
def shape (l : Latch) (r : Reply) : Latch × Shaped :=
  let (l, r) := l.stamp r
  if r.effectiveStatus.isError then (l, .last r.toError)
  else if r.isFinish then (l, .last { r with fin := true })
  else
    let shaped := { r with fin := false, kind := some (r.kind.getD .response) }
    if r.fin then (l, .closing shaped) else (l, .more shaped)

/-- The finish frame that ends a stream. -/
def finish (l : Latch) : Reply :=
  (l.stamp .finish).2

/-- The shaped frames of a stream that holds `frames` and then ends. -/
def frames (l : Latch) : List Reply → List Reply
  | [] => [l.finish]
  | r :: rest =>
    match l.shape r with
    | (_, .last r) => [r]
    | (l, .closing r) => [r, l.finish]
    | (l, .more r) => r :: l.frames rest

end Latch

/-! ## Frames of a result -/

/-- The frames of an outcome that is no stream. -/
def Outcome.single (status : Status) (statusCode : Option String) (message : Option Value) :
    List Reply :=
  let (l, r) := (Latch.mk none status).stamp (.response message)
  let r := { r with statusCode }
  if r.effectiveStatus.isError then [r.toError] else [r, l.finish]

/-- The frames of a result whose stream, if it has one, holds a list of frames and then ends. -/
def Result.frames : Result (List Reply) → List Reply
  | .error f => [f.toReply]
  | .ok o =>
    match o.body with
    | .empty => Outcome.single o.status o.statusCode none
    | .message v => Outcome.single o.status o.statusCode (some v)
    | .stream rs => (Latch.mk none o.status).frames rs

end Exchange
