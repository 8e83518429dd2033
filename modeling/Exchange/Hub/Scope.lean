-- SUMMARY: Scopes: what one session or client owns, and what is to be done when it goes away.
import Exchange.Data.Store
import Exchange.Ident

/-!
# Scopes

A scope tracks sids, each with a release. Closing hands out all releases once
and for all; a closed scope tracks nothing any more.
-/

namespace Exchange

/-- What is done for a tracked sid when its scope closes. -/
inductive Release where
  /-- The subscription is removed from its manager. -/
  | forget (manager : Ref .manager)
  /-- The journal is told. -/
  | report (text : String)
  deriving DecidableEq, Repr

structure Scope where
  /-- The tracked sids, or nothing once the scope is closed. -/
  owned : Option (List (Sid × Release)) := some []

namespace Scope

def isClosed (s : Scope) : Bool :=
  s.owned.isNone

def tracked (s : Scope) : List (Sid × Release) :=
  s.owned.getD []

def size (s : Scope) : Nat :=
  s.tracked.length

/-- Puts a release under a sid, in the place of the one that was there. -/
def put (sid : Sid) (release : Release) : List (Sid × Release) → List (Sid × Release)
  | [] => [(sid, release)]
  | (s, r) :: rest => if s = sid then (sid, release) :: rest else (s, r) :: put sid release rest

/-- Tracks a sid, if the scope is open. -/
def track? (s : Scope) (sid : Sid) (release : Release) : Option Scope :=
  s.owned.map fun owned => ⟨some (put sid release owned)⟩

/-- Forgets a sid without its release; tells whether it was tracked. -/
def untrack (s : Scope) (sid : Sid) : Scope × Bool :=
  (⟨s.owned.map fun owned => owned.filter fun p => p.1 ≠ sid⟩, s.tracked.any fun p => p.1 = sid)

/-- Closes the scope and hands out what it tracked. -/
def close (s : Scope) : Scope × List (Sid × Release) :=
  (⟨none⟩, s.tracked)

/-- How the attempt to track a sid in a closed scope fails. -/
def closedMessage : String :=
  "the owning session is already closed"

end Scope

end Exchange
