-- SUMMARY: The connections that are being served, and the scopes that they own.
import Exchange.Hub

/-!
# Connections

Each accepted connection has an id and a scope. Taking all connections down
closes all their scopes.
-/

namespace Exchange

structure Connection where
  id : ConnectionId
  /-- Who is at the other end. -/
  peer : String
  scope : Ref .scope
  deriving DecidableEq, Repr

structure Connections where
  entries : List Connection := []
  issued : Nat := 0

namespace Connections

/-- Adds a connection under an id that is its own. -/
def create (c : Connections) (peer : String) (scope : Ref .scope) : Connections × ConnectionId :=
  let id := ConnectionId.nth (c.issued + 1)
  (⟨c.entries ++ [⟨id, peer, scope⟩], c.issued + 1⟩, id)

def find? (c : Connections) (id : ConnectionId) : Option Connection :=
  c.entries.find? fun e => e.id = id

def remove (c : Connections) (id : ConnectionId) : Connections :=
  { c with entries := c.entries.filter fun e => e.id ≠ id }

def count (c : Connections) : Nat :=
  c.entries.length

/-- How the removal of a connection that is not there fails. -/
def notFoundMessage (id : ConnectionId) : String :=
  "no active session " ++ id.text

end Connections

/-- Closes scopes one after another; tells how many sids they tracked. -/
def Hub.closeScopes (h : Hub) (scopes : List (Ref .scope)) : Hub × Nat :=
  scopes.foldl (fun acc scope =>
    let (h, n) := acc.1.closeScope scope
    (h, acc.2 + n)) (h, 0)

namespace Connections

/-- Takes all connections down; tells how many subscriptions that released. -/
def closeAll (c : Connections) (h : Hub) : Connections × Hub × Nat :=
  let mark := h.journal.length
  let (h, n) := h.closeScopes (c.entries.map (·.scope))
  ({ c with entries := [] }, { h with journal := h.journal.sortFrom mark }, n)

end Connections

end Exchange
