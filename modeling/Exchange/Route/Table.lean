-- SUMMARY: Route tables: what is registered at which pattern, in the order in which it is tried.
import Exchange.Route.Pattern

/-!
# Route tables

A table is a list of groups, one for each pattern and way of matching, and each
with its targets in the order of registration. More specific groups come first:
literal patterns, then patterns with parameters, then wildcards, then mounts;
among these the pattern with more literals, then the longer one; then the older
group. `resolve` gives the candidates for a path in that order.
-/

namespace Exchange

/-- How a pattern is compared with a path. -/
inductive Mount where
  /-- All of the path has to match. -/
  | exact
  /-- The path has to begin with the pattern; the rest is handed on. -/
  | below
  deriving DecidableEq, Repr

/-- What is registered at one pattern in one way. -/
structure Group (τ : Type) where
  pattern : Pattern
  mount : Mount
  targets : List τ

/-- A candidate for a path, with what it sees of the path. -/
structure Link (τ : Type) where
  target : τ
  path : String
  params : Bindings

structure Table (τ : Type) where
  groups : List (Group τ) := []

namespace Group

variable {τ : Type}

/-- The tier of a group: literal, with parameters, with a wildcard, mount. -/
def tier (g : Group τ) : Nat :=
  match g.mount with
  | .below => 3
  | .exact => if g.pattern.hasWildcard then 2 else if g.pattern.hasParameters then 1 else 0

/-- The first group is tried before the second, whichever is older. -/
def precedes (g k : Group τ) : Bool :=
  if g.tier ≠ k.tier then g.tier < k.tier
  else if g.pattern.literalCount ≠ k.pattern.literalCount then
    k.pattern.literalCount < g.pattern.literalCount
  else k.pattern.segments.length < g.pattern.segments.length

/-- The group is for this pattern and this way of matching. -/
def isAt (g : Group τ) (pattern : Pattern) (mount : Mount) : Bool :=
  g.pattern.same pattern && g.mount = mount

/-- What the targets of the group see of a path with the given segments, if it matches. -/
def view? (g : Group τ) (path : String) (segments : List String) : Option (String × Bindings) :=
  match g.mount with
  | .exact => (g.pattern.matchPath segments).map fun params => (path, params)
  | .below => (g.pattern.matchPrefix segments).map fun (params, suffix) => (suffix, params)

def links (g : Group τ) (path : String) (segments : List String) : List (Link τ) :=
  match g.view? path segments with
  | some (seen, params) => g.targets.map fun t => ⟨t, seen, params⟩
  | none => []

end Group

namespace Table

variable {τ : Type}

/-! ## Changing -/

/-- Puts a new group behind all that precede it or are its equals. -/
def place (g : Group τ) : List (Group τ) → List (Group τ)
  | [] => [g]
  | k :: rest => if g.precedes k then g :: k :: rest else k :: place g rest

/-- Adds a target at a pattern; what is there already is not added again. -/
def insert [DecidableEq τ] (t : Table τ) (pattern : Pattern) (mount : Mount) (target : τ) : Table τ :=
  if t.groups.any (·.isAt pattern mount) then
    ⟨t.groups.map fun g =>
      if g.isAt pattern mount ∧ target ∉ g.targets then { g with targets := g.targets ++ [target] }
      else g⟩
  else ⟨place ⟨pattern, mount, [target]⟩ t.groups⟩

/-- A target is registered at a pattern, in whichever way. -/
def holds [DecidableEq τ] (t : Table τ) (pattern : Pattern) (target : τ) : Bool :=
  t.groups.any fun g => g.pattern.same pattern && g.targets.contains target

/-- Takes a target away from a pattern; groups without targets go. -/
def erase [DecidableEq τ] (t : Table τ) (pattern : Pattern) (target : τ) : Table τ :=
  ⟨(t.groups.map fun g =>
      if g.pattern.same pattern then { g with targets := g.targets.filter (· ≠ target) } else g).filter
    fun g => !g.targets.isEmpty⟩

/-! ## Changing by pattern texts -/

/-- Reads a pattern for the given way of matching. -/
def readPattern (mount : Mount) (raw : String) : Except Pattern.Error Pattern :=
  match mount with
  | .exact => Pattern.parse raw
  | .below => Pattern.parsePrefix raw

def register [DecidableEq τ] (t : Table τ) (mount : Mount) (raw : String) (target : τ) :
    Except Pattern.Error (Table τ) :=
  (readPattern mount raw).map fun p => t.insert p mount target

/-- Takes a target away from the pattern that a text spells; tells whether it was there. -/
def unregister [DecidableEq τ] (t : Table τ) (raw : String) (target : τ) : Table τ × Bool :=
  match Pattern.parse raw with
  | .ok p => if t.holds p target then (t.erase p target, true) else (t, false)
  | .error _ => (t, false)

/-! ## Asking -/

/-- The candidates for a path, in the order in which they are tried. -/
def resolve (t : Table τ) (path : String) : List (Link τ) :=
  let segments := Path.split path
  t.groups.flatMap fun g => g.links path segments

/-- The number of registrations. -/
def count (t : Table τ) : Nat :=
  (t.groups.flatMap fun g => g.targets).length

def has (t : Table τ) (raw : String) : Bool :=
  match Pattern.parse raw with
  | .ok p => t.groups.any fun g => g.pattern.same p
  | .error _ => false

end Table

end Exchange
