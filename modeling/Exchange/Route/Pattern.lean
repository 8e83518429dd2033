-- SUMMARY: Route patterns: their grammar, the error of a text outside it, and matching against paths.
import Exchange.Data.Cut
import Exchange.Data.Value

/-!
# Route patterns

A path is the list of its non-empty segments. A pattern is a list of segments
too: literals, parameters (`:name`), and a wildcard (`*`) that may only come
last. `Pattern.parse` reads a pattern; `Pattern.matchPath` compares all of a
path with it, `Pattern.matchPrefix` its leading segments.
-/

namespace Exchange

/-! ## Paths -/

namespace Path

/-- The non-empty segments of a path. -/
def split (path : String) : List String :=
  ((cutAt '/' path.toList).filter fun part => !part.isEmpty).map String.ofList

def join (segments : List String) : String :=
  String.intercalate "/" segments

/-- The path with the given segments. -/
def ofSegments (segments : List String) : String :=
  "/" ++ join segments

end Path

/-! ## Patterns -/

inductive Segment where
  | literal (text : String)
  | parameter (name : String)
  | wildcard
  deriving DecidableEq, Repr

/-- A pattern as it was written, and its segments. -/
structure Pattern where
  raw : String
  segments : List Segment
  deriving DecidableEq, Repr

/-- Why a text is no pattern. -/
inductive Pattern.Error where
  | missingLeadingSlash (pattern : String)
  | emptyParameter (pattern : String)
  | duplicateParameter (pattern name : String)
  | wildcardNotLast (pattern : String)
  | wildcardInMount (pattern : String)
  deriving DecidableEq, Repr

def Pattern.Error.message : Pattern.Error → String
  | .missingLeadingSlash p => "pattern '" ++ p ++ "' must start with '/'"
  | .emptyParameter p => "pattern '" ++ p ++ "' has a parameter without a name"
  | .duplicateParameter p n => "pattern '" ++ p ++ "' declares parameter '" ++ n ++ "' more than once"
  | .wildcardNotLast p => "pattern '" ++ p ++ "' has a wildcard that is not the last segment"
  | .wildcardInMount p => "mount prefix '" ++ p ++ "' cannot contain a wildcard"

/-- Parameters by name; a wildcard's capture is found under `wildcardName`. -/
abbrev Bindings := List (String × String)

namespace Pattern

/-- The name under which the capture of a wildcard is stored. -/
def wildcardName : String := "*"

/-- The name that a part beginning with a colon declares. -/
def declared? (part : String) : Option String :=
  match part.toList with
  | ':' :: name => some (String.ofList name)
  | _ => none

/-- Reads the parts of `raw`; `names` are the parameters declared before. -/
def parseParts (raw : String) (names : List String) : List String → Except Error (List Segment)
  | [] => .ok []
  | part :: rest =>
    if part = wildcardName then
      if rest.isEmpty then .ok [.wildcard] else .error (.wildcardNotLast raw)
    else
      match declared? part with
      | some name =>
        if name.isEmpty then .error (.emptyParameter raw)
        else if name ∈ names then .error (.duplicateParameter raw name)
        else (parseParts raw (name :: names) rest).map (.parameter name :: ·)
      | none => (parseParts raw names rest).map (.literal part :: ·)

/-- Reads a pattern. -/
def parse (raw : String) : Except Error Pattern :=
  match raw.toList with
  | '/' :: _ => (parseParts raw [] (Path.split raw)).map (⟨raw, ·⟩)
  | _ => .error (.missingLeadingSlash raw)

def hasWildcard (p : Pattern) : Bool :=
  p.segments.getLast? = some .wildcard

/-- Reads a pattern to mount at, which has no wildcard. -/
def parsePrefix (raw : String) : Except Error Pattern := do
  let p ← parse raw
  if p.hasWildcard then .error (.wildcardInMount raw) else .ok p

def hasParameters (p : Pattern) : Bool :=
  p.segments.any fun
    | .parameter _ => true
    | _ => false

def literalCount (p : Pattern) : Nat :=
  p.segments.countP fun
    | .literal _ => true
    | _ => false

/-- Two patterns are the same when their segments are. -/
def same (p q : Pattern) : Bool :=
  p.segments = q.segments

/-! ## Matching -/

/-- Adds what `segments` capture of `path` to `bindings`, if all of `path` matches. -/
def capture : (segments : List Segment) → (path : List String) → Bindings → Option Bindings
  | [], [], bindings => some bindings
  | [], _ :: _, _ => none
  | .literal text :: rest, part :: path, bindings =>
    if part = text then capture rest path bindings else none
  | .parameter name :: rest, part :: path, bindings =>
    capture rest path (Members.insert name part bindings)
  | .wildcard :: _, path, bindings =>
    some (Members.insert wildcardName (Path.join path) bindings)
  | _ :: _, [], _ => none

/-- What the pattern captures of a path that it matches as a whole. -/
def matchPath (p : Pattern) (path : List String) : Option Bindings :=
  capture p.segments path []

/-- What the pattern captures of the leading segments, and the path that remains. -/
def matchPrefix (p : Pattern) (path : List String) : Option (Bindings × String) :=
  let n := p.segments.length
  if path.length < n then none
  else (p.matchPath (path.take n)).map (·, Path.ofSegments (path.drop n))

end Pattern

end Exchange
