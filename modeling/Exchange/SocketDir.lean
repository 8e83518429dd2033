-- SUMMARY: A tree of directories, files, links and sockets, and what binding and connecting to a path find there.
import Exchange.Route.Pattern
import Exchange.Data.Store

/-!
# Socket directories

What stands at a path decides whether a listener can be bound there and whether
a client can connect. A path is walked from the root, one name at a time: every
name but the last must lead to a directory, links on the way are followed, and
`..` leaves the directory that the walk has come to. A link at the very end is
followed only where something is looked for, and not where something is made;
a link itself is no socket.
-/

namespace Exchange

/-- Who is at a socket. -/
inductive Socket where
  /-- Nobody listens any more. -/
  | stale
  /-- Somebody listens who is not known here. -/
  | foreign
  /-- A datagram socket, to which no stream can connect. -/
  | datagram
  | listener (l : Ref .listener)
  deriving DecidableEq, Repr

inductive FileEntry where
  | file
  | dir
  | link (target : String)
  | socket (s : Socket)
  deriving DecidableEq, Repr

/-- What is there, by the names that lead to it from the root. The root itself is always there. -/
abbrev SocketDir := List (List String × FileEntry)

namespace SocketDir

def entry? (d : SocketDir) (names : List String) : Option FileEntry :=
  if names.isEmpty then some .dir else d.lookup names

def isDir (d : SocketDir) (names : List String) : Bool :=
  d.entry? names = some .dir

def insert (d : SocketDir) (names : List String) (e : FileEntry) : SocketDir :=
  (names, e) :: d

/-! ## Walking -/

/-- Where a path leads. -/
inductive Spot where
  /-- Something is there. -/
  | taken (names : List String) (e : FileEntry)
  /-- Nothing is there, but the directory that would hold it is. -/
  | vacant (names : List String)
  | nowhere
  deriving DecidableEq, Repr

/-- The names in a path; an empty one stays where it is, and so does `.`. -/
def names (path : String) : List String :=
  (cutAt '/' path.toList).map String.ofList

/-- The directory from which the target of a link in `here` is walked. -/
def origin (here : List String) (target : String) : List String :=
  if target.toList.head? = some '/' then [] else here

/-- Walks from `here`. `follow` goes on where a link leads, and `last` tells whether a link at the end is followed. -/
def walk (d : SocketDir) (follow : List String → List String → Spot) (last : Bool) :
    (here : List String) → List String → Spot
  | here, [] =>
    match d.entry? here with
    | some e => .taken here e
    | none => .nowhere
  | here, name :: rest =>
    if !d.isDir here then .nowhere
    else if name = "" ∨ name = "." then walk d follow last here rest
    else if name = ".." then walk d follow last here.dropLast rest
    else
      match d.entry? (here ++ [name]) with
      | none => if rest.isEmpty then .vacant (here ++ [name]) else .nowhere
      | some (.link target) =>
        if rest.isEmpty && !last then .taken (here ++ [name]) (.link target)
        else follow (origin here target) (names target ++ rest)
      | some _ => walk d follow last (here ++ [name]) rest

/-- Walks from `here` along at most `n` links. -/
def walkLinks (d : SocketDir) (last : Bool) : (n : Nat) → (here : List String) → List String → Spot
  | 0, here, path => d.walk (fun _ _ => .nowhere) last here path
  | n + 1, here, path => d.walk (walkLinks d last n) last here path

/-- The longest chain of links that is followed. -/
def maxLinks : Nat := 40

/-- A path must not hold the character that ends it. -/
def isSpelled (path : String) : Bool :=
  !path.toList.contains (Char.ofNat 0)

/-- Where a path leads; `last` tells whether a link at the end is followed. -/
def find (d : SocketDir) (last : Bool) (path : String) : Spot :=
  if isSpelled path then d.walkLinks last maxLinks [] (names path) else .nowhere

/-- What stands at a path, links at the end not followed. -/
def look? (d : SocketDir) (path : String) : Option FileEntry :=
  match d.find false path with
  | .taken _ e => some e
  | _ => none

/-- What stands at a path once links are followed. -/
def resolve? (d : SocketDir) (path : String) : Option FileEntry :=
  match d.find true path with
  | .taken _ e => some e
  | _ => none

/-! ## Making and removing -/

/-- Makes something where nothing is as yet. -/
def make? (d : SocketDir) (path : String) (e : FileEntry) : Option SocketDir :=
  match d.find false path with
  | .vacant names => some (d.insert names e)
  | _ => none

/-- Writes a file, also where a link leads. -/
def write? (d : SocketDir) (path : String) : Option SocketDir :=
  match d.find true path with
  | .vacant names => some (d.insert names .file)
  | .taken _ .file => some d
  | _ => none

/-- Makes the directory that `path` names and those above it, as far as they are not there. -/
def makeDirs (d : SocketDir) (path : String) : SocketDir :=
  let names := (names path).filter (· ≠ "")
  (List.range names.length).foldl
    (fun d n => (d.make? (Path.ofSegments (names.take (n + 1))) .dir).getD d) d

def makeDirs? (d : SocketDir) (path : String) : Option SocketDir :=
  let d := d.makeDirs path
  if d.resolve? path = some .dir then some d else none

/-- The directory that a path is in. -/
def parent (path : String) : String :=
  Path.ofSegments (Path.split path).dropLast

/-- Removes the file, link or socket at a path. -/
def unlink (d : SocketDir) (path : String) : SocketDir :=
  match d.find false path with
  | .taken _ .dir => d
  | .taken names _ => d.filter fun p => p.1 ≠ names
  | _ => d

/-! ## Sockets -/

/-- The address of a socket holds a path of fewer bytes than this. -/
def addressSize : Nat := 108

def fitsAddress (path : String) : Bool :=
  path.utf8ByteSize < addressSize

/-- Makes a socket at a path that an address can hold. -/
def makeSocket? (d : SocketDir) (path : String) (s : Socket) : Option SocketDir :=
  if fitsAddress path then d.make? path (.socket s) else none

/-- Places something at a path, as far as what is there allows it. -/
def place? (d : SocketDir) (path : String) : FileEntry → Option SocketDir
  | .file => d.write? path
  | .dir => d.makeDirs? path
  | .link target => d.make? path (.link target)
  | .socket s => d.makeSocket? path s

/-- Why a listener could not be bound. -/
inductive BindError where
  | notSocket
  | inUse
  /-- The socket that is there could not be tried. -/
  | connect
  | bind
  deriving DecidableEq, Repr

/-- Makes the socket of a listener. -/
def bindFresh (d : SocketDir) (path : String) (l : Ref .listener) : Except BindError SocketDir :=
  match d.makeSocket? path (.listener l) with
  | some d => .ok d
  | none => .error .bind

/-- Binds a listener to a path; a socket at which nobody listens is replaced. -/
def bind (d : SocketDir) (path : String) (l : Ref .listener) : Except BindError SocketDir :=
  if (d.resolve? path).isNone then d.bindFresh path l
  else
    match d.look? path with
    | some (.socket s) =>
      if !fitsAddress path || s = .datagram then .error .connect
      else if s = .stale then (d.unlink path).bindFresh path l
      else .error .inUse
    | _ => .error .notSocket

/-- The socket that a stream connects to at a path, if somebody listens there. -/
def connect? (d : SocketDir) (path : String) : Option Socket :=
  if !fitsAddress path then none
  else
    match d.resolve? path with
    | some (.socket .foreign) => some .foreign
    | some (.socket (.listener l)) => some (.listener l)
    | _ => none

end SocketDir

end Exchange
