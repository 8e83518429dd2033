-- SUMMARY: Socket endpoints: their reading from URLs, their text, and the endpoint of the environment.
import Exchange.Url.Parse

/-!
# Endpoints

Where a daemon listens and a client connects: a path of a Unix socket, or a
host and a port. Endpoints are written as URLs of the schemes `unix` and `tcp`.
-/

namespace Exchange

inductive Endpoint where
  | unix (path : String)
  | tcp (host : String) (port : UInt16)
  deriving DecidableEq, Repr

namespace Endpoint

/-- Why a text is no endpoint. -/
inductive Error where
  | parse (input : String)
  | unsupportedScheme (scheme : String)
  | missingHostOrPort (input : String)
  | missingPath (input : String)
  deriving DecidableEq, Repr

def Error.message : Error → String
  | .parse input => "invalid endpoint url '" ++ input ++ "'"
  | .unsupportedScheme scheme =>
    "unsupported endpoint scheme '" ++ scheme ++ "' (expected unix or tcp)"
  | .missingHostOrPort input => "tcp endpoint '" ++ input ++ "' needs a host and a port"
  | .missingPath input => "unix endpoint '" ++ input ++ "' needs a socket path"

/-- The host of an endpoint, addresses without brackets. -/
def hostText : Url.Host → String
  | .name text => String.ofList text
  | .address pieces => String.ofList (Url.addressText pieces)

/-- The endpoint that a URL names. -/
def ofUrl (input : String) (url : Url) : Except Error Endpoint :=
  if url.scheme = "unix" then
    if url.path.isEmpty ∨ url.path = ['/'] then .error (.missingPath input)
    else .ok (.unix (String.ofList url.path))
  else if url.scheme = "tcp" then
    match url.host, url.port with
    | some host, some port => .ok (.tcp (hostText host) (UInt16.ofNat port))
    | _, _ => .error (.missingHostOrPort input)
  else .error (.unsupportedScheme url.scheme)

/-- Reads an endpoint. -/
def parse (input : String) : Except Error Endpoint :=
  match Url.parse? input with
  | some url => ofUrl input url
  | none => .error (.parse input)

/-- The URL of an endpoint; hosts with a colon stand in brackets. -/
def text : Endpoint → String
  | .unix path => "unix://" ++ path
  | .tcp host port =>
    if host.toList.contains ':' then "tcp://[" ++ host ++ "]:" ++ toString port.toNat
    else "tcp://" ++ host ++ ":" ++ toString port.toNat

/-- The variable of the environment that names the endpoint. -/
def variableName : String := "SWITCHBOARD_ENDPOINT"

/-- The endpoint where the variable is not set. -/
def standard : String := "unix:///tmp/switchboard.sock"

/-- The endpoint that the variable of the environment names, if it is set. -/
def ofVariable (value : Option String) : Except Error Endpoint :=
  parse (value.getD standard)

end Endpoint

end Exchange
