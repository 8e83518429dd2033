-- SUMMARY: Identifiers: of subscriptions, of requests in flight, of connections, and names of plugins.

/-!
# Identifiers

Identifiers are opaque texts. Generated ones have the thirty-six characters of
a UUID; the family and the number they are generated from make them distinct.
-/

namespace Exchange

namespace Ident

/-- The last `width` hexadecimal digits of a number. -/
def hexDigits : (width : Nat) → Nat → List Char
  | 0, _ => []
  | width + 1, n => hexDigits width (n / 16) ++ [Nat.digitChar (n % 16)]

/-- The `n`th identifier of a family. -/
def generated (family n : Nat) : String :=
  String.ofList (hexDigits 8 family) ++ "-0000-4000-8000-" ++ String.ofList (hexDigits 12 n)

end Ident

/-- Names one subscription. -/
structure Sid where
  text : String
  deriving DecidableEq, Repr

/-- Ties responses to the request they answer. -/
structure RequestId where
  text : String
  deriving DecidableEq, Repr

/-- Names one accepted connection. -/
structure ConnectionId where
  text : String
  deriving DecidableEq, Repr

/-- The name a plugin is registered and mounted under. -/
structure PluginName where
  text : String
  deriving DecidableEq, Repr

def Sid.nth (manager n : Nat) : Sid := ⟨Ident.generated (16 * manager + 1) n⟩

def RequestId.nth (n : Nat) : RequestId := ⟨Ident.generated 2 n⟩

def ConnectionId.nth (n : Nat) : ConnectionId := ⟨Ident.generated 3 n⟩

/-- The prefix that a plugin is mounted at. -/
def PluginName.mountPrefix (name : PluginName) : String :=
  "/" ++ name.text

end Exchange
