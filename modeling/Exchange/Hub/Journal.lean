-- SUMMARY: The journal: what handlers note and what hooks report, in the order in which it happened.
import Exchange.Ident

/-!
# Journal

Handlers note texts; cleanups, releases and services report that they ran. An
action that runs hooks in no particular order journals them in the order of
their texts, see `Journal.sortFrom`.
-/

namespace Exchange

namespace Journal

inductive Entry where
  | note (text : String)
  /-- The cleanup of a subscription ran. -/
  | cleaned (label : String)
  /-- The release of a tracked sid ran. -/
  | released (text : String)
  /-- A service began to produce for a topic that has `count` subscribers. -/
  | activated (service topic : String) (count : Nat)
  /-- What a service published on activation reached `count` subscribers. -/
  | announced (count : Nat)
  | deactivated (service topic : String)
  deriving DecidableEq, Repr

def Entry.text : Entry → String
  | .note text => text
  | .cleaned label => "cleanup " ++ label
  | .released text => "release " ++ text
  | .activated service topic count => "activate " ++ service ++ " " ++ topic ++ " " ++ toString count
  | .announced count => "announced " ++ toString count
  | .deactivated service topic => "deactivate " ++ service ++ " " ++ topic

end Journal

/-- Oldest entry first. -/
abbrev Journal := List Journal.Entry

namespace Journal

def sorted (j : Journal) : Journal :=
  j.mergeSort fun a b => !decide (b.text < a.text)

/-- Sorts all but the first `n` entries by their texts. -/
def sortFrom (n : Nat) (j : Journal) : Journal :=
  j.take n ++ sorted (j.drop n)

end Journal

end Exchange
