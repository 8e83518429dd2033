-- SUMMARY: Domains: the form that their characters stand for, and the rules for their labels.
import Exchange.Url.Domain.Composed
import Exchange.Url.Domain.Direction
import Exchange.Url.Domain.Form
import Exchange.Url.Domain.Joining
import Exchange.Url.Domain.Punycode
import Exchange.Url.Domain.Repertoire
import Exchange.Url.Host

/-!
# Domains

A domain is read by putting what they stand for in the place of its characters,
composing the result, and cutting it into labels. A label that starts with
`xn--` spells another one. `Domain.fold?` gives the text of a domain that keeps
all the rules.
-/

namespace Exchange.Url.Domain

/-! ## Characters -/

/-- Characters of ASCII that no domain may hold. -/
def isForbidden (c : Char) : Bool :=
  c.toNat ≤ 0x20 || c.toNat = 0x7f || c = '%' || c ∈ forbiddenInHost

def isAscii (c : Char) : Bool :=
  c.toNat < 0x80

/-- The text that a character stands for in a domain, if it may be there. -/
def form? (c : Char) : Option (List Char) :=
  if isAscii c then some [c.toLower]
  else if ignored.contains c then some []
  else if disallowed.contains c then none
  else some ((standsFor? c).getD [c])

/-! ## Labels -/

/-- What a label that spells another one starts with. -/
def spellingMark : List Char := ['x', 'n', '-', '-']

/-- No label is spelled with more characters than this. -/
def maxSpelling : Nat := 2000

/-- No label beyond ASCII has more characters than this. -/
def maxLabel : Nat := 1000

/-- Whether a label keeps the rules for its first character, for joiners and for its length. -/
def isWellFormed (label : List Char) : Bool :=
  !label.head?.any isMark && joinersFit [] label && (label.all isAscii || label.length ≤ maxLabel)

/-- Whether a character may be in a label that another one spells. -/
def maySpell (c : Char) : Bool :=
  form? c = some [c] && !isForbidden c && c ≠ '.'

/-- The label that `cs` spells, which has to be in its final form. -/
def spelled? (cs : List Char) : Option (List Char) := do
  if cs.all isAscii && cs.length ≤ maxSpelling then
    let label ← Punycode.decode? cs
    if !label.all isAscii && label.all maySpell && composed label = label then some label else none
  else none

/-- The label that stands at a place, if it keeps the rules. -/
def label? (cs : List Char) : Option (List Char) := do
  let label ← if spellingMark.isPrefixOf cs then spelled? (cs.drop 4) else some cs
  if isWellFormed label then some label else none

/-! ## Domains -/

/-- The text that a domain stands for, if it keeps the rules. -/
def fold? (cs : List Char) : Option (List Char) := do
  let text := composed (← cs.mapM form?).flatten
  if text.any isForbidden then none
  else
    let labels ← (cutAt '.' text).mapM label?
    if keepsDirections labels then some text else none

end Exchange.Url.Domain
