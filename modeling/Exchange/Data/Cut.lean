-- SUMMARY: Cutting a text at every occurrence of a character.

/-!
# Cutting

`cutAt` gives the parts between the occurrences of a character, empty ones
included; there is always one part more than there are occurrences.
-/

namespace Exchange

/-- Cuts a text at every occurrence of `sep`. -/
def cutAt (sep : Char) : List Char → List (List Char)
  | [] => [[]]
  | c :: rest =>
    if c = sep then [] :: cutAt sep rest
    else
      match cutAt sep rest with
      | part :: parts => (c :: part) :: parts
      | [] => [[c]]

end Exchange
