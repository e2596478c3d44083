/-!
# Pieces

Texts cut at every occurrence of a character.
-/

namespace Rolebook.Text

/-- The pieces between the separators, of which there is one more than separators. -/
def pieces (separator : Char) : List Char → List (List Char)
  | [] => [[]]
  | c :: cs =>
    match pieces separator cs with
    | [] => []
    | piece :: rest => if c = separator then [] :: piece :: rest else (c :: piece) :: rest

/-- The pieces in front of the separators, and what stands behind the last one unless it is
empty. -/
def terminatedPieces (separator : Char) (cs : List Char) : List (List Char) :=
  let pieces := pieces separator cs
  if pieces.getLast? = some [] then pieces.dropLast else pieces

end Rolebook.Text
