import Rolebook.Text.Blank

/-!
# Names

A name is kept without the blanks at its ends, and something has to be left of it then.
-/

namespace Rolebook

/-- The complaint about a name of which nothing is left. -/
def blankNameMessage (noun : String) : String :=
  noun ++ " name must not be empty"

/-- A name as it is kept, or the complaint that nothing is left of it. -/
def normalizeName (noun name : String) : Except String String :=
  let trimmed := Text.trim name
  if trimmed.isEmpty then .error (blankNameMessage noun) else .ok trimmed

end Rolebook
