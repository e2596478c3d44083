import Rolebook.Text.CaseTable

/-!
# Lowercase

The lowercase form of a text. It is taken character by character, but for the capital sigma, which
has a form of its own at the end of a word, and for the capital I with a dot above, which becomes
two characters.
-/

namespace Rolebook.Text

/-- The lowercase form of a character that stands alone. -/
def lowercaseOf (c : Char) : List Char :=
  if c = '\u0130' then
    ['i', '\u0307']
  else
    match CaseRun.image? lowercaseRuns c.toNat with
    | some n => [Char.ofNat n]
    | none => [c]

/-- Whether the nearest character that is not passed over has a case. -/
def meetsCased (cs : List Char) : Bool :=
  match cs.dropWhile isCaseIgnorable with
  | c :: _ => isCased c
  | [] => false

/-- The lowercase form of `cs`, where `afterCased` says whether the nearest character before that is
not passed over has a case. -/
def lowercaseAfter (afterCased : Bool) : List Char → List Char
  | [] => []
  | c :: cs =>
    let afterCased' := if isCaseIgnorable c then afterCased else isCased c
    let form :=
      if c = 'Σ' then
        [if afterCased && !meetsCased cs then 'ς' else 'σ']
      else
        lowercaseOf c
    form ++ lowercaseAfter afterCased' cs

/-- The lowercase form of a text. -/
def lowercase (text : String) : String :=
  String.ofList (lowercaseAfter false text.toList)

end Rolebook.Text
