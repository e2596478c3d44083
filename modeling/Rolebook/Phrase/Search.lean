import Rolebook.Phrase.Shape

/-!
# Searching phrases

The names in a phrase that has certain tokens. Each token is looked for behind the one before it,
and the first place where it stands is taken. No other place has to be tried: whatever stands behind
a later place stands behind the first one too.
-/

namespace Rolebook.Phrase

/-- A place in a phrase: the character before it and the text from there on. -/
structure Place where
  before : Option Char
  rest : List Char
deriving DecidableEq, Repr

/-- The place behind some letters, if they stand in front of `rest`. -/
def placeBehind? :
    (letters : List Char) → (before : Option Char) → (rest : List Char) → Option Place
  | [], before, rest => some ⟨before, rest⟩
  | lower :: letters, _, c :: rest =>
    if isLetter lower c then placeBehind? letters (some c) rest else none
  | _ :: _, _, [] => none

/-- The place behind one of the keywords, if a word starts here that begins with it. -/
def Place.behindKeyword? (keywords : List String) (place : Place) : Option Place :=
  if (Cursor.mk place.before place.rest []).atBoundary then
    keywords.findSome? fun letters => placeBehind? letters.toList place.before place.rest
  else
    none

/-- The place behind the first of the keywords that stands in front of the next quote. -/
def findKeyword? (keywords : List String) (before : Option Char) : List Char → Option Place
  | [] => Place.behindKeyword? keywords ⟨before, []⟩
  | c :: rest =>
    match Place.behindKeyword? keywords ⟨before, c :: rest⟩ with
    | some place => some place
    -- no filler goes across a quote
    | none => if isQuote c then none else findKeyword? keywords (some c) rest

/-- The name that the next quote opens, and the place behind the quote that closes it. -/
def findName? (rest : List Char) : Option (List Char × Place) :=
  match rest.dropWhile fun c => !isQuote c with
  | [] => none
  | _ :: rest =>
    match rest.takeWhile fun c => !isQuote c, rest.dropWhile fun c => !isQuote c with
    | c :: name, quote :: rest => some (c :: name, ⟨some quote, rest⟩)
    | _, _ => none

/-- The names in a phrase with these tokens. A description is passed over if it is not there. -/
def findNames? : List Token → Place → Option (List (List Char))
  | [], _ => some []
  | .keyword letters :: tokens, place =>
    match findKeyword? [letters] place.before place.rest with
    | some place => findNames? tokens place
    | none => none
  | .removalVerb :: tokens, place =>
    match findKeyword? removalVerbs place.before place.rest with
    | some place => findNames? tokens place
    | none => none
  | .name :: tokens, place =>
    match findName? place.rest with
    | some (name, place) => (findNames? tokens place).map (name :: ·)
    | none => none
  | .description :: tokens, place =>
    match (findKeyword? ["description"] place.before place.rest).bind fun place =>
      findName? place.rest with
    | some (text, place) => (findNames? tokens place).map (text :: ·)
    | none => findNames? tokens place

/-- The names in a text that is a phrase with these tokens. -/
def namesOf? (tokens : List Token) (text : List Char) : Option (List (List Char)) :=
  findNames? tokens ⟨none, text⟩

end Rolebook.Phrase
