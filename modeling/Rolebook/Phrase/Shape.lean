import Rolebook.Phrase.Pattern

/-!
# Shapes of phrases

A command is a phrase of keywords and quoted names, with any words between them. A shape lists the
tokens that such a phrase has to have, in order. A keyword has to begin where a word begins, its
letters are compared without regard to case, and it counts only outside the quoted names, since no
filler goes across a quote.
-/

namespace Rolebook.Phrase

/-- A token of a phrase. -/
inductive Token
  /-- A word that begins with these letters, which are given in lower case. -/
  | keyword (letters : String)
  /-- A word that begins with one of the verbs of removal. -/
  | removalVerb
  /-- A name in quotes. -/
  | name
  /-- The word "description" and a text in quotes, both or neither. -/
  | description
deriving DecidableEq, Repr

instance : Coe String Token :=
  ⟨.keyword⟩

/-- A character that opens and closes a quoted name. -/
def isQuote (c : Char) : Bool :=
  c == '\'' || c == '"'

/-- Whether `c` is the letter `lower`, given in lower case, in either case. The long s and the
kelvin sign are forms of s and k. -/
def isLetter (lower c : Char) : Bool :=
  c == lower || c == lower.toUpper || (lower == 's' && c == 'ſ') || (lower == 'k' && c == '\u212A')

/-- The verbs of removal. -/
def removalVerbs : List String :=
  ["remove", "revoke", "delete", "take"]

/-- Any words between two tokens. -/
def filler : Pattern :=
  .gap fun c => !isQuote c

/-- The letters of a keyword. -/
def lettersPattern (letters : String) : Pattern :=
  .sequence (letters.toList.map fun lower => .one (isLetter lower))

/-- A word that begins with the letters of one of the keywords. -/
def keywordPattern : List String → Pattern
  | [] => .boundary
  | first :: others =>
    .seq .boundary (others.foldl (fun pattern letters => .either pattern (lettersPattern letters))
      (lettersPattern first))

/-- A name in quotes. It holds no quote of either kind, so the quotes around it need not be of one
kind. -/
def namePattern : Pattern :=
  .sequence [.one isQuote, .capture fun c => !isQuote c, .one isQuote]

/-- The pattern of a token. -/
def Token.pattern : Token → Pattern
  | .keyword letters => keywordPattern [letters]
  | .removalVerb => keywordPattern removalVerbs
  | .name => namePattern
  | .description =>
    .optional (.sequence [filler, keywordPattern ["description"], filler, namePattern])

/-- The pattern of a token with the filler in front of it. An optional description brings its own
filler. -/
def Token.patternAfterFiller : Token → Pattern
  | .description => Token.description.pattern
  | token => .seq filler token.pattern

/-- The pattern of a phrase with these tokens. -/
def phrasePattern (tokens : List Token) : Pattern :=
  .sequence (tokens.map Token.patternAfterFiller)

end Rolebook.Phrase
