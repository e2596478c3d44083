import Rolebook.Text.WordTable

/-!
# Patterns of phrases

A small language of patterns over texts. A pattern is tried from left to right and its choices in
order, each followed by all that stands behind it: the first way to match the whole pattern is
taken. A gap prefers to be short, a capture to be long, an optional part to be there.
-/

namespace Rolebook.Phrase

open Rolebook.Text (isWord)

/-- A pattern over texts. -/
inductive Pattern
  /-- Matches the empty text. -/
  | empty
  /-- Matches one character of a class. -/
  | one (accepts : Char → Bool)
  /-- Matches the empty text between a character of a word and one that is none, or an end of the
  text. -/
  | boundary
  /-- Matches characters of a class, as few as possible. -/
  | gap (accepts : Char → Bool)
  /-- Matches characters of a class, at least one and as many as possible, and remembers them. -/
  | capture (accepts : Char → Bool)
  /-- Matches one pattern and then another. -/
  | seq (first second : Pattern)
  /-- Matches one of two patterns, the first one if it can. -/
  | either (first second : Pattern)
  /-- Matches a pattern or, if that cannot be, the empty text. -/
  | optional (part : Pattern)

/-- What remains to be matched: the character before it, the text from there on, and the captures so
far. -/
structure Cursor where
  before : Option Char
  rest : List Char
  captures : List (List Char)

/-- The cursor at the start of a text. -/
def Cursor.start (text : List Char) : Cursor :=
  ⟨none, text, []⟩

/-- Whether exactly one of the two neighbours is a character of a word. -/
def Cursor.atBoundary (cursor : Cursor) : Bool :=
  cursor.before.any isWord != cursor.rest.head?.any isWord

/-- A gap in front of `rest`, followed by `next`, the shortest first. -/
def matchGap (accepts : Char → Bool) (captures : List (List Char)) (next : Cursor → Option α)
    (before : Option Char) : List Char → Option α
  | [] => next ⟨before, [], captures⟩
  | c :: cs =>
    match next ⟨before, c :: cs, captures⟩ with
    | some result => some result
    | none => if accepts c then matchGap accepts captures next (some c) cs else none

/-- A capture in front of `rest`, followed by `next`, the longest first. The characters in `taken`
belong to it already, the last one first. -/
def matchCapture (accepts : Char → Bool) (captures : List (List Char)) (next : Cursor → Option α)
    (taken : List Char) : List Char → Option α
  | [] => none
  | c :: cs =>
    if accepts c then
      match matchCapture accepts captures next (c :: taken) cs with
      | some result => some result
      | none => next ⟨some c, cs, captures ++ [(c :: taken).reverse]⟩
    else
      none

/-- The pattern at a cursor, followed by `next`. -/
def Pattern.matchAt : Pattern → Cursor → (Cursor → Option α) → Option α
  | .empty, cursor, next => next cursor
  | .one accepts, ⟨_, rest, captures⟩, next =>
    match rest with
    | [] => none
    | c :: cs => if accepts c then next ⟨some c, cs, captures⟩ else none
  | .boundary, cursor, next => if cursor.atBoundary then next cursor else none
  | .gap accepts, ⟨before, rest, captures⟩, next => matchGap accepts captures next before rest
  | .capture accepts, ⟨_, rest, captures⟩, next => matchCapture accepts captures next [] rest
  | .seq first second, cursor, next =>
    first.matchAt cursor fun cursor' => second.matchAt cursor' next
  | .either first second, cursor, next =>
    match first.matchAt cursor next with
    | some result => some result
    | none => second.matchAt cursor next
  | .optional part, cursor, next =>
    match part.matchAt cursor next with
    | some result => some result
    | none => next cursor

/-- The captures of the first way to match the pattern at the start of a text. -/
def Pattern.captures? (pattern : Pattern) (text : List Char) : Option (List (List Char)) :=
  pattern.matchAt (Cursor.start text) fun cursor => some cursor.captures

/-- The patterns one after the other. -/
def Pattern.sequence (patterns : List Pattern) : Pattern :=
  patterns.foldr .seq .empty

end Rolebook.Phrase
