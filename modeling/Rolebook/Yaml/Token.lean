import Rolebook.Text.Percent
import Rolebook.Yaml.Scalar

/-!
# Yaml tokens

A Yaml text as a list of tokens, in which indentation has become brackets. Whether a value is a key
shows only at the colon behind it. So the place of a token that may be a key is kept, and the token
that says so is put in there afterwards.
-/

namespace Rolebook.Yaml

open Rolebook.Text

/-- How a scalar is written. -/
inductive Style
  | plain
  | quoted
  | literal
  | folded
deriving DecidableEq, Repr

/-- A part of a Yaml text. -/
inductive Token
  | version (major minor : Nat)
  | tagHandle (handle start : String)
  | documentStart
  | documentEnd
  | blockSequenceStart
  | blockMappingStart
  | blockEnd
  | flowSequenceStart
  | flowSequenceEnd
  | flowMappingStart
  | flowMappingEnd
  | blockEntry
  | flowEntry
  | key
  | value
  | anchor (name : String)
  | reference (name : String)
  | tag (handle suffix : String)
  | scalar (style : Style) (text : String)
deriving DecidableEq, Repr

/-- A token that may turn out to be a key. -/
structure KeyCandidate where
  /-- The number of the token. -/
  number : Nat
  position : Position
  /-- Whether nothing but a key can stand there. -/
  required : Bool
deriving DecidableEq, Repr

/-- What has been made of the start of a text. -/
structure Scan where
  cursor : Cursor
  tokens : Array Token
  /-- One more than the column of the innermost collection that is not in brackets, or 0 outside of
  all. -/
  level : Nat
  outerLevels : List Nat
  /-- What may be a key, in the innermost brackets. -/
  candidate : Option KeyCandidate
  /-- The same in the brackets around, one for each. -/
  outerCandidates : List (Option KeyCandidate)
  /-- Whether a key may start here. -/
  keyAllowed : Bool

namespace Scan

/-- Nothing has been read. -/
def start (text : List Char) : Scan :=
  ⟨.start text, #[], 0, [], none, [], true⟩

/-- Whether the place is in brackets. -/
def inFlow (scan : Scan) : Bool :=
  !scan.outerCandidates.isEmpty

/-- The scan at another place. -/
def moveTo (scan : Scan) (cursor : Cursor) : Scan :=
  { scan with cursor }

/-- The scan with one more token. -/
def add (scan : Scan) (token : Token) : Scan :=
  { scan with tokens := scan.tokens.push token }

/-- The scan with one more token that takes the next `length` characters. -/
def addOver (scan : Scan) (token : Token) (length : Nat) : Scan :=
  { scan with tokens := scan.tokens.push token, cursor := scan.cursor.skip length }

/-- The scan in which a key may start next, or may not. -/
def allowKey (scan : Scan) (keyAllowed : Bool) : Scan :=
  { scan with keyAllowed }

/-! ## Indentation -/

/-- Closes the levels from the innermost on that start behind a column. -/
def closeLevels (column : Nat) (level : Nat) (tokens : Array Token) :
    List Nat → Nat × List Nat × Array Token
  | [] => (level, [], tokens)
  | outer :: rest =>
    if column + 1 < level then closeLevels column outer (tokens.push .blockEnd) rest
    else (level, outer :: rest, tokens)

/-- Closes the collections that start behind a column. -/
def outdent (scan : Scan) (column : Nat) : Scan :=
  if scan.inFlow then
    scan
  else
    let (level, outerLevels, tokens) := closeLevels column scan.level scan.tokens scan.outerLevels
    { scan with level, outerLevels, tokens }

/-- Closes all collections that are not in brackets. -/
def outdentAll (scan : Scan) : Scan :=
  if scan.inFlow then
    scan
  else
    let tokens := scan.outerLevels.foldl (fun tokens _ => tokens.push .blockEnd) scan.tokens
    { scan with level := 0, outerLevels := [], tokens }

/-- Opens a collection at a column, unless there is one already, by a token with this number. -/
def indent (scan : Scan) (column number : Nat) (token : Token) : Scan :=
  if scan.inFlow || column < scan.level then
    scan
  else
    { scan with
      level := column + 1
      outerLevels := scan.level :: scan.outerLevels
      tokens := scan.tokens.insertIdxIfInBounds number token }

/-! ## Keys -/

/-- Gives up what may be a key. -/
def dropCandidate? (scan : Scan) : Option Scan :=
  match scan.candidate with
  | some candidate => if candidate.required then none else some { scan with candidate := none }
  | none => some scan

/-- Takes the next token for what may be a key, where a key may start. -/
def saveCandidate? (scan : Scan) : Option Scan :=
  if scan.keyAllowed then
    let required := !scan.inFlow && scan.level = scan.cursor.column + 1
    let candidate := ⟨scan.tokens.size, scan.cursor.position, required⟩
    scan.dropCandidate?.map fun scan => { scan with candidate := some candidate }
  else
    some scan

/-- How many characters a key may have. -/
def maxKeyLength : Nat := 1024

/-- What is left of something that may be a key: it ends in the line in which it starts, and is not
too long. -/
def freshCandidate? (position : Position) : Option KeyCandidate → Option (Option KeyCandidate)
  | some candidate =>
    if candidate.position.line < position.line ||
        candidate.position.index + maxKeyLength < position.index then
      if candidate.required then none else some none
    else
      some (some candidate)
  | none => some none

/-- Gives up what can be no key any more. -/
def dropStale? (scan : Scan) : Option Scan := do
  let candidate ← freshCandidate? scan.cursor.position scan.candidate
  let outerCandidates ← scan.outerCandidates.mapM (freshCandidate? scan.cursor.position)
  return { scan with candidate, outerCandidates }

/-! ## From token to token -/

/-- Passes over spaces, comments and ends of lines. Tabs may not stand where a key may start. -/
def skipToToken (scan : Scan) : (fuel : Nat) → Scan
  | 0 => scan
  | fuel + 1 =>
    let cursor := scan.cursor
    let cursor :=
      if cursor.position.index = 0 && cursor.rest.head? = some '\ufeff' then
        cursor.skip 1
      else
        cursor
    let tabs := scan.inFlow || !scan.keyAllowed
    let cursor := (cursor.skipWhile fun c => c = ' ' || (tabs && c = '\t')).skipComment
    match cursor.rest with
    | c :: _ =>
      if isBreak c then
        let scan := scan.moveTo cursor.skipBreak
        skipToToken (if scan.inFlow then scan else scan.allowKey true) fuel
      else
        scan.moveTo cursor
    | [] => scan.moveTo cursor

/-- Ends what has been begun, as at the mark of a document. -/
def endContent? (scan : Scan) : Option Scan := do
  let scan ← scan.outdentAll.dropCandidate?
  return scan.allowKey false

/-- The token that starts a collection in brackets. -/
def openFlow? (scan : Scan) (token : Token) : Option Scan := do
  let scan ← scan.saveCandidate?
  let scan :=
    { scan with outerCandidates := scan.candidate :: scan.outerCandidates, candidate := none }
  return (scan.allowKey true).addOver token 1

/-- The token that ends a collection in brackets. -/
def closeFlow? (scan : Scan) (token : Token) : Option Scan := do
  let scan ← scan.dropCandidate?
  let scan :=
    match scan.outerCandidates with
    | candidate :: outerCandidates => { scan with candidate, outerCandidates }
    | [] => scan
  return (scan.allowKey false).addOver token 1

/-- The comma between the items of a collection in brackets. -/
def flowEntry? (scan : Scan) : Option Scan := do
  let scan ← scan.dropCandidate?
  return (scan.allowKey true).addOver .flowEntry 1

/-- The hyphen in front of an item. -/
def blockEntry? (scan : Scan) : Option Scan := do
  if !scan.inFlow && !scan.keyAllowed then none
  let scan := scan.indent scan.cursor.column scan.tokens.size .blockSequenceStart
  let scan ← scan.dropCandidate?
  return (scan.allowKey true).addOver .blockEntry 1

/-- The question mark in front of a key. -/
def key? (scan : Scan) : Option Scan := do
  if !scan.inFlow && !scan.keyAllowed then none
  let scan := scan.indent scan.cursor.column scan.tokens.size .blockMappingStart
  let scan ← scan.dropCandidate?
  return (scan.allowKey !scan.inFlow).addOver .key 1

/-- The colon between a key and its value. -/
def value? (scan : Scan) : Option Scan :=
  match scan.candidate with
  | some candidate =>
    let scan :=
      { scan with
        tokens := scan.tokens.insertIdxIfInBounds candidate.number .key
        candidate := none }
    let scan := scan.indent candidate.position.column candidate.number .blockMappingStart
    some ((scan.allowKey false).addOver .value 1)
  | none => do
    if !scan.inFlow && !scan.keyAllowed then none
    let scan := scan.indent scan.cursor.column scan.tokens.size .blockMappingStart
    return (scan.allowKey !scan.inFlow).addOver .value 1

/-- Whether the name of an anchor may end in front of these characters. -/
def endsAnchor (cs : List Char) : Bool :=
  endsWord cs || (cs.head?.map "?:,]\x7d%@\x60".toList.contains).getD false

/-- The name of an anchor, which is marked by the character before it. -/
def anchor? (scan : Scan) (token : String → Token) : Option Scan := do
  let scan ← scan.saveCandidate?
  let name := (scan.cursor.rest.drop 1).takeWhile isNameChar
  let scan := (scan.allowKey false).addOver (token (String.ofList name)) (name.length + 1)
  if name.isEmpty || !endsAnchor scan.cursor.rest then none else some scan

/-! ## Tags and directives -/

/-- Whether `c` may stand in a tag. Some characters may only where the tag is written in full. -/
def isTagChar (full : Bool) (c : Char) : Bool :=
  isNameChar c || ";/?:@&=+$.%!~*'()".toList.contains c || (full && (c = ',' || c = '[' || c = ']'))

/-- Whether every percent sign has its two digits behind it. -/
def percentsHold : List Char → Bool
  | [] => true
  | c :: cs =>
    (c ≠ '%' || (escapedByte? (toUtf8 (String.ofList (cs.take 2)))).isSome) && percentsHold cs

/-- The characters of a tag, with percent signs undone, and what follows them. -/
def takeTagText? (full : Bool) (cursor : Cursor) : Option (List Char × Cursor) := do
  let chars := cursor.rest.takeWhile (isTagChar full)
  if !percentsHold chars then none
  let text ← percentDecode? (String.ofList chars)
  return (text.toList, cursor.skip chars.length)

/-- The handle of a tag: an exclamation mark, or a name between two of them. -/
def takeTagHandle (cursor : Cursor) : List Char × Cursor :=
  let name := (cursor.rest.drop 1).takeWhile isNameChar
  let length := name.length + 1
  let length := if cursor.rest[length]? = some '!' then length + 1 else length
  (cursor.rest.take length, cursor.skip length)

/-- A tag, as its handle and what follows it. -/
def takeTag? (cursor : Cursor) : Option (Token × Cursor) := do
  match cursor.rest with
  | _ :: '<' :: _ =>
    let (text, cursor) ← takeTagText? true (cursor.skip 2)
    if text.isEmpty || cursor.rest.head? ≠ some '>' then none
    return (.tag "" (String.ofList text), cursor.skip 1)
  | _ =>
    let (handle, cursor) := takeTagHandle cursor
    let (text, cursor) ← takeTagText? false cursor
    if 1 < handle.length && handle.getLast? = some '!' then
      if text.isEmpty then none
      return (.tag (String.ofList handle) (String.ofList text), cursor)
    else
      match handle.drop 1 ++ text with
      | [] => return (.tag "" "!", cursor)
      | suffix => return (.tag "!" (String.ofList suffix), cursor)

/-- The tag of a value. -/
def tag? (scan : Scan) : Option Scan := do
  let scan ← scan.saveCandidate?
  let (token, cursor) ← takeTag? scan.cursor
  let ended := endsWord cursor.rest || (scan.inFlow && cursor.rest.head? = some ',')
  if !ended then none
  return ((scan.allowKey false).add token).moveTo cursor

/-- A number of a version and what follows it. -/
def takeVersionNumber? (cursor : Cursor) : Option (Nat × Cursor) :=
  let digits := cursor.rest.takeWhile Char.isDigit
  if digits.isEmpty || 9 < digits.length then none
  else some (ofDigits 10 (digits.filterMap (digitValue? 10)), cursor.skip digits.length)

/-- What a directive says, behind its name. -/
def takeDirective? (name : List Char) (cursor : Cursor) : Option (Token × Cursor) := do
  if name = "YAML".toList then
    let (major, cursor) ← takeVersionNumber? (cursor.skipWhile isSpace)
    if cursor.rest.head? ≠ some '.' then none
    let (minor, cursor) ← takeVersionNumber? (cursor.skip 1)
    return (.version major minor, cursor)
  else if name = "TAG".toList then
    let cursor := cursor.skipWhile isSpace
    if cursor.rest.head? ≠ some '!' then none
    let (handle, cursor) := takeTagHandle cursor
    if 1 < handle.length && handle.getLast? ≠ some '!' then none
    if !(cursor.rest.head?.map isSpace).getD false then none
    let (start, cursor) ← takeTagText? true (cursor.skipWhile isSpace)
    if start.isEmpty || !endsWord cursor.rest then none
    return (.tagHandle (String.ofList handle) (String.ofList start), cursor)
  else
    none

/-- A directive, which has a line of its own. -/
def directive? (scan : Scan) : Option Scan := do
  let scan ← scan.endContent?
  let name := (scan.cursor.rest.drop 1).takeWhile isNameChar
  let behindName := scan.cursor.skip (name.length + 1)
  if name.isEmpty || !endsWord behindName.rest then none
  let (token, cursor) ← takeDirective? name behindName
  let cursor := (cursor.skipWhile isSpace).skipComment
  if (cursor.rest.head?.map fun c => !isBreak c).getD false then none
  return (scan.add token).moveTo cursor.skipBreak

/-! ## Scalars -/

/-- A scalar within a line. -/
def flowScalar? (scan : Scan) (style : Style)
    (take : Position → List Char → Option ScalarEnd) (length : Nat) : Option Scan := do
  let scan ← scan.saveCandidate?
  let start := scan.cursor.skip length
  let scalar ← take start.position start.rest
  let scan := ((scan.allowKey scalar.endsLine).add (.scalar style (String.ofList scalar.text)))
  return scan.moveTo scalar.cursor

/-- A scalar that is a block of lines. -/
def blockScalar? (scan : Scan) (style : Style) : Option Scan := do
  let scan ← scan.dropCandidate?
  let scalar ← takeBlock? (style = .folded) scan.level (scan.cursor.skip 1)
  return ((scan.allowKey true).add (.scalar style (String.ofList scalar.text))).moveTo scalar.cursor

/-- Whether a plain scalar may start with `c` in front of `cs`. -/
def startsPlain (inFlow : Bool) (c : Char) (cs : List Char) : Bool :=
  if c = '-' then !(cs.head?.map isSpace).getD false
  else if c = '?' || c = ':' then !inFlow && !endsWord cs
  else !isSpace c && !",[]\x7b\x7d#&*!|>'\"%@\x60".toList.contains c

/-- The scan with the token that comes next, or nothing if there can be none. -/
def next? (scan : Scan) : Option Scan := do
  let scan ← scan.dropStale?
  let scan := scan.outdent scan.cursor.column
  match scan.cursor.rest with
  | [] => some scan
  | c :: cs =>
    let word := endsWord cs
    if scan.cursor.column = 0 && c = '%' then
      scan.directive?
    else if scan.cursor.column = 0 && atMark '-' (c :: cs) then
      return (← scan.endContent?).addOver .documentStart 3
    else if scan.cursor.column = 0 && atMark '.' (c :: cs) then
      return (← scan.endContent?).addOver .documentEnd 3
    else if c = '[' then
      scan.openFlow? .flowSequenceStart
    else if c = '\x7b' then
      scan.openFlow? .flowMappingStart
    else if c = ']' then
      scan.closeFlow? .flowSequenceEnd
    else if c = '\x7d' then
      scan.closeFlow? .flowMappingEnd
    else if c = ',' then
      scan.flowEntry?
    else if c = '-' && word then
      scan.blockEntry?
    else if c = '?' && (scan.inFlow || word) then
      scan.key?
    else if c = ':' && (scan.inFlow || word) then
      scan.value?
    else if c = '*' then
      scan.anchor? .reference
    else if c = '&' then
      scan.anchor? .anchor
    else if c = '!' then
      scan.tag?
    else if c = '|' && !scan.inFlow then
      scan.blockScalar? .literal
    else if c = '>' && !scan.inFlow then
      scan.blockScalar? .folded
    else if c = '\'' then
      scan.flowScalar? .quoted (takeSingle? [] .none) 1
    else if c = '"' then
      scan.flowScalar? .quoted (takeDouble? .plain [] .none) 1
    else if startsPlain scan.inFlow c cs then
      scan.flowScalar? .plain (takePlain? scan.inFlow scan.level [] .none) 0
    else
      none

/-- The tokens of what is left of a text. -/
def finish? (scan : Scan) : (fuel : Nat) → Option (List Token)
  | 0 => none
  | fuel + 1 =>
    let scan := scan.skipToToken (scan.cursor.rest.length + 1)
    match scan.cursor.rest with
    | [] => do
      let scan ← scan.dropStale?
      let scan ← scan.outdentAll.dropCandidate?
      return scan.tokens.toList
    | _ :: _ =>
      match scan.next? with
      | some scan => finish? scan fuel
      | none => none

end Scan

/-- The tokens of a text. -/
def tokens? (text : List Char) : Option (List Token) :=
  if text.all isPrintable then (Scan.start text).finish? (text.length + 1) else none

end Rolebook.Yaml
