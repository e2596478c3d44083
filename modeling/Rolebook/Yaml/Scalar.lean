import Rolebook.Text.Digits
import Rolebook.Yaml.Cursor

/-!
# Yaml scalars

The three ways to write a text: plainly, in quotes, and as a block of lines. In the first two,
spaces at the ends of lines are dropped and one end of a line becomes a space.
-/

namespace Rolebook.Yaml

open Rolebook.Text

/-- Spaces and ends of lines between two words. -/
inductive Gap
  /-- Spaces within a line, the last one first. -/
  | spaces (chars : List Char)
  /-- Ends of lines, the last one first. The first of them may have been given up. -/
  | lines (first : Option Char) (others : List Char)
deriving DecidableEq, Repr

namespace Gap

/-- Nothing between two words. -/
def none : Gap :=
  .spaces []

/-- Whether a line has ended. -/
def endsLine : Gap → Bool
  | .spaces _ => false
  | .lines _ _ => true

/-- The gap with one more space. Spaces at the start of a line are dropped. -/
def addSpace (gap : Gap) (c : Char) : Gap :=
  match gap with
  | .spaces chars => .spaces (c :: chars)
  | .lines first others => .lines first others

/-- The gap with one more end of a line. Spaces before it are dropped. -/
def addBreak (gap : Gap) (c : Char) : Gap :=
  match gap with
  | .spaces _ => .lines (some c) []
  | .lines first others => .lines first (c :: others)

/-- What stands for the gap in the text, the last character first. -/
def folded : Gap → List Char
  | .spaces chars => chars
  | .lines (some '\n') [] => [' ']
  | .lines (some '\n') others => others
  | .lines first others => others ++ first.toList

end Gap

/-- A scalar that has been read. -/
structure ScalarEnd where
  text : List Char
  /-- Whether a line has ended behind it. -/
  endsLine : Bool
  cursor : Cursor

/-! ## Plain scalars -/

/-- Whether `c` separates the items of collections in brackets. -/
def isFlowIndicator (c : Char) : Bool :=
  c = ',' || c = '[' || c = ']' || c = '\x7b' || c = '\x7d'

/-- Whether a colon in front of `cs` is not allowed in a plain scalar in brackets. -/
def isStrayColon (cs : List Char) : Bool :=
  match cs.head? with
  | some c => isFlowIndicator c || c = '?'
  | none => false

/-- Whether a plain scalar ends in front of `c` and `cs`. -/
def endsPlain (inFlow : Bool) (c : Char) (cs : List Char) : Bool :=
  (c = ':' && endsWord cs) || (inFlow && isFlowIndicator c)

/-- The rest of a plain scalar behind `text` and `gap`. It ends in a line that is indented less than
`indent`, at the mark of a document, at a comment, and where the next value begins. -/
def takePlain? (inFlow : Bool) (indent : Nat) (text : List Char) (gap : Gap) (position : Position) :
    List Char → Option ScalarEnd
  | [] => some ⟨text.reverse, gap.endsLine, ⟨position, []⟩⟩
  | '\x0d' :: '\n' :: cs =>
    takePlain? inFlow indent text (gap.addBreak '\n') (position.nextLine 2) cs
  | c :: cs =>
    if isBreak c then
      takePlain? inFlow indent text (gap.addBreak (keptBreak c)) (position.nextLine 1) cs
    else if isSpace c then
      if c = '\t' && gap.endsLine && position.column < indent then none
      else takePlain? inFlow indent text (gap.addSpace c) (position.over 1) cs
    else
      let behindGap := gap ≠ .none
      let outdented := !inFlow && position.column < indent
      let atEnd := behindGap &&
        (outdented || (position.column = 0 && atDocumentMark (c :: cs)) || c = '#')
      if atEnd then
        some ⟨text.reverse, gap.endsLine, ⟨position, c :: cs⟩⟩
      else if inFlow && c = ':' && isStrayColon cs then
        none
      else if endsPlain inFlow c cs then
        some ⟨text.reverse, gap.endsLine, ⟨position, c :: cs⟩⟩
      else
        takePlain? inFlow indent (c :: gap.folded ++ text) .none (position.over 1) cs

/-! ## Quoted scalars -/

/-- The rest of a scalar in single quotes behind `text` and `gap`. A quote is written twice. -/
def takeSingle? (text : List Char) (gap : Gap) (position : Position) : List Char → Option ScalarEnd
  | [] => none
  | '\x0d' :: '\n' :: cs => takeSingle? text (gap.addBreak '\n') (position.nextLine 2) cs
  | '\'' :: '\'' :: cs => takeSingle? ('\'' :: gap.folded ++ text) .none (position.over 2) cs
  | c :: cs =>
    if isBreak c then
      takeSingle? text (gap.addBreak (keptBreak c)) (position.nextLine 1) cs
    else if isSpace c then
      takeSingle? text (gap.addSpace c) (position.over 1) cs
    else if position.column = 0 && atDocumentMark (c :: cs) then
      none
    else if c = '\'' then
      some ⟨(gap.folded ++ text).reverse, false, ⟨position.over 1, cs⟩⟩
    else
      takeSingle? (c :: gap.folded ++ text) .none (position.over 1) cs

/-- The character that a backslash and one letter stand for. -/
def escapedChar? : Char → Option Char
  | '0' => some '\x00'
  | 'a' => some '\x07'
  | 'b' => some '\x08'
  | 't' => some '\t'
  | '\t' => some '\t'
  | 'n' => some '\n'
  | 'v' => some '\x0b'
  | 'f' => some '\x0c'
  | 'r' => some '\x0d'
  | 'e' => some '\x1b'
  | ' ' => some ' '
  | '"' => some '"'
  | '/' => some '/'
  | '\\' => some '\\'
  | 'N' => some '\u0085'
  | '_' => some '\u00a0'
  | 'L' => some '\u2028'
  | 'P' => some '\u2029'
  | _ => none

/-- How many hexadecimal digits stand behind a backslash and one letter. -/
def escapeDigits? : Char → Option Nat
  | 'x' => some 2
  | 'u' => some 4
  | 'U' => some 8
  | _ => none

/-- The character with a code point, if there is one. -/
def charOfCode? (code : Nat) : Option Char :=
  if code.isValidChar then some (Char.ofNat code) else none

/-- What comes next in a scalar in double quotes. -/
inductive QuotedMode
  | plain
  /-- A backslash stands before. -/
  | escaped
  /-- Digits of a code point are missing. -/
  | code (missing value : Nat)
deriving DecidableEq, Repr

/-- The rest of a scalar in double quotes behind `text` and `gap`. -/
def takeDouble? (mode : QuotedMode) (text : List Char) (gap : Gap) (position : Position) :
    List Char → Option ScalarEnd
  | [] => none
  | '\x0d' :: '\n' :: cs =>
    match mode with
    | .plain => takeDouble? .plain text (gap.addBreak '\n') (position.nextLine 2) cs
    | .escaped => takeDouble? .plain text (.lines none []) (position.nextLine 2) cs
    | .code _ _ => none
  | c :: cs =>
    match mode with
    | .plain =>
      if isBreak c then
        takeDouble? .plain text (gap.addBreak (keptBreak c)) (position.nextLine 1) cs
      else if isSpace c then
        takeDouble? .plain text (gap.addSpace c) (position.over 1) cs
      else if position.column = 0 && atDocumentMark (c :: cs) then
        none
      else if c = '"' then
        some ⟨(gap.folded ++ text).reverse, false, ⟨position.over 1, cs⟩⟩
      else if c = '\\' then
        takeDouble? .escaped (gap.folded ++ text) .none (position.over 1) cs
      else
        takeDouble? .plain (c :: gap.folded ++ text) .none (position.over 1) cs
    | .escaped =>
      if isBreak c then
        takeDouble? .plain text (.lines none []) (position.nextLine 1) cs
      else
        match escapeDigits? c, escapedChar? c with
        | some digits, _ => takeDouble? (.code digits 0) text .none (position.over 1) cs
        | none, some c => takeDouble? .plain (c :: text) .none (position.over 1) cs
        | none, none => none
    | .code missing value =>
      match digitValue? 16 c with
      | none => none
      | some digit =>
        let value := value * 16 + digit
        if 1 < missing then
          takeDouble? (.code (missing - 1) value) text .none (position.over 1) cs
        else
          match charOfCode? value with
          | some c => takeDouble? .plain (c :: text) .none (position.over 1) cs
          | none => none

/-! ## Block scalars -/

/-- What becomes of the ends of lines at the end of a block. -/
inductive Chomping
  | strip
  | clip
  | keep
deriving DecidableEq, Repr

/-- The first line of a block, behind the sign that starts it. -/
structure BlockHead where
  chomping : Chomping
  /-- How many columns the block is indented more than what it stands in, if that is said. -/
  indent : Option Nat
  cursor : Cursor

/-- How ends of lines are kept, if that is said, and what follows. -/
def takeChomping (cursor : Cursor) : Option Chomping × Cursor :=
  match cursor.rest with
  | '+' :: _ => (some .keep, cursor.skip 1)
  | '-' :: _ => (some .strip, cursor.skip 1)
  | _ => (none, cursor)

/-- How far a block is indented, if that is said, and what follows. It is no zero. -/
def takeIndent? (cursor : Cursor) : Option (Option Nat × Cursor) :=
  match cursor.rest with
  | c :: _ =>
    match digitValue? 10 c with
    | some 0 => none
    | some digit => some (some digit, cursor.skip 1)
    | none => some (none, cursor)
  | [] => some (none, cursor)

/-- The first line of a block, in which a comment may stand. -/
def takeBlockHead? (cursor : Cursor) : Option BlockHead := do
  let (before, cursor) := takeChomping cursor
  let (indent, cursor) ← takeIndent? cursor
  let (behind, cursor) :=
    if before.isNone && indent.isSome then takeChomping cursor else (none, cursor)
  let cursor := (cursor.skipWhile isSpace).skipComment
  match cursor.rest with
  | [] => return ⟨(before <|> behind).getD .clip, indent, cursor⟩
  | c :: _ =>
    if isBreak c then return ⟨(before <|> behind).getD .clip, indent, cursor.skipBreak⟩ else none

/-- A line of a block: what it says, and how it ends unless it is the last one. -/
structure Line where
  chars : List Char
  ending : List Char
  /-- How many characters the end takes. -/
  endingLength : Nat

/-- The lines of a text, where `line` is the start of the first one, the last character first. -/
def linesBehind (line : List Char) : List Char → List Line
  | [] => [⟨line.reverse, [], 0⟩]
  | '\x0d' :: '\n' :: cs => ⟨line.reverse, ['\n'], 2⟩ :: linesBehind [] cs
  | c :: cs =>
    if isBreak c then
      ⟨line.reverse, [keptBreak c], 1⟩ :: linesBehind [] cs
    else
      linesBehind (c :: line) cs

/-- How many spaces a line starts with. -/
def Line.indent (line : Line) : Nat :=
  (line.chars.takeWhile (· = ' ')).length

/-- Whether a line has nothing but spaces and ends. -/
def Line.isEmpty (line : Line) : Bool :=
  line.chars.all (· = ' ') && line.endingLength ≠ 0

/-- How far a block is indented when it does not say so: as far as its first line with something in
it, or an empty line before that which is longer, and at least `least`. -/
def detectIndent? (least : Nat) : List Line → Option Nat
  | [] => some least
  | line :: lines =>
    if (line.chars.drop line.indent).head? = some '\t' then none
    else if line.isEmpty then detectIndent? (max least line.indent) lines
    else some (max least line.indent)

/-- A block as far as it has been read. -/
structure BlockState where
  /-- The text, the last character first. -/
  text : List Char
  /-- The end of the last line with something in it. -/
  ending : List Char
  /-- The ends of the empty lines behind it, the last one first. -/
  empty : List Char
  /-- Whether that line starts with a space. -/
  indented : Bool
  position : Position

/-- The block with one more line that has something in it. Lines that are not indented are joined by
spaces. -/
def BlockState.add (state : BlockState) (folds : Bool) (line : Line) (chars : List Char) :
    BlockState :=
  let indented := (chars.head?.map isSpace).getD false
  let joined := folds && state.ending = ['\n'] && !state.indented && !indented
  let between :=
    if joined then
      if state.empty.isEmpty then [' '] else state.empty
    else
      state.empty ++ state.ending
  { text := chars.reverse ++ between ++ state.text
    ending := line.ending
    empty := []
    indented
    position := state.position }

/-- The block with the position behind a line. -/
def BlockState.behind (state : BlockState) (line : Line) : BlockState :=
  let length := line.chars.length + line.endingLength
  let position :=
    if line.endingLength = 0 then state.position.over length else state.position.nextLine length
  { state with position }

/-- The block with the lines that are indented far enough. -/
def takeBlockLines? (folds : Bool) (indent : Nat) (state : BlockState) :
    List Line → Option BlockState
  | [] => some state
  | line :: lines =>
    let chars := line.chars.drop (min indent line.indent)
    if line.indent < indent && chars.head? = some '\t' then
      none
    else if chars.isEmpty && line.endingLength ≠ 0 then
      takeBlockLines? folds indent
        ({ state with empty := line.ending ++ state.empty }.behind line) lines
    else if line.indent < indent || chars.isEmpty then
      some state
    else
      takeBlockLines? folds indent ((state.add folds line chars).behind line) lines

/-- A scalar that is a block of lines, behind the sign that starts it. What it stands in is indented
by less than `level` columns. -/
def takeBlock? (folds : Bool) (level : Nat) (cursor : Cursor) : Option ScalarEnd := do
  let head ← takeBlockHead? cursor
  let lines := linesBehind [] head.cursor.rest
  let indent ←
    match head.indent with
    | some columns => some (level - 1 + columns)
    | none => detectIndent? (max level 1) lines
  let state ← takeBlockLines? folds indent ⟨[], [], [], false, head.cursor.position⟩ lines
  let tail :=
    match head.chomping with
    | .strip => []
    | .clip => state.ending
    | .keep => state.empty ++ state.ending
  let length := state.position.index - head.cursor.position.index
  return ⟨(tail ++ state.text).reverse, true, ⟨state.position, head.cursor.rest.drop length⟩⟩

end Rolebook.Yaml
