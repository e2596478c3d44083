import Rolebook.Yaml.Token

/-!
# Yaml documents

The values that the tokens of a text stand for. An anchor gives a value a name by which it can be
referred to later in the same document.
-/

namespace Rolebook.Yaml

/-- A value in a document. -/
inductive Node
  | scalar (style : Style) (tag : Option String) (text : String)
  | sequence (items : List Node)
  | mapping (entries : List (Node × Node))
  /-- A collection that is referred to within itself. -/
  | enclosing

/-- The value that stands where nothing is written. -/
def Node.empty : Node :=
  .scalar .plain none ""

/-- What is left of the tokens, and what names stand for. -/
structure Reading where
  tokens : List Token
  anchors : List (String × Node)
  handles : List (String × String)

/-- A reader of tokens. -/
abbrev Reader (α : Type) : Type :=
  StateT Reading Option α

namespace Reader

/-- The next token, which is left where it is. -/
def peek : Reader (Option Token) :=
  return (← get).tokens.head?

/-- Passes over the next token. -/
def skip : Reader Unit :=
  modify fun reading => { reading with tokens := reading.tokens.drop 1 }

/-- Passes over the next token if it is the one given. -/
def skipIf (token : Token) : Reader Bool := do
  if (← peek) = some token then
    skip
    return true
  else
    return false

/-- Passes over the next token, which has to be the one given. -/
def expect (token : Token) : Reader Unit := do
  if ← skipIf token then return else failure

/-- Gives a value a name, if there is one. -/
def bindAnchor (name : Option String) (node : Node) : Reader Unit :=
  modify fun reading =>
    { reading with anchors := (name.map fun name => (name, node)).toList ++ reading.anchors }

/-- The value with a name. -/
def resolve (name : String) : Reader Node := do
  match (← get).anchors.lookup name with
  | some node => return node
  | none => failure

/-- The full form of a tag. -/
def fullTag (handle suffix : String) : Reader String := do
  if handle.isEmpty then
    return suffix
  else
    match (← get).handles.lookup handle with
    | some start => return start ++ suffix
    | none => failure

/-- The anchor and the tag in front of a value, which may come in either order. -/
def properties : Reader (Option String × Option String) := do
  match ← peek with
  | some (.anchor name) =>
    skip
    match ← peek with
    | some (.tag handle suffix) =>
      skip
      return (some name, some (← fullTag handle suffix))
    | _ => return (some name, none)
  | some (.tag handle suffix) =>
    skip
    match ← peek with
    | some (.anchor name) =>
      skip
      return (some name, some (← fullTag handle suffix))
    | _ => return (none, some (← fullTag handle suffix))
  | _ => return (none, none)

/-- Whether no value comes next, but one of these tokens or the end. -/
def atAny (tokens : List Token) : Reader Bool := do
  match ← peek with
  | some token => return tokens.contains token
  | none => return false

mutual

/-- A value. One that is not in brackets may be a collection of lines, and a sequence that is the
value of a key may be indented as far as the key. -/
def node (inBlock sameIndent : Bool) : (fuel : Nat) → Reader Node
  | 0 => failure
  | fuel + 1 => do
    match ← peek with
    | some (.reference name) =>
      skip
      resolve name
    | _ =>
      let (anchor, tag) ← properties
      let collection (start : Reader Unit) (rest : Reader Node) : Reader Node := do
        bindAnchor anchor .enclosing
        start
        let node ← rest
        bindAnchor anchor node
        return node
      match ← peek, inBlock, sameIndent with
      | some .blockEntry, _, true =>
        collection (pure ()) (return .sequence (← lineItems fuel))
      | some (.scalar style text), _, _ =>
        skip
        let node := .scalar style tag text
        bindAnchor anchor node
        return node
      | some .flowSequenceStart, _, _ =>
        collection skip (return .sequence (← flowItems true fuel))
      | some .flowMappingStart, _, _ =>
        collection skip (return .mapping (← flowMembers true fuel))
      | some .blockSequenceStart, true, _ =>
        collection skip (return .sequence (← blockItems fuel))
      | some .blockMappingStart, true, _ =>
        collection skip (return .mapping (← blockMembers fuel))
      | _, _, _ =>
        if anchor.isNone && tag.isNone then failure
        let node := .scalar .plain tag ""
        bindAnchor anchor node
        return node

/-- A value, or the empty one if one of these tokens comes next. -/
def nodeUnless (inBlock sameIndent : Bool) (tokens : List Token) : (fuel : Nat) → Reader Node
  | 0 => failure
  | fuel + 1 => do
    if ← atAny tokens then return .empty else node inBlock sameIndent fuel

/-- The items of a sequence that is indented. -/
def blockItems : (fuel : Nat) → Reader (List Node)
  | 0 => failure
  | fuel + 1 => do
    if ← skipIf .blockEntry then
      let item ← nodeUnless true false [.blockEntry, .blockEnd] fuel
      return item :: (← blockItems fuel)
    else
      expect .blockEnd
      return []

/-- The items of a sequence that is indented as far as its key. -/
def lineItems : (fuel : Nat) → Reader (List Node)
  | 0 => failure
  | fuel + 1 => do
    if ← skipIf .blockEntry then
      let item ← nodeUnless true false [.blockEntry, .key, .value, .blockEnd] fuel
      return item :: (← lineItems fuel)
    else
      return []

/-- The members of a mapping that is indented. -/
def blockMembers : (fuel : Nat) → Reader (List (Node × Node))
  | 0 => failure
  | fuel + 1 => do
    if ← skipIf .key then
      let key ← nodeUnless true true [.key, .value, .blockEnd] fuel
      let value ← memberValue true [.key, .value, .blockEnd] fuel
      return (key, value) :: (← blockMembers fuel)
    else
      expect .blockEnd
      return []

/-- The value of a member. It is empty if no colon comes next. -/
def memberValue (inBlock : Bool) (tokens : List Token) : (fuel : Nat) → Reader Node
  | 0 => failure
  | fuel + 1 => do
    if ← skipIf .value then nodeUnless inBlock inBlock tokens fuel else return .empty

/-- The items of a sequence in brackets. -/
def flowItems (first : Bool) : (fuel : Nat) → Reader (List Node)
  | 0 => failure
  | fuel + 1 => do
    if ← skipIf .flowSequenceEnd then
      return []
    else
      if !first then expect .flowEntry
      if ← skipIf .flowSequenceEnd then
        return []
      else if ← skipIf .key then
        let key ← nodeUnless false false [.value, .flowEntry, .flowSequenceEnd] fuel
        let value ← memberValue false [.flowEntry, .flowSequenceEnd] fuel
        return .mapping [(key, value)] :: (← flowItems false fuel)
      else
        let item ← node false false fuel
        return item :: (← flowItems false fuel)

/-- The members of a mapping in brackets. One without a colon has an empty value. -/
def flowMembers (first : Bool) : (fuel : Nat) → Reader (List (Node × Node))
  | 0 => failure
  | fuel + 1 => do
    if ← skipIf .flowMappingEnd then
      return []
    else
      if !first then expect .flowEntry
      if ← skipIf .flowMappingEnd then
        return []
      else if ← skipIf .key then
        let key ← nodeUnless false false [.value, .flowEntry, .flowMappingEnd] fuel
        let value ← memberValue false [.flowEntry, .flowMappingEnd] fuel
        return (key, value) :: (← flowMembers false fuel)
      else
        let key ← node false false fuel
        return (key, .empty) :: (← flowMembers false fuel)

end

/-! ## Documents -/

/-- The handles of tags that need no directive. -/
def commonHandles : List (String × String) :=
  [("!", "!"), ("!!", "tag:yaml.org,2002:")]

/-- The directives in front of a document. Each may be given once. -/
def directives (versioned : Bool) (handles : List (String × String)) :
    (fuel : Nat) → Reader (List (String × String))
  | 0 => failure
  | fuel + 1 => do
    match ← peek with
    | some (.version major minor) =>
      if versioned || major ≠ 1 || (minor ≠ 1 && minor ≠ 2) then failure
      skip
      directives true handles fuel
    | some (.tagHandle handle start) =>
      if (handles.lookup handle).isSome then failure
      skip
      directives versioned (handles ++ [(handle, start)]) fuel
    | _ => return handles

/-- Whether the content of a document ends here. -/
def atDocumentEnd : Reader Bool := do
  match ← peek with
  | none | some (.version _ _) | some (.tagHandle _ _) | some .documentStart | some .documentEnd =>
    return true
  | some _ => return false

/-- Begins a document with these handles. -/
def beginDocument (handles : List (String × String)) : Reader Unit :=
  modify fun reading => { reading with anchors := [], handles := handles ++ commonHandles }

/-- The documents that are left. All but the first one need a mark where they start. -/
def documents (first : Bool) : (fuel : Nat) → Reader (List Node)
  | 0 => failure
  | fuel + 1 => do
    let passed ← if first then pure false else skipIf .documentEnd
    if passed then
      documents false fuel
    else
      match ← peek with
      | none => return []
      | some token =>
        let marked :=
          match token with
          | .version _ _ | .tagHandle _ _ | .documentStart => true
          | _ => false
        let document ←
          if first && !marked then do
            beginDocument []
            node true false fuel
          else do
            beginDocument (← directives false [] fuel)
            expect .documentStart
            if ← atDocumentEnd then pure .empty else node true false fuel
        let _ ← skipIf .documentEnd
        return document :: (← documents false fuel)

end Reader

/-- The documents of a text. -/
def documents? (text : String) : Option (List Node) := do
  let tokens ← tokens? text.toList
  let (documents, _) ← (Reader.documents true (4 * tokens.length + 4)).run ⟨tokens, [], []⟩
  return documents

end Rolebook.Yaml
