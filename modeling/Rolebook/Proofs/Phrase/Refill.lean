import Rolebook.Proofs.Phrase.Grammar

/-!
# Names never select a command

What stands between two quotes is a name and nothing else: whatever it says, the same words outside
the quotes ask for the same command. `Refilled` relates two texts of which one has other contents in
some of its spans. The grammar looks at a span only to see whether there is something in it
(`SameOutline`), so both texts fit the same shapes, and the first of these takes its names from the
same spans.
-/

namespace Rolebook.Phrase

/-! ## Texts with other names -/

/-- Two texts are the same but for what stands between quotes that open and close a span. What
stands there has no quotes, and a span with something in it has something in it in both texts. -/
inductive Refilled : List Char → List Char → Prop
  | same (text : List Char) : Refilled text text
  | span {outside inside inside' rest rest' : List Char} {opening closing : Char}
      (hOutside : ∀ c ∈ outside, isQuote c = false) (hOpening : isQuote opening = true)
      (hInside : ∀ c ∈ inside, isQuote c = false) (hInside' : ∀ c ∈ inside', isQuote c = false)
      (hEmpty : inside = [] ↔ inside' = []) (hClosing : isQuote closing = true)
      (hRest : Refilled rest rest') :
      Refilled (outside ++ opening :: (inside ++ closing :: rest))
        (outside ++ opening :: (inside' ++ closing :: rest'))

/-- What stands in a span of a text that is cut at its quotes, if the span is closed and not
empty. -/
def spanAt? (parts : List (List Char)) (span : Nat) : Option String :=
  nameAt? parts (2 * span + 1)

/-- A kind of command, and for each slot of it the number of the span that fills the slot. -/
inductive Origin
  | createPermission (name : Nat) (description : Option Nat)
  | createRole (name : Nat)
  | removePermission (role permission : Nat)
  | assignPermission (role permission : Nat)
deriving DecidableEq, Repr

/-- The kind of a command of this origin. -/
def Origin.intent : Origin → Intent
  | .createPermission .. => .createPermission
  | .createRole .. => .createRole
  | .removePermission .. => .removePermission
  | .assignPermission .. => .assignPermission

/-- The command whose slots are filled with what stands in the spans. -/
def Origin.command? (parts : List (List Char)) : Origin → Option Command
  | .createPermission name none => do return .createPermission (← spanAt? parts name) none
  | .createPermission name (some description) => do
    let name ← spanAt? parts name
    let description ← spanAt? parts description
    return .createPermission name (some description)
  | .createRole name => do return .createRole (← spanAt? parts name)
  | .removePermission role permission => do
    let role ← spanAt? parts role
    let permission ← spanAt? parts permission
    return .removePermission role permission
  | .assignPermission role permission => do
    let role ← spanAt? parts role
    let permission ← spanAt? parts permission
    return .assignPermission role permission

/-! ## What the grammar looks at -/

/-- Keywords of letters only. None of them ends in an i, so that nothing but the next letter of a
keyword can follow an i. -/
def Token.IsPlain (token : Token) : Prop :=
  (token ≠ .name ∧ token ≠ .description) ∧ ∀ letters ∈ token.keywords,
    LowerLetters letters.toList ∧ letters.toList ≠ [] ∧ letters.toList.getLast? ≠ some 'i'

instance (token : Token) : Decidable token.IsPlain :=
  inferInstanceAs (Decidable (_ ∧ _))

/-- The same plain keywords stand outside the spans of two texts that are cut at their quotes, and
something is in the same spans. -/
structure SameOutline (parts parts' : List (List Char)) : Prop where
  stand : ∀ tokens : List Token, (∀ token ∈ tokens, token.IsPlain) → ∀ number,
    (Stand tokens (parts.getD (2 * number) []) ↔ Stand tokens (parts'.getD (2 * number) []))
  filled : ∀ span, (spanAt? parts span).isSome = (spanAt? parts' span).isSome

theorem SameOutline.refl (parts : List (List Char)) : SameOutline parts parts :=
  ⟨fun _ _ _ => Iff.rfl, fun _ => rfl⟩

theorem spanAt?_zero (outside inside next : List Char) (parts : List (List Char)) :
    (spanAt? (outside :: inside :: next :: parts) 0).isSome = decide (inside ≠ []) := by
  by_cases hInside : inside = [] <;> simp [spanAt?, nameAt?, hInside]

theorem spanAt?_succ (outside inside : List Char) (parts : List (List Char)) (span : Nat) :
    spanAt? (outside :: inside :: parts) (span + 1) = spanAt? parts span :=
  rfl

/-- A span in front of two texts does not tell them apart if it is empty in both or in none. -/
theorem SameOutline.span {parts parts' : List (List Char)} (h : SameOutline parts parts')
    (hParts : parts ≠ []) (hParts' : parts' ≠ []) (outside : List Char) {inside inside' : List Char}
    (hEmpty : inside = [] ↔ inside' = []) :
    SameOutline (outside :: inside :: parts) (outside :: inside' :: parts') where
  stand tokens hTokens number := by
    cases number with
    | zero => exact Iff.rfl
    | succ number => exact h.stand tokens hTokens number
  filled span := by
    cases span with
    | zero =>
        obtain ⟨next, others, rfl⟩ := List.exists_cons_of_ne_nil hParts
        obtain ⟨next', others', rfl⟩ := List.exists_cons_of_ne_nil hParts'
        rw [spanAt?_zero, spanAt?_zero, decide_eq_decide]
        exact not_congr hEmpty
    | succ span => rw [spanAt?_succ, spanAt?_succ, h.filled span]

theorem segments_ne_nil (text : List Char) : segments text ≠ [] := by
  obtain ⟨segment, parts, hSegments⟩ := exists_segments_eq_cons text
  rw [hSegments]
  exact List.cons_ne_nil segment parts

/-- Characters without a quote, and then a quote, are a segment of their own. -/
theorem segments_append_quote {cs : List Char} (hFree : ∀ c ∈ cs, isQuote c = false) {quote : Char}
    (hQuote : isQuote quote = true) (rest : List Char) :
    segments (cs ++ quote :: rest) = cs :: segments rest := by
  rw [segments_append hFree, segments_quote hQuote, List.modifyHead_cons, List.append_nil]

theorem Refilled.sameOutline {text text' : List Char} (h : Refilled text text') :
    SameOutline (segments text) (segments text') := by
  induction h with
  | same text => exact .refl _
  | span hOutside hOpening hInside hInside' hEmpty hClosing _ ih =>
      rw [segments_append_quote hOutside hOpening, segments_append_quote hOutside hOpening,
        segments_append_quote hInside hClosing, segments_append_quote hInside' hClosing]
      exact ih.span (segments_ne_nil _) (segments_ne_nil _) _ hEmpty

theorem isPlain_of_mem_groups {shape : Shape} (hShape : shape ∈ shapes) (number : Nat) :
    ∀ token ∈ (groups shape.tokens).getD number [], token.IsPlain := by
  have table : ∀ shape ∈ shapes, ∀ group ∈ groups shape.tokens, ∀ token ∈ group, token.IsPlain := by
    decide +kernel
  intro token hToken
  rw [List.getD_eq_getElem?_getD] at hToken
  cases hGroup : (groups shape.tokens)[number]? with
  | none => simp [hGroup] at hToken
  | some group =>
      rw [hGroup, Option.getD_some] at hToken
      exact table shape hShape group (List.mem_of_getElem? hGroup) token hToken

section SameOutline

variable {parts parts' : List (List Char)} (h : SameOutline parts parts')

include h

theorem SameOutline.inOrder_iff {tokens : List Token} (hTokens : ∀ token ∈ tokens, token.IsPlain)
    (number : Nat) :
    InOrder (tokens.map Token.keywords) (parts.getD (2 * number) []) 0 ↔
      InOrder (tokens.map Token.keywords) (parts'.getD (2 * number) []) 0 := by
  have hKeywords : Keywords tokens := fun token hToken => (hTokens token hToken).1
  rw [← stand_iff_inOrder hKeywords, ← stand_iff_inOrder hKeywords]
  exact h.stand tokens hTokens number

/-- A shape suits both texts or none: its keywords stand outside the spans, and its names only have
to be there. -/
theorem SameOutline.suits_iff {shape : Shape} (hShape : shape ∈ shapes) :
    Suits shape.tokens parts ↔ Suits shape.tokens parts' := by
  have hName (number : Nat) : (nameAt? parts (2 * number + 1)).isSome =
      (nameAt? parts' (2 * number + 1)).isSome :=
    h.filled number
  have hWords (number : Nat) :
      InOrder (wordsBehind shape.tokens number) (parts.getD (2 * number) []) 0 ↔
        InOrder (wordsBehind shape.tokens number) (parts'.getD (2 * number) []) 0 :=
    h.inOrder_iff (isPlain_of_mem_groups hShape number) number
  unfold Suits
  simp only [hName, hWords]

end SameOutline

/-- The spans that a reading takes its names from. The second span of a new permission is its
description if the word for it stands in front of the span. -/
def Reading.origin (parts : List (List Char)) : Reading → Origin
  | .newPermission =>
    .createPermission 0
      (if InOrder [["description"]] (parts.getD 2 []) 0 ∧ (spanAt? parts 1).isSome then some 1
        else none)
  | .newRole => .createRole 0
  | .removeRoleFirst => .removePermission 0 1
  | .removePermissionFirst => .removePermission 1 0
  | .assignRoleFirst => .assignPermission 0 1
  | .assignPermissionFirst => .assignPermission 1 0

theorem SameOutline.origin_eq {parts parts' : List (List Char)} (h : SameOutline parts parts')
    (reading : Reading) :
    reading.origin parts = reading.origin parts' := by
  have hPlain : ∀ token ∈ [Token.keyword "description"], token.IsPlain := by decide +kernel
  have hWord : InOrder [["description"]] (parts.getD 2 []) 0 ↔
      InOrder [["description"]] (parts'.getD 2 []) 0 :=
    h.inOrder_iff hPlain 1
  cases reading <;> simp only [Reading.origin, hWord, h.filled]

theorem Reading.commandIn_eq_command? (reading : Reading) (parts : List (List Char)) :
    reading.commandIn parts = (reading.origin parts).command? parts := by
  have hFirst : nameAt? parts 1 = spanAt? parts 0 := rfl
  have hSecond : nameAt? parts 3 = spanAt? parts 1 := rfl
  cases reading with
  | newPermission =>
      rw [Reading.commandIn, Reading.origin, description?, hFirst, hSecond]
      by_cases hWord : InOrder [["description"]] (parts.getD 2 []) 0
      · cases hDescription : spanAt? parts 1 with
        | none =>
            rw [if_pos hWord, if_neg (by simp)]
            rfl
        | some description =>
            rw [if_pos hWord, if_pos ⟨hWord, rfl⟩]
            simp [Origin.command?, hDescription]
      · rw [if_neg hWord, if_neg fun hBoth => hWord hBoth.1]
        rfl
  | newRole | removeRoleFirst | assignRoleFirst => rfl
  | removePermissionFirst | assignPermissionFirst =>
      -- here the slots are not in the order of the spans
      simp only [Reading.commandIn, Reading.origin, Origin.command?, hFirst, hSecond]
      cases spanAt? parts 0 <;> cases spanAt? parts 1 <;> rfl

theorem Origin.intent_of_command? {origin : Origin} {parts : List (List Char)} {command : Command}
    (h : origin.command? parts = some command) : command.intent = origin.intent := by
  cases origin with
  | createPermission name description =>
      cases description <;>
        simp only [Origin.command?, Option.bind_eq_bind, Option.bind_eq_some_iff] at h
      · obtain ⟨_, -, h⟩ := h
        cases h
        rfl
      · obtain ⟨_, -, _, -, h⟩ := h
        cases h
        rfl
  | createRole name =>
      simp only [Origin.command?, Option.bind_eq_bind, Option.bind_eq_some_iff] at h
      obtain ⟨_, -, h⟩ := h
      cases h
      rfl
  | removePermission role permission | assignPermission role permission =>
      simp only [Origin.command?, Option.bind_eq_bind, Option.bind_eq_some_iff] at h
      obtain ⟨_, -, _, -, h⟩ := h
      cases h
      rfl

/-! ## The command is the same -/

theorem Shape.isSome_command?_iff_suits {shape : Shape} (hShape : shape ∈ shapes)
    (text : List Char) :
    (shape.command? text).isSome ↔ Suits shape.tokens (segments text) := by
  rw [Shape.isSome_command?_iff hShape, fits_iff_suits (wellShaped_of_mem_shapes hShape)]

/-- The first shape that suits the segments of a text. -/
def shapeIn? (parts : List (List Char)) : Option Shape :=
  shapes.find? fun shape => Suits shape.tokens parts

/-- It is the first shape that makes a command of the text. -/
theorem shapeIn?_segments (text : List Char) :
    shapeIn? (segments text) = shapes.find? fun shape => (shape.command? text).isSome := by
  unfold shapeIn?
  rw [← List.head?_filter, ← List.head?_filter, List.filter_congr fun shape hShape => ?_]
  rw [Bool.eq_iff_iff, decide_eq_true_iff]
  exact (Shape.isSome_command?_iff_suits hShape text).symm

theorem SameOutline.shapeIn?_eq {parts parts' : List (List Char)} (h : SameOutline parts parts') :
    shapeIn? parts = shapeIn? parts' := by
  unfold shapeIn?
  rw [← List.head?_filter, ← List.head?_filter, List.filter_congr fun shape hShape => ?_]
  rw [decide_eq_decide]
  exact h.suits_iff hShape

theorem parse?_eq_bind (text : String) :
    parse? text = (shapeIn? (segments text.toList)).bind fun shape =>
      (shape.reading.origin (segments text.toList)).command? (segments text.toList) := by
  simp only [← Reading.commandIn_eq_command?]
  exact findSome?_eq_find?_bind
    (fun shape hShape => by simpa using Shape.isSome_command?_iff_suits hShape text.toList)
    fun shape hShape => Shape.command?_eq_commandIn hShape

/-- The origin of the command that a text is. -/
def originOf? (text : String) : Option Origin :=
  (shapeIn? (segments text.toList)).map fun shape => shape.reading.origin (segments text.toList)

theorem parse?_eq_originOf?_bind (text : String) :
    parse? text = (originOf? text).bind fun origin => origin.command? (segments text.toList) := by
  rw [parse?_eq_bind, originOf?]
  cases shapeIn? (segments text.toList) <;> rfl

/-- A text that has a shape is a command. -/
theorem isSome_parse?_of_shapeIn? {text : String} {shape : Shape}
    (h : shapeIn? (segments text.toList) = some shape) :
    (parse? text).isSome := by
  unfold shapeIn? at h
  have hSuits : Suits shape.tokens (segments text.toList) := by simpa using List.find?_some h
  have hMember := List.mem_of_find?_eq_some h
  rw [parse?, List.findSome?_isSome_iff]
  exact ⟨shape, hMember, (Shape.isSome_command?_iff_suits hMember _).2 hSuits⟩

/-- What is written between quotes never selects the command. A text that is a command has an
origin, which says what kind of command it is and which span fills which slot, and every text that
differs from it in the contents of its spans only is the command of the same origin: of the same
kind, with the new contents of the same spans in the same slots. -/
theorem names_never_select_command {text : String} {command : Command}
    (hCommand : parse? text = some command) :
    ∃ origin : Origin, origin.command? (segments text.toList) = some command ∧
      ∀ text' : String, Refilled text.toList text'.toList →
        ∃ command', parse? text' = some command' ∧
          origin.command? (segments text'.toList) = some command' ∧
          command'.intent = command.intent := by
  rw [parse?_eq_bind] at hCommand
  obtain ⟨shape, hShape, hOrigin⟩ := Option.bind_eq_some_iff.1 hCommand
  refine ⟨shape.reading.origin (segments text.toList), hOrigin, fun text' hRefilled => ?_⟩
  have hOutline := hRefilled.sameOutline
  have hShape' : shapeIn? (segments text'.toList) = some shape := hOutline.shapeIn?_eq ▸ hShape
  obtain ⟨command', hCommand'⟩ := Option.isSome_iff_exists.1 (isSome_parse?_of_shapeIn? hShape')
  have hOrigin' := hCommand'
  rw [parse?_eq_bind, hShape', Option.bind_some, ← hOutline.origin_eq] at hOrigin'
  refine ⟨command', hCommand', hOrigin', ?_⟩
  rw [Origin.intent_of_command? hOrigin', Origin.intent_of_command? hOrigin]

/-- A phrase with two plain names. -/
def plainPhrase : String :=
  "for role \"editor\", add permission 'publish' today"

/-- The same phrase with names that are made of the words of other commands. -/
def loudPhrase : String :=
  "for role \"create permission\", add permission 'revoke description from role' today"

theorem unquoted_of_any_eq_false {text : List Char} (hText : text.any isQuote = false) :
    ∀ c ∈ text, isQuote c = false :=
  fun c hMember => by simpa using List.any_eq_false.1 hText c hMember

theorem refilled_loudPhrase : Refilled plainPhrase.toList loudPhrase.toList := by
  have hPlain : plainPhrase.toList = "for role ".toList ++ '"' :: ("editor".toList ++ '"' ::
      (", add permission ".toList ++ '\'' :: ("publish".toList ++ '\'' :: " today".toList))) := by
    decide +kernel
  have hLoud : loudPhrase.toList = "for role ".toList ++
      '"' :: ("create permission".toList ++ '"' ::
      (", add permission ".toList ++
        '\'' :: ("revoke description from role".toList ++ '\'' :: " today".toList))) := by
    decide +kernel
  rw [hPlain, hLoud]
  exact .span (unquoted_of_any_eq_false rfl) rfl (unquoted_of_any_eq_false rfl)
    (unquoted_of_any_eq_false rfl) (by decide) rfl
    (.span (unquoted_of_any_eq_false rfl) rfl (unquoted_of_any_eq_false rfl)
      (unquoted_of_any_eq_false rfl) (by decide) rfl
      (.same _))

theorem names_never_select_command_of_loudPhrase :
    parse? plainPhrase = some (.assignPermission "editor" "publish") ∧
      Refilled plainPhrase.toList loudPhrase.toList ∧
      ∃ origin : Origin,
        origin.command? (segments plainPhrase.toList) =
          some (.assignPermission "editor" "publish") ∧
        ∃ command', parse? loudPhrase = some command' ∧
          origin.command? (segments loudPhrase.toList) = some command' ∧
          command'.intent = .assignPermission := by
  have hPlain : parse? plainPhrase = some (.assignPermission "editor" "publish") := by
    decide +kernel
  obtain ⟨origin, hOrigin, hSame⟩ := names_never_select_command hPlain
  exact ⟨hPlain, refilled_loudPhrase, origin, hOrigin, hSame loudPhrase refilled_loudPhrase⟩

end Rolebook.Phrase
