import Rolebook.Proofs.Phrase.Removal

/-!
# The grammar of commands

What a text has to look like to be a command, said by its segments alone. The segments at even
places hold the keywords: each of them begins a word, and those of one segment stand in their order
and apart from each other. The segments at odd places are names if something is in them and a quote
closes them.

`Suits` says this of the tokens of a shape, by places, and `Reading.commandIn` reads the command off
the same places. `parse?_follows_grammar` says that parsing is neither more nor less: the first
shape that suits the segments makes the command, which is also what the patterns of the shapes
capture.
-/

namespace Rolebook.Phrase

open Rolebook.Text (isWord)

/-! ## Keywords in a segment -/

instance decidableSpells : (letters word : List Char) → Decidable (Spells letters word)
  | [], [] => .isTrue trivial
  | lower :: letters, c :: word =>
    have := decidableSpells letters word
    inferInstanceAs (Decidable (isLetter lower c = true ∧ Spells letters word))
  | [], _ :: _ => .isFalse id
  | _ :: _, [] => .isFalse id

/-- The keywords of which a token asks for one. -/
def Token.keywords : Token → List String
  | .keyword letters => [letters]
  | .removalVerb => removalVerbs
  | .name | .description => []

/-- One of the keywords takes up the characters of a segment from `start` to `stop`, and the
character before it, if the segment has one, belongs to no word. -/
def OccursAt (keywords : List String) (segment : List Char) (start stop : Nat) : Prop :=
  (∃ letters ∈ keywords, Spells letters.toList ((segment.take stop).drop start)) ∧
    (segment.take start).getLast?.any isWord = false

instance (keywords : List String) (segment : List Char) (start stop : Nat) :
    Decidable (OccursAt keywords segment start stop) :=
  inferInstanceAs (Decidable (_ ∧ _))

/-- Keywords occur in a segment from a place on, in their order and none before the one in front of
it has ended. -/
def InOrder : List (List String) → List Char → Nat → Prop
  | [], _, _ => True
  | keywords :: others, segment, place =>
    ∃ start ≤ segment.length, ∃ stop ≤ segment.length, place ≤ start ∧ start ≤ stop ∧
      OccursAt keywords segment start stop ∧ InOrder others segment stop

instance decidableInOrder : (words : List (List String)) → (segment : List Char) → (place : Nat) →
    Decidable (InOrder words segment place)
  | [], _, _ => .isTrue trivial
  | keywords :: others, segment, place =>
    have := decidableInOrder others segment
    inferInstanceAs
      (Decidable (∃ start ≤ segment.length, ∃ stop ≤ segment.length, place ≤ start ∧ start ≤ stop ∧
      OccursAt keywords segment start stop ∧ InOrder others segment stop))

/-! ## Shapes and segments -/

/-- The keywords of a phrase, taken apart at its names. -/
def groups : List Token → List (List Token)
  | [] => [[]]
  | .name :: tokens => [] :: groups tokens
  | .description :: tokens => groups tokens
  | token :: tokens => (groups tokens).modifyHead (token :: ·)

/-- What the segment behind a number of names has to hold. -/
def wordsBehind (tokens : List Token) (number : Nat) : List (List String) :=
  ((groups tokens).getD number []).map Token.keywords

/-- The name at a place among the segments: something is in it, and it is not the last segment, so a
quote closes it. -/
def nameAt? (parts : List (List Char)) (place : Nat) : Option String :=
  match parts.drop place with
  | name :: _ :: _ => if name = [] then none else some (String.ofList name)
  | _ => none

/-- The names of a phrase are at the odd places of its segments, and its keywords at the even places
around them. -/
def Suits (tokens : List Token) (parts : List (List Char)) : Prop :=
  (∀ number < tokens.count .name, (nameAt? parts (2 * number + 1)).isSome) ∧
    ∀ number ≤ tokens.count .name,
      InOrder (wordsBehind tokens number) (parts.getD (2 * number) []) 0

instance (tokens : List Token) (parts : List (List Char)) : Decidable (Suits tokens parts) :=
  inferInstanceAs (Decidable (_ ∧ _))

/-- The description of a new permission: the second name, if the word "description" stands between
it and the first one. -/
def description? (parts : List (List Char)) : Option String :=
  if InOrder [["description"]] (parts.getD 2 []) 0 then nameAt? parts 3 else none

/-- The command that a reading makes of segments: the first name is at place 1 and the second one at
place 3. -/
def Reading.commandIn (parts : List (List Char)) : Reading → Option Command
  | .newPermission => do return .createPermission (← nameAt? parts 1) (description? parts)
  | .newRole => do return .createRole (← nameAt? parts 1)
  | .removeRoleFirst => do
    let role ← nameAt? parts 1
    let permission ← nameAt? parts 3
    return .removePermission role permission
  | .removePermissionFirst => do
    let permission ← nameAt? parts 1
    let role ← nameAt? parts 3
    return .removePermission role permission
  | .assignRoleFirst => do
    let role ← nameAt? parts 1
    let permission ← nameAt? parts 3
    return .assignPermission role permission
  | .assignPermissionFirst => do
    let permission ← nameAt? parts 1
    let role ← nameAt? parts 3
    return .assignPermission role permission

/-! ## Keywords that stand in a segment occur in it in order -/

theorem endsInWord_eq (inWord : Bool) (cs : List Char) :
    endsInWord inWord cs = (cs.getLast?.map isWord).getD inWord := by
  induction cs generalizing inWord with
  | nil => rfl
  | cons c cs ih =>
      rw [endsInWord, ih, List.getLast?_cons]
      cases cs.getLast? <;> rfl

theorem fits_cons_iff {token : Token} (hToken : token ≠ .name ∧ token ≠ .description)
    {tokens : List Token} {inWord : Bool} {segment : List Char} {parts : List (List Char)} :
    Fits (token :: tokens) inWord (segment :: parts) ↔
      Behind token.keywords inWord segment fun inWord rest =>
        Fits tokens inWord (rest :: parts) := by
  cases token with
  | keyword letters => exact Iff.rfl
  | removalVerb => exact Iff.rfl
  | name => exact absurd rfl hToken.1
  | description => exact absurd rfl hToken.2

/-- Whether a word of a segment is a keyword is a matter of its letters and of what stands before
it. -/
theorem occursAt_append {keywords : List String} {before word rest : List Char} :
    OccursAt keywords (before ++ (word ++ rest)) before.length (before.length + word.length) ↔
      (∃ letters ∈ keywords, Spells letters.toList word) ∧ endsInWord false before = false := by
  have hWord : ((before ++ (word ++ rest)).take (before.length + word.length)).drop before.length =
      word := by
    simp [List.take_append]
  have hBefore : (before ++ (word ++ rest)).take before.length = before := by simp
  have hLast : before.getLast?.any isWord = endsInWord false before := by
    rw [endsInWord_eq]
    cases before.getLast? <;> rfl
  rw [OccursAt, hWord, hBefore, hLast]

/-- A text is cut in three by two places in it. -/
theorem exists_cut {cs : List Char} {start stop : Nat} (hOrder : start ≤ stop)
    (hStop : stop ≤ cs.length) :
    ∃ skipped word rest, cs = skipped ++ (word ++ rest) ∧ skipped.length = start ∧
      start + word.length = stop := by
  refine ⟨cs.take start, (cs.drop start).take (stop - start),
    (cs.drop start).drop (stop - start), ?_, ?_, ?_⟩
  · rw [List.take_append_drop, List.take_append_drop]
  · rw [List.length_take]
    omega
  · rw [List.length_take, List.length_drop]
    omega

/-- What is left of a segment behind some characters has the keywords exactly if they occur in the
segment from there on. -/
theorem fits_iff_inOrder {tokens : List Token} (hKeywords : Keywords tokens)
    (before rest : List Char) :
    Fits tokens (endsInWord false before) [rest] ↔
      InOrder (tokens.map Token.keywords) (before ++ rest) before.length := by
  induction tokens generalizing before rest with
  | nil => exact iff_of_true trivial trivial
  | cons token tokens ih =>
      obtain ⟨hToken, hOthers⟩ := List.forall_mem_cons.1 hKeywords
      -- a word that begins outside of words leaves what is behind it to the other keywords
      have hBehind {skipped word : List Char}
          (hOut : endsInWord (endsInWord false before) skipped = false)
          (rest : List Char) :
          Fits tokens (endsInWord false word) [rest] ↔
            InOrder (tokens.map Token.keywords) (before ++ (skipped ++ (word ++ rest)))
              ((before ++ skipped).length + word.length) := by
        have hState : endsInWord false ((before ++ skipped) ++ word) = endsInWord false word := by
          rw [endsInWord_append, endsInWord_append, hOut]
        rw [← hState, ih hOthers, List.length_append]
        simp only [List.append_assoc]
      rw [fits_cons_iff hToken]
      constructor
      · rintro ⟨skipped, word, rest, rfl, hSpells, hOut, hNext⟩
        have hOccurs : OccursAt token.keywords ((before ++ skipped) ++ (word ++ rest))
            (before ++ skipped).length
            ((before ++ skipped).length + word.length) :=
          occursAt_append.2 ⟨hSpells, by rw [endsInWord_append, hOut]⟩
        rw [List.append_assoc] at hOccurs
        refine ⟨(before ++ skipped).length, ?_, (before ++ skipped).length + word.length,
          ?_, ?_, ?_, hOccurs,
          (hBehind hOut rest).1 hNext⟩
        all_goals
          simp only [List.length_append]
          omega
      · rintro ⟨start, hStart, stop, hStop, hPlace, hOrder, hOccurs, hNext⟩
        rw [List.length_append] at hStart hStop
        have hOrder' : start - before.length ≤ stop - before.length := by omega
        have hStop' : stop - before.length ≤ rest.length := by omega
        obtain ⟨skipped, word, rest, rfl, hSkipped, hWord⟩ := exists_cut hOrder' hStop'
        obtain rfl : start = (before ++ skipped).length := by
          rw [List.length_append]
          omega
        obtain rfl : stop = (before ++ skipped).length + word.length := by omega
        rw [← List.append_assoc] at hOccurs
        obtain ⟨hSpells, hOut⟩ := occursAt_append.1 hOccurs
        rw [endsInWord_append] at hOut
        exact ⟨skipped, word, rest, rfl, hSpells, hOut, (hBehind hOut rest).2 hNext⟩

theorem stand_iff_inOrder {tokens : List Token} (hKeywords : Keywords tokens)
    (segment : List Char) :
    Stand tokens segment ↔ InOrder (tokens.map Token.keywords) segment 0 :=
  fits_iff_inOrder hKeywords [] segment

/-! ## Phrases that fit suit the segments -/

theorem groups_append {keywords : List Token} (hKeywords : Keywords keywords)
    (tokens : List Token) :
    groups (keywords ++ tokens) = (groups tokens).modifyHead (keywords ++ ·) := by
  induction keywords with
  | nil =>
      rw [List.nil_append]
      cases groups tokens <;> rfl
  | cons token keywords ih =>
      obtain ⟨hToken, hOthers⟩ := List.forall_mem_cons.1 hKeywords
      have hStep : groups (token :: (keywords ++ tokens)) =
          (groups (keywords ++ tokens)).modifyHead (token :: ·) := by
        cases token with
        | keyword letters => rfl
        | removalVerb => rfl
        | name => exact absurd rfl hToken.1
        | description => exact absurd rfl hToken.2
      rw [List.cons_append, hStep, ih hOthers]
      cases groups tokens <;> rfl

theorem keywords_nil : Keywords [] :=
  fun _ hToken => absurd hToken List.not_mem_nil

theorem count_name_of_keywords {keywords : List Token} (hKeywords : Keywords keywords) :
    keywords.count .name = 0 :=
  List.count_eq_zero.2 fun hName => (hKeywords _ hName).1 rfl

theorem suits_keywords {keywords : List Token} (hKeywords : Keywords keywords) {tail : List Token}
    (hTail : tail = [] ∨ tail = [.description]) {segment : List Char} {parts : List (List Char)} :
    Suits (keywords ++ tail) (segment :: parts) ↔ Stand keywords segment := by
  have hCount : (keywords ++ tail).count .name = 0 := by
    rw [List.count_append, count_name_of_keywords hKeywords]
    rcases hTail with rfl | rfl <;> rfl
  have hWords : wordsBehind (keywords ++ tail) 0 = keywords.map Token.keywords := by
    rw [wordsBehind, groups_append hKeywords]
    rcases hTail with rfl | rfl <;> simp [groups]
  rw [Suits, hCount, stand_iff_inOrder hKeywords]
  simp [hWords]

theorem isSome_nameAt?_one {segment : List Char} {parts : List (List Char)} :
    (nameAt? (segment :: parts) 1).isSome ↔ ∃ name next others, parts = name :: next :: others ∧
      name ≠ [] := by
  rcases parts with _ | ⟨name, _ | ⟨next, others⟩⟩
  · simp [nameAt?]
  · simp [nameAt?]
  · by_cases hName : name = [] <;> simp [nameAt?, hName]

/-- The names behind the first one, and the keywords around them, are two places further on. -/
theorem suits_append_name {keywords tokens : List Token} (hKeywords : Keywords keywords)
    {segment : List Char} {parts : List (List Char)} :
    Suits (keywords ++ .name :: tokens) (segment :: parts) ↔
      Stand keywords segment ∧
        ∃ name next others, parts = name :: next :: others ∧ name ≠ [] ∧
        Suits tokens (next :: others) := by
  have hCount : (keywords ++ .name :: tokens).count .name = tokens.count .name + 1 := by
    rw [List.count_append, count_name_of_keywords hKeywords, List.count_cons_self, Nat.zero_add]
  have hGroups : groups (keywords ++ .name :: tokens) = keywords :: groups tokens := by
    rw [groups_append hKeywords]
    simp [groups]
  have hFront : wordsBehind (keywords ++ .name :: tokens) 0 = keywords.map Token.keywords := by
    rw [wordsBehind, hGroups]
    rfl
  have hBehind (number : Nat) : wordsBehind (keywords ++ .name :: tokens) (number + 1) =
      wordsBehind tokens number := by
    rw [wordsBehind, hGroups]
    rfl
  rw [Suits, hCount, stand_iff_inOrder hKeywords, ← hFront]
  constructor
  · rintro ⟨hNames, hWords⟩
    obtain ⟨name, next, others, rfl, hName⟩ := isSome_nameAt?_one.1 (hNames 0 (Nat.succ_pos _))
    refine ⟨hWords 0 (Nat.zero_le _), name, next, others, rfl, hName, fun number hNumber => ?_,
      fun number hNumber => ?_⟩
    · exact hNames (number + 1) (Nat.succ_lt_succ hNumber)
    · rw [← hBehind]
      exact hWords (number + 1) (Nat.succ_le_succ hNumber)
  · rintro ⟨hStand, name, next, others, rfl, hName, hNames, hWords⟩
    constructor
    · intro number hNumber
      cases number with
      | zero => exact isSome_nameAt?_one.2 ⟨name, next, others, rfl, hName⟩
      | succ number => exact hNames number (Nat.lt_of_succ_lt_succ hNumber)
    · intro number hNumber
      cases number with
      | zero => exact hStand
      | succ number =>
          rw [hBehind]
          exact hWords number (Nat.le_of_succ_le_succ hNumber)

theorem fits_append_description {keywords : List Token} (hKeywords : Keywords keywords)
    {inWord : Bool} {segment : List Char} {parts : List (List Char)} :
    Fits (keywords ++ [.description]) inWord (segment :: parts) ↔
      Fits keywords inWord [segment] := by
  induction keywords generalizing inWord segment with
  | nil => exact Iff.rfl
  | cons token keywords ih =>
      obtain ⟨hToken, hOthers⟩ := List.forall_mem_cons.1 hKeywords
      rw [List.cons_append, fits_cons_iff hToken, fits_cons_iff hToken,
        Behind.congr fun inWord rest => ih hOthers]

/-- The tokens are gone through with the keywords since the last name kept in hand, which all stand
in one segment. -/
theorem fits_append_iff_suits {tokens : List Token} (hShape : WellShaped tokens)
    {keywords : List Token} (hKeywords : Keywords keywords) {segment : List Char}
    {parts : List (List Char)} :
    Fits (keywords ++ tokens) false (segment :: parts) ↔
      Suits (keywords ++ tokens) (segment :: parts) := by
  induction tokens generalizing keywords segment parts with
  | nil =>
      rw [suits_keywords hKeywords (.inl rfl), List.append_nil, fits_keywords hKeywords]
      exact Iff.rfl
  | cons token tokens ih =>
      have hTaken (hToken : token ≠ .name ∧ token ≠ .description) (hTokens : WellShaped tokens) :
          Fits (keywords ++ token :: tokens) false (segment :: parts) ↔
            Suits (keywords ++ token :: tokens) (segment :: parts) := by
        have hMore : Keywords (keywords ++ [token]) :=
          List.forall_mem_append.2 ⟨hKeywords, List.forall_mem_singleton.2 hToken⟩
        have hIff : Fits ((keywords ++ [token]) ++ tokens) false (segment :: parts) ↔
            Suits ((keywords ++ [token]) ++ tokens) (segment :: parts) := ih hTokens hMore
        rwa [List.append_assoc, List.singleton_append] at hIff
      cases token with
      | keyword letters => exact hTaken (by simp) hShape.2
      | removalVerb => exact hTaken (by simp) hShape
      | name =>
          rw [fits_append_name hKeywords, suits_append_name hKeywords]
          refine and_congr Iff.rfl ?_
          have hIff (next : List Char) (others : List (List Char)) :
              Fits tokens false (next :: others) ↔ Suits tokens (next :: others) :=
            ih hShape keywords_nil
          simp only [hIff]
      | description =>
          obtain rfl : tokens = [] := hShape
          rw [suits_keywords hKeywords (.inr rfl), fits_append_description hKeywords]
          exact Iff.rfl

/-- What a phrase with certain tokens has to look like can be said by places alone. -/
theorem fits_iff_suits {tokens : List Token} (hShape : WellShaped tokens) (text : List Char) :
    Fits tokens false (segments text) ↔ Suits tokens (segments text) := by
  obtain ⟨segment, parts, hSegments⟩ := exists_segments_eq_cons text
  rw [hSegments]
  exact fits_append_iff_suits hShape keywords_nil

/-! ## Names that are found are those at the odd places -/

/-- The search for a name finds the one at place 1. -/
theorem nameAt?_one (text : List Char) :
    nameAt? (segments text) 1 = (findName? text).map fun found => String.ofList found.1 := by
  rcases findName?_cases text with ⟨hNone, hEmpty⟩ |
    ⟨first, name, quote, rest, hName, hNonempty, -, hAll⟩
  · rw [hNone, Option.map_none, ← Option.not_isSome_iff_eq_none]
    obtain ⟨segment, parts, hSegments⟩ := exists_segments_eq_cons text
    rw [hSegments, isSome_nameAt?_one]
    rintro ⟨name, next, others, rfl, hNonempty⟩
    exact hNonempty (hEmpty segment name next others hSegments)
  · obtain ⟨next, others, hRest⟩ := exists_segments_eq_cons rest
    rw [hName, hAll, hRest]
    simp [nameAt?, hNonempty]

/-- Whatever is passed over without crossing a quote, the segments behind the first one stay the
same. -/
theorem Ahead.tail_segments {a b : Place} (h : Ahead a b) :
    (segments a.rest).tail = (segments b.rest).tail := by
  induction h with
  | refl => rfl
  | @step before c rest place hQuote _ ih =>
      have hCut : segments (c :: rest) = (segments rest).modifyHead ([c] ++ ·) :=
        segments_append (List.forall_mem_singleton.2 hQuote) rest
      rw [hCut, ← ih]
      cases segments rest <;> rfl

/-- Keywords have no names. -/
theorem names_of_keywords {keywords : List Token} (hKeywords : Keywords keywords) {place : Place}
    {names : List (List Char)} (hNames : findNames? keywords place = some names) : names = [] := by
  induction keywords generalizing place with
  | nil => exact (Option.some.inj hNames).symm
  | cons token keywords ih =>
      obtain ⟨hToken, hOthers⟩ := List.forall_mem_cons.1 hKeywords
      cases token with
      | keyword letters =>
          rw [findNames?_keyword] at hNames
          obtain ⟨behind, -, hBehind⟩ := Option.bind_eq_some_iff.1 hNames
          exact ih hOthers hBehind
      | removalVerb =>
          rw [findNames?_removalVerb] at hNames
          obtain ⟨behind, -, hBehind⟩ := Option.bind_eq_some_iff.1 hNames
          exact ih hOthers hBehind
      | name => exact absurd rfl hToken.1
      | description => exact absurd rfl hToken.2

/-- The name behind some keywords is at place 1, and the search goes on behind the quote that closes
it. -/
theorem names_of_append_name {keywords tokens : List Token} (hKeywords : Keywords keywords)
    (hShape : WellShaped (keywords ++ .name :: tokens)) {place : Place} {names : List (List Char)}
    (hNames : findNames? (keywords ++ .name :: tokens) place = some names) :
    ∃ first name quote rest later, isQuote quote = true ∧
      segments place.rest = first :: name :: segments rest ∧
      name ≠ [] ∧ names = name :: later ∧ findNames? tokens ⟨some quote, rest⟩ = some later := by
  induction keywords generalizing place with
  | nil =>
      rw [List.nil_append] at hNames
      simp only [findNames?] at hNames
      rcases findName?_cases place.rest with ⟨hNone, -⟩ |
        ⟨first, name, quote, rest, hName, hNonempty, hQuote, hAll⟩
      · simp [hNone] at hNames
      · rw [hName] at hNames
        obtain ⟨later, hLater, rfl⟩ := Option.map_eq_some_iff.1 hNames
        exact ⟨first, name, quote, rest, later, hQuote, hAll, hNonempty, rfl, hLater⟩
  | cons token keywords ih =>
      obtain ⟨hToken, hOthers⟩ := List.forall_mem_cons.1 hKeywords
      rw [List.cons_append] at hNames hShape
      -- the keyword that is found stands in the first segment, so the name is the same behind it
      have hStep {words : List String} (hWords : WellFormed words)
          (hTokens : WellShaped (keywords ++ .name :: tokens))
          (hNames : (findKeyword? words place.before place.rest).bind
            (findNames? (keywords ++ .name :: tokens)) =
            some names) :
          ∃ first name quote rest later, isQuote quote = true ∧
            segments place.rest = first :: name :: segments rest ∧
            name ≠ [] ∧ names = name :: later ∧
            findNames? tokens ⟨some quote, rest⟩ = some later := by
        obtain ⟨behind, hFound, hBehind⟩ := Option.bind_eq_some_iff.1 hNames
        obtain ⟨_, name, quote, rest, later, hQuote, hAll, hNonempty, hLater⟩ :=
          ih hOthers hTokens hBehind
        obtain ⟨segment, parts, hSegments⟩ := exists_segments_eq_cons place.rest
        have hTail := (ahead_of_findKeyword? hWords hFound).tail_segments
        rw [hAll, hSegments, List.tail_cons, List.tail_cons] at hTail
        exact ⟨segment, name, quote, rest, later, hQuote, hTail ▸ hSegments, hNonempty, hLater⟩
      cases token with
      | keyword letters =>
          rw [findNames?_keyword] at hNames
          exact hStep (wellFormed_single letters hShape.1) hShape.2 hNames
      | removalVerb =>
          rw [findNames?_removalVerb] at hNames
          exact hStep wellFormed_removalVerbs hShape hNames
      | name => exact absurd rfl hToken.1
      | description => exact absurd rfl hToken.2

theorem isSome_findKeyword?_iff {letters : String}
    (hLetters : LowerLetters letters.toList ∧ letters.toList ≠ []) {before : Char}
    (hBefore : isWord before = false) {text segment : List Char} {parts : List (List Char)}
    (hSegments : segments text = segment :: parts) :
    (findKeyword? [letters] (some before) text).isSome ↔ InOrder [[letters]] segment 0 := by
  have hKeywords : Keywords [.keyword letters] := by simp [Keywords]
  have hShape : WellShaped [.keyword letters] := ⟨hLetters, trivial⟩
  have hFits := findNames?_isSome_iff hShape ⟨some before, text⟩
  rw [findNames?_keyword, show Place.inWord ⟨some before, text⟩ = false from hBefore, hSegments,
    fits_keywords hKeywords] at hFits
  rw [show InOrder [[letters]] segment 0 ↔
    Stand [.keyword letters] segment from (stand_iff_inOrder hKeywords segment).symm,
    Stand, ← hFits]
  cases findKeyword? [letters] (some before) text <;> simp [findNames?]

/-- A description is found exactly where the grammar has it, behind the name of a new permission. -/
theorem names_of_description {quote : Char} (hQuote : isQuote quote = true)
    {first name rest : List Char} {names : List (List Char)}
    (hNames : findNames? [.description] ⟨some quote, rest⟩ = some names) :
    (names.map String.ofList).head? = description? (first :: name :: segments rest) := by
  obtain ⟨segment, parts, hSegments⟩ := exists_segments_eq_cons rest
  have hLetters : LowerLetters "description".toList ∧ "description".toList ≠ [] := by decide
  have hWord := isSome_findKeyword?_iff hLetters (isWord_of_isQuote hQuote) hSegments
  have hDescription : description? (first :: name :: segments rest) =
      if (findKeyword? ["description"] (some quote) rest).isSome then nameAt? (segments rest) 1
        else none := by
    rw [description?, hSegments]
    exact ite_congr (propext hWord.symm) (fun _ => rfl) fun _ => rfl
  rw [hDescription, nameAt?_one]
  simp only [findNames?] at hNames
  cases hFound : findKeyword? ["description"] (some quote) rest with
  | none =>
      rw [hFound] at hNames
      obtain rfl := Option.some.inj hNames
      rfl
  | some behind =>
      -- the word does not take anything from the name behind it
      have hAhead :=
        (ahead_of_findKeyword? (wellFormed_single "description" hLetters) hFound).findName?_eq
      rw [hFound, Option.bind_some, ← hAhead] at hNames
      cases hName : findName? rest with
      | none =>
          rw [hName] at hNames
          obtain rfl := Option.some.inj hNames
          simp
      | some found =>
          rw [hName] at hNames
          obtain rfl := Option.some.inj hNames
          simp

/-! ## Commands -/

/-- What a shape with one name captures: the name at place 1, and the description behind it if it
asks for one. -/
theorem captured_one_name {keywords tail : List Token} (hKeywords : Keywords keywords)
    (hShape : WellShaped (keywords ++ .name :: tail)) {text : List Char} {names : List (List Char)}
    (hNames : namesOf? (keywords ++ .name :: tail) text = some names) :
    ∃ name later, nameAt? (segments text) 1 = some (String.ofList name) ∧ names = name :: later ∧
      (tail = [.description] → (later.map String.ofList).head? = description? (segments text)) := by
  obtain ⟨first, name, quote, rest, later, hQuote, hAll, hNonempty, rfl, hLater⟩ :=
    names_of_append_name hKeywords hShape hNames
  have hAll' : segments text = first :: name :: segments rest := hAll
  obtain ⟨segment, parts, hRest⟩ := exists_segments_eq_cons rest
  refine ⟨name, later, ?_, rfl, ?_⟩
  · rw [hAll', hRest]
    simp [nameAt?, hNonempty]
  · rintro rfl
    rw [hAll']
    exact names_of_description hQuote hLater

theorem wellShaped_of_append {keywords tokens : List Token} (hKeywords : Keywords keywords)
    (hShape : WellShaped (keywords ++ .name :: tokens)) : WellShaped tokens := by
  induction keywords with
  | nil => exact hShape
  | cons token keywords ih =>
      obtain ⟨hToken, hOthers⟩ := List.forall_mem_cons.1 hKeywords
      cases token with
      | keyword letters => exact ih hOthers hShape.2
      | removalVerb => exact ih hOthers hShape
      | name => exact absurd rfl hToken.1
      | description => exact absurd rfl hToken.2

/-- What a shape with two names captures: the names at places 1 and 3. -/
theorem captured_two_names {front between behind : List Token} (hFront : Keywords front)
    (hBetween : Keywords between) (hBehind : Keywords behind)
    (hShape : WellShaped (front ++ .name :: (between ++ .name :: behind))) {text : List Char}
    {names : List (List Char)}
    (hNames : namesOf? (front ++ .name :: (between ++ .name :: behind)) text = some names) :
    ∃ name name', nameAt? (segments text) 1 = some (String.ofList name) ∧
      nameAt? (segments text) 3 = some (String.ofList name') ∧ names = [name, name'] := by
  obtain ⟨first, name, quote, rest, later, -, hAll, hNonempty, rfl, hLater⟩ :=
    names_of_append_name hFront hShape hNames
  obtain ⟨first', name', quote', rest', later', -, hAll', hNonempty', rfl, hLater'⟩ :=
    names_of_append_name hBetween (wellShaped_of_append hFront hShape) hLater
  obtain rfl := names_of_keywords hBehind hLater'
  have hSegments : segments text = first :: name :: first' :: name' :: segments rest' := by
    rw [← hAll']
    exact hAll
  obtain ⟨segment, parts, hRest⟩ := exists_segments_eq_cons rest'
  refine ⟨name, name', ?_, ?_, rfl⟩ <;>
    simp [hSegments, hRest, nameAt?, hNonempty, hNonempty']

/-- Every shape asks for one name, with or without a description, or for two names. -/
theorem tokens_cases {shape : Shape} (hShape : shape ∈ shapes) :
    (∃ keywords tail, Keywords keywords ∧ shape.tokens = keywords ++ .name :: tail ∧
      (shape.reading = .newPermission ∧ tail = [.description] ∨ shape.reading = .newRole)) ∨
    ∃ front between behind, (Keywords front ∧ Keywords between ∧ Keywords behind) ∧
      shape.tokens = front ++ .name :: (between ++ .name :: behind) ∧ shape.reading.arity = 2 := by
  simp only [shapes, List.mem_cons, List.not_mem_nil, or_false] at hShape
  rcases hShape with rfl | rfl | rfl | rfl | rfl | rfl | rfl | rfl | rfl | rfl | rfl | rfl
  · exact .inl ⟨["create", "permission"], [.description], by decide, rfl, .inl ⟨rfl, rfl⟩⟩
  · exact .inl ⟨["create", "role"], [], by decide, rfl, .inr rfl⟩
  · exact .inr ⟨[.removalVerb, "permission"], ["role"], [], by decide, rfl, rfl⟩
  · exact .inr ⟨["role"], [.removalVerb, "permission"], [], by decide, rfl, rfl⟩
  · exact .inr ⟨["role"], ["permission"], [.removalVerb], by decide, rfl, rfl⟩
  · exact .inr ⟨["give", "role"], ["permission"], [], by decide, rfl, rfl⟩
  · exact .inr ⟨["assign", "permission"], ["role"], [], by decide, rfl, rfl⟩
  · exact .inr ⟨["add", "permission"], ["role"], [], by decide, rfl, rfl⟩
  · exact .inr ⟨["role"], ["permission"], [], by decide, rfl, rfl⟩
  · exact .inr ⟨["permission"], ["role"], [], by decide, rfl, rfl⟩
  · exact .inr ⟨[], ["permission"], [], by decide, rfl, rfl⟩
  · exact .inr ⟨[], ["role"], ["permission"], by decide, rfl, rfl⟩

/-- What a shape makes of a text is what the grammar reads off its segments, if the shape suits them
at all. -/
theorem Shape.command?_eq_commandIn {shape : Shape} (hMember : shape ∈ shapes) {text : List Char}
    (hSome : (shape.command? text).isSome) :
    shape.command? text = shape.reading.commandIn (segments text) := by
  have hShape := wellShaped_of_mem_shapes hMember
  unfold Shape.command? at hSome ⊢
  cases hNames : namesOf? shape.tokens text with
  | none => simp [hNames] at hSome
  | some names =>
      rcases tokens_cases hMember with
        ⟨keywords, tail, hKeywords, hTokens, hReading⟩ | ⟨front, between, behind,
          ⟨hFront, hBetween, hBehind⟩, hTokens, hArity⟩
      · rw [hTokens] at hNames hShape
        obtain ⟨name, later, hName, rfl, hDescription⟩ := captured_one_name hKeywords hShape hNames
        rcases hReading with ⟨hReading, hTail⟩ | hReading
        · simp [hReading, Reading.command?, Reading.commandIn, hName, ← hDescription hTail]
        · simp [hReading, Reading.command?, Reading.commandIn, hName]
      · rw [hTokens] at hNames hShape
        obtain ⟨name, name', hName, hName', rfl⟩ :=
          captured_two_names hFront hBetween hBehind hShape hNames
        cases hReading : shape.reading with
        | newPermission => simp [hReading, Reading.arity] at hArity
        | newRole => simp [hReading, Reading.arity] at hArity
        | _ => simp [Reading.command?, Reading.commandIn, hName, hName']

/-- The first result in a list comes from the first element that has one. -/
theorem findSome?_eq_find?_bind {α β : Type} {f g : α → Option β} {p : α → Bool} {elements : List α}
    (hSome : ∀ a ∈ elements, (f a).isSome ↔ p a = true)
    (hSame : ∀ a ∈ elements, (f a).isSome → f a = g a) :
    elements.findSome? f = (elements.find? p).bind g := by
  induction elements with
  | nil => rfl
  | cons a elements ih =>
      rw [List.forall_mem_cons] at hSome hSame
      rw [List.findSome?_cons, List.find?_cons]
      cases hResult : f a with
      | some b =>
          have hFirst := hSame.1 (by simp [hResult])
          simp [hSome.1.1 (by simp [hResult]), ← hFirst, hResult]
      | none =>
          have hSkip : p a = false := by
            rw [← Bool.not_eq_true, ← hSome.1, hResult]
            exact Bool.false_ne_true
          simp only [hSkip]
          exact ih hSome.2 hSame.2

/-- Parsing recognises its grammar and nothing else. A text is a command exactly if the names and
keywords of some shape are at their places among its segments. The first shape of which that is so
decides, its first name being the segment at place 1 and its second one that at place 3, and this is
the command that the patterns of the shapes capture. -/
theorem parse?_follows_grammar (text : String) :
    ((parse? text).isSome ↔ ∃ shape ∈ shapes, Suits shape.tokens (segments text.toList)) ∧
    parse? text =
      ((shapes.find? fun shape => Suits shape.tokens (segments text.toList)).bind fun shape =>
        shape.reading.commandIn (segments text.toList)) ∧
    parse? text = shapes.findSome? fun shape =>
      ((phrasePattern shape.tokens).captures? text.toList).bind fun names =>
        shape.reading.command? (names.map String.ofList) := by
  have hSuits {shape : Shape} (hShape : shape ∈ shapes) :
      (shape.command? text.toList).isSome ↔ Suits shape.tokens (segments text.toList) := by
    rw [Shape.isSome_command?_iff hShape, fits_iff_suits (wellShaped_of_mem_shapes hShape)]
  refine ⟨?_, ?_, parse?_eq_findSome?_captures? text⟩
  · rw [parse?, List.findSome?_isSome_iff]
    exact exists_congr fun shape => and_congr_right fun hShape => hSuits hShape
  · exact findSome?_eq_find?_bind (fun shape hShape => by simpa using hSuits hShape)
      fun shape hShape => Shape.command?_eq_commandIn hShape

/-- A quote of either kind closes a name, and an empty span is none, so there is no description
here. -/
example :
    Suits ["create", "permission", .name, .description]
      (segments "CREATE permi\u017F\u017Fion \"read' description ''".toList) ∧
      description? (segments "CREATE permi\u017F\u017Fion \"read' description ''".toList) =
        none := by
  decide +kernel

end Rolebook.Phrase
