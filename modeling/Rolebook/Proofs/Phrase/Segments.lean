import Rolebook.Proofs.Phrase.FirstPlace

/-!
# Phrases cut at their quotes

The quotes of a text cut it into segments. Those at odd places are what stands between two quotes,
and a name if there is something there and a quote behind it. Keywords count in the others only.

`Fits` says with these segments, and with no order of search, when a text is a phrase with certain
tokens. A text has names by `namesOf?` exactly if it fits (`namesOf?_isSome_iff`).
-/

namespace Rolebook.Phrase

open Rolebook.Text (isWord)

/-- A text cut at its quotes. -/
def segments (text : List Char) : List (List Char) :=
  text.splitOnP isQuote

/-- Whether some characters end within a word, which began before them if there are none. -/
def endsInWord : Bool → List Char → Bool
  | inWord, [] => inWord
  | _, c :: cs => endsInWord (isWord c) cs

/-- The characters are the letters of a keyword, in either case. -/
def Spells : List Char → List Char → Prop
  | [], [] => True
  | lower :: letters, c :: word => isLetter lower c = true ∧ Spells letters word
  | _, _ => False

/-- Somewhere in a segment a word begins with one of the keywords, and what is left of the segment
is as it has to be. -/
def Behind (keywords : List String) (inWord : Bool) (segment : List Char)
    (next : Bool → List Char → Prop) : Prop :=
  ∃ skipped word rest, segment = skipped ++ (word ++ rest) ∧
    (∃ letters ∈ keywords, Spells letters.toList word) ∧
    endsInWord inWord skipped = false ∧ next (endsInWord false word) rest

/-- The tokens stand in the segments of a text: keywords of one segment in their order and apart
from each other, and each name between two quotes. A description may be there or not. -/
def Fits : List Token → Bool → List (List Char) → Prop
  | [], _, _ => True
  | .keyword letters :: tokens, inWord, segment :: segments =>
    Behind [letters] inWord segment fun inWord rest => Fits tokens inWord (rest :: segments)
  | .removalVerb :: tokens, inWord, segment :: segments =>
    Behind removalVerbs inWord segment fun inWord rest => Fits tokens inWord (rest :: segments)
  | .name :: tokens, _, _ :: name :: segment :: segments =>
    name ≠ [] ∧ Fits tokens false (segment :: segments)
  | .description :: tokens, inWord, segments => Fits tokens inWord segments
  | _, _, _ => False

/-- Keywords stand in a segment, in their order and apart from each other. -/
def Stand (keywords : List Token) (segment : List Char) : Prop :=
  Fits keywords false [segment]

/-! ## Segments of what is left of a text -/

/-- A quote at the start of a text cuts off an empty segment. -/
theorem segments_quote {quote : Char} (hQuote : isQuote quote = true) (text : List Char) :
    segments (quote :: text) = [] :: segments text := by
  rw [segments, List.splitOnP_cons_eq_if_modifyHead, if_pos hQuote]
  rfl

/-- Characters without a quote in front of a text belong to its first segment. -/
theorem segments_append {cs : List Char} (hFree : ∀ c ∈ cs, isQuote c = false) (text : List Char) :
    segments (cs ++ text) = (segments text).modifyHead (cs ++ ·) := by
  unfold segments
  induction cs with
  | nil =>
      rw [List.nil_append]
      cases List.splitOnP isQuote text <;> rfl
  | cons c cs ih =>
      rw [List.forall_mem_cons] at hFree
      rw [List.cons_append, List.splitOnP_cons_eq_if_modifyHead, hFree.1, ih hFree.2]
      cases List.splitOnP isQuote text <;> rfl

/-- A text has a first segment, and unless it is the whole of the text, a quote and the other
segments follow. -/
theorem exists_first_segment (text : List Char) :
    ∃ segment, (∀ c ∈ segment, isQuote c = false) ∧
      (text = segment ∧ segments text = [segment] ∨
        ∃ quote rest, isQuote quote = true ∧ text = segment ++ quote :: rest ∧
          segments text = segment :: segments rest) := by
  induction text with
  | nil => exact ⟨[], by simp, .inl ⟨rfl, rfl⟩⟩
  | cons c text ih =>
      cases hQuote : isQuote c with
      | true =>
          exact ⟨[], by simp, .inr ⟨c, text, hQuote, rfl, segments_quote hQuote text⟩⟩
      | false =>
          have hCut : segments (c :: text) = (segments text).modifyHead ([c] ++ ·) :=
            segments_append (List.forall_mem_singleton.2 hQuote) text
          obtain ⟨segment, hFree, hCases⟩ := ih
          refine ⟨c :: segment, List.forall_mem_cons.2 ⟨hQuote, hFree⟩, ?_⟩
          rcases hCases with ⟨rfl, hSegments⟩ | ⟨quote, rest, hClose, rfl, hSegments⟩
          · exact .inl ⟨rfl, by rw [hCut, hSegments]; rfl⟩
          · exact .inr ⟨quote, rest, hClose, rfl, by rw [hCut, hSegments]; rfl⟩

/-- What stands in the first segment stands at the front of the text. -/
theorem exists_rest_of_segments {text cs rest : List Char} {others : List (List Char)}
    (h : segments text = (cs ++ rest) :: others) :
    (∀ c ∈ cs, isQuote c = false) ∧ ∃ text', text = cs ++ text' ∧
      segments text' = rest :: others := by
  obtain ⟨segment, hFree, hCases⟩ := exists_first_segment text
  have hSegment : segment = cs ++ rest := by
    rcases hCases with ⟨-, hSegments⟩ | ⟨quote, text', -, -, hSegments⟩ <;>
      exact (List.cons.inj (hSegments.symm.trans h)).1
  subst hSegment
  have hFree' : ∀ c ∈ cs, isQuote c = false := fun c hc => hFree c (List.mem_append_left _ hc)
  obtain ⟨text', rfl⟩ : ∃ text', text = cs ++ text' := by
    rcases hCases with ⟨rfl, -⟩ | ⟨quote, text', -, rfl, -⟩
    · exact ⟨rest, rfl⟩
    · exact ⟨rest ++ quote :: text', List.append_assoc ..⟩
  refine ⟨hFree', text', rfl, ?_⟩
  rw [segments_append hFree'] at h
  cases hSegments : segments text' with
  | nil => simp [hSegments] at h
  | cons first others' =>
      rw [hSegments, List.modifyHead_cons, List.cons.injEq] at h
      rw [List.append_cancel_left h.1, h.2]

/-! ## Names -/

theorem dropWhile_eq_nil {cs : List Char} (hFree : ∀ c ∈ cs, isQuote c = false) :
    cs.dropWhile (fun c => !isQuote c) = [] := by
  induction cs with
  | nil => rfl
  | cons c cs ih =>
      rw [List.forall_mem_cons] at hFree
      simp [hFree.1, ih hFree.2]

theorem dropWhile_append_quote {cs : List Char} (hFree : ∀ c ∈ cs, isQuote c = false) {quote : Char}
    (hQuote : isQuote quote = true) (rest : List Char) :
    (cs ++ quote :: rest).dropWhile (fun c => !isQuote c) = quote :: rest := by
  rw [List.dropWhile_append_of_pos (by simpa using hFree)]
  simp [hQuote]

theorem takeWhile_append_quote {cs : List Char} (hFree : ∀ c ∈ cs, isQuote c = false) {quote : Char}
    (hQuote : isQuote quote = true) (rest : List Char) :
    (cs ++ quote :: rest).takeWhile (fun c => !isQuote c) = cs := by
  rw [List.takeWhile_append_of_pos (by simpa using hFree)]
  simp [hQuote]

/-- There is a name exactly if the second segment is not empty and is not the last one. -/
theorem findName?_cases (text : List Char) :
    findName? text = none ∧
      (∀ first name segment others, segments text = first :: name :: segment :: others →
        name = []) ∨
      ∃ first name quote rest, findName? text = some (name, ⟨some quote, rest⟩) ∧ name ≠ [] ∧
        isQuote quote = true ∧
        segments text = first :: name :: segments rest := by
  obtain ⟨first, hFree, ⟨rfl, hSegments⟩ | ⟨quote, text', hQuote, rfl, hSegments⟩⟩ :=
    exists_first_segment text
  · refine .inl ⟨?_, by simp [hSegments]⟩
    simp only [findName?, dropWhile_eq_nil hFree]
  · obtain ⟨name, hFree', ⟨rfl, hSegments'⟩ | ⟨close, rest, hClose, rfl, hSegments'⟩⟩ :=
      exists_first_segment text'
    · refine .inl ⟨?_, by simp [hSegments, hSegments']⟩
      simp only [findName?, dropWhile_append_quote hFree hQuote, dropWhile_eq_nil hFree']
      cases text'.takeWhile fun c => !isQuote c <;> rfl
    · cases name with
      | nil =>
          refine .inl ⟨?_, ?_⟩
          · simp only [findName?, dropWhile_append_quote hFree hQuote,
              takeWhile_append_quote hFree' hClose]
          · intro first' name segment others hOthers
            rw [hSegments, hSegments'] at hOthers
            exact (List.cons.inj (List.cons.inj hOthers).2).1.symm
      | cons c name =>
          refine .inr ⟨first, c :: name, close, rest, ?_, List.cons_ne_nil c name, hClose,
            by rw [hSegments, hSegments']⟩
          simp only [findName?, dropWhile_append_quote hFree hQuote,
            takeWhile_append_quote hFree' hClose,
            dropWhile_append_quote hFree' hClose]

theorem isWord_of_isQuote {c : Char} (h : isQuote c = true) : isWord c = false := by
  simp only [isQuote, Bool.or_eq_true, beq_iff_eq] at h
  rcases h with rfl | rfl <;> decide +kernel

/-! ## Keywords -/

/-- Whether the character before a place belongs to a word. -/
def Place.inWord (place : Place) : Bool :=
  place.before.any isWord

theorem spells_of_placeBehind? {letters : List Char} {before : Option Char} {rest : List Char}
    {place : Place} (h : placeBehind? letters before rest = some place) :
    ∃ word, Spells letters word ∧ rest = word ++ place.rest ∧
      place.inWord = endsInWord (before.any isWord) word := by
  induction letters generalizing before rest with
  | nil =>
      obtain rfl := Option.some.inj h
      exact ⟨[], trivial, rfl, rfl⟩
  | cons lower letters ih =>
      cases rest with
      | nil => cases h
      | cons c rest =>
          simp only [placeBehind?] at h
          split at h
          · next hLetter =>
              obtain ⟨word, hSpells, rfl, hIn⟩ := ih h
              exact ⟨c :: word, ⟨hLetter, hSpells⟩, rfl, hIn⟩
          · cases h

theorem placeBehind?_of_spells {letters word : List Char} (hSpells : Spells letters word)
    (before : Option Char) (rest : List Char) :
    ∃ place, placeBehind? letters before (word ++ rest) = some place ∧ place.rest = rest ∧
      place.inWord = endsInWord (before.any isWord) word := by
  induction letters generalizing word before with
  | nil =>
      cases word with
      | nil => exact ⟨⟨before, rest⟩, rfl, rfl, rfl⟩
      | cons c word => exact hSpells.elim
  | cons lower letters ih =>
      cases word with
      | nil => exact hSpells.elim
      | cons c word =>
          obtain ⟨place, hPlace, hRest, hIn⟩ := ih hSpells.2 (some c)
          refine ⟨place, ?_, hRest, hIn⟩
          rw [List.cons_append, placeBehind?, if_pos hSpells.1, hPlace]

/-- A word that is spelled is made of characters of words. -/
theorem isWord_of_spells {letters word : List Char} (hLower : LowerLetters letters)
    (hSpells : Spells letters word) :
    ∀ c ∈ word, isWord c = true := by
  induction letters generalizing word with
  | nil =>
      cases word with
      | nil => simp
      | cons c word => exact hSpells.elim
  | cons lower letters ih =>
      cases word with
      | nil => exact hSpells.elim
      | cons c word =>
          obtain ⟨hFirst, hOthers⟩ := List.forall_mem_cons.1 hLower
          exact List.forall_mem_cons.2 ⟨(isWord_of_isLetter hFirst hSpells.1).1,
            ih hOthers hSpells.2⟩

theorem ne_nil_of_spells {letters word : List Char} (hLetters : letters ≠ [])
    (hSpells : Spells letters word) : word ≠ [] := by
  rintro rfl
  cases letters with
  | nil => exact hLetters rfl
  | cons lower letters => exact hSpells

/-- A word that is spelled begins with a character of a word and has no quotes. -/
theorem word_of_spells {letters word : List Char} (hLower : LowerLetters letters)
    (hSpells : Spells letters word) :
    (letters ≠ [] → word.head?.any isWord = true) ∧ ∀ c ∈ word, isQuote c = false := by
  have hWord := isWord_of_spells hLower hSpells
  constructor
  · intro hLetters
    obtain ⟨c, word, rfl⟩ := List.exists_cons_of_ne_nil (ne_nil_of_spells hLetters hSpells)
    exact hWord c (List.mem_cons_self ..)
  · intro c hMember
    rw [← Bool.not_eq_true]
    intro hQuote
    have hOutside := isWord_of_isQuote hQuote
    rw [hWord c hMember] at hOutside
    cases hOutside

/-- Of keywords that exclude each other, the one that is spelled at a place is the one that is found
there. -/
theorem findSome?_of_exclusive {keywords : List String} (hExclusive : Exclusive keywords)
    {letters : String} (hLetters : letters ∈ keywords) {before : Option Char} {rest : List Char}
    {place : Place} (hPlace : placeBehind? letters.toList before rest = some place) :
    (keywords.findSome? fun letters => placeBehind? letters.toList before rest) = some place := by
  induction keywords with
  | nil => exact absurd hLetters List.not_mem_nil
  | cons first keywords ih =>
      obtain ⟨hFirst, hOthers⟩ := List.pairwise_cons.1 hExclusive
      rw [List.findSome?_cons]
      rcases List.mem_cons.1 hLetters with rfl | hLetters
      · rw [hPlace]
      · rcases hFirst letters hLetters before rest with hNone | hNone
        · rw [hNone]
          exact ih hOthers hLetters
        · rw [hPlace] at hNone
          cases hNone

/-- The place behind some characters without a quote. -/
theorem exists_ahead_of_append {skipped : List Char} (hFree : ∀ c ∈ skipped, isQuote c = false)
    (before : Option Char) (rest : List Char) :
    ∃ before', Ahead ⟨before, skipped ++ rest⟩ ⟨before', rest⟩ ∧
      before'.any isWord = endsInWord (before.any isWord) skipped := by
  induction skipped generalizing before with
  | nil => exact ⟨before, .refl _, rfl⟩
  | cons c skipped ih =>
      rw [List.forall_mem_cons] at hFree
      obtain ⟨before', hAhead, hIn⟩ := ih hFree.2 (some c)
      exact ⟨before', .step hFree.1 hAhead, hIn⟩

theorem findKeyword?_of_behindKeyword? {keywords : List String} {place behind : Place}
    (h : place.behindKeyword? keywords = some behind) :
    findKeyword? keywords place.before place.rest = some behind := by
  obtain ⟨before, rest⟩ := place
  cases rest with
  | nil => exact h
  | cons c rest => rw [findKeyword?, h]

section Keywords

variable {keywords : List String} (hKeywords : WellFormed keywords)

include hKeywords

/-- A word begins where its first letters are spelled, and it begins in no other word. -/
theorem spells_of_behindKeyword? {place behind : Place}
    (h : place.behindKeyword? keywords = some behind) :
    place.inWord = false ∧ ∃ word, (∃ letters ∈ keywords, Spells letters.toList word) ∧
      place.rest = word ++ behind.rest ∧
      behind.inWord = endsInWord false word := by
  unfold Place.behindKeyword? at h
  split at h
  · next hBoundary =>
      obtain ⟨letters, hLetters, hPlace⟩ := List.exists_of_findSome?_eq_some h
      obtain ⟨word, hSpells, hRest, hIn⟩ := spells_of_placeBehind? hPlace
      obtain ⟨hHead, -⟩ := word_of_spells (hKeywords.lower letters hLetters) hSpells
      -- the first letter belongs to a word, so at a boundary the character before it does not
      have hOut : place.before.any isWord = false := by
        have hHead' : place.rest.head?.any isWord = true := by
          have hWord := hHead (hKeywords.spelled letters hLetters)
          rw [hRest]
          cases word with
          | nil => cases hWord
          | cons c word => exact hWord
        simpa [Cursor.atBoundary, hHead'] using hBoundary
      rw [hOut] at hIn
      exact ⟨hOut, word, ⟨letters, hLetters, hSpells⟩, hRest, hIn⟩
  · cases h

theorem behindKeyword?_of_spells {word : List Char}
    (hSpells : ∃ letters ∈ keywords, Spells letters.toList word) {before : Option Char}
    (hOut : before.any isWord = false) (rest : List Char) :
    ∃ behind, Place.behindKeyword? keywords ⟨before, word ++ rest⟩ = some behind ∧
      behind.rest = rest ∧
      behind.inWord = endsInWord false word := by
  obtain ⟨letters, hLetters, hSpells⟩ := hSpells
  obtain ⟨behind, hPlace, hRest, hIn⟩ := placeBehind?_of_spells hSpells before rest
  obtain ⟨hHead, -⟩ := word_of_spells (hKeywords.lower letters hLetters) hSpells
  rw [hOut] at hIn
  refine ⟨behind, ?_, hRest, hIn⟩
  have hHead' : (word ++ rest).head?.any isWord = true := by
    have hWord := hHead (hKeywords.spelled letters hLetters)
    cases word with
    | nil => cases hWord
    | cons c word => exact hWord
  have hBoundary : (Cursor.mk before (word ++ rest) []).atBoundary = true := by
    rw [Cursor.atBoundary, hOut, hHead']
    rfl
  rw [Place.behindKeyword?, if_pos hBoundary]
  exact findSome?_of_exclusive hKeywords.exclusive hLetters hPlace

theorem spells_of_findKeyword? {before : Option Char} {text : List Char} {behind : Place}
    (h : findKeyword? keywords before text = some behind) :
    ∃ skipped word, text = skipped ++ (word ++ behind.rest) ∧ (∀ c ∈ skipped, isQuote c = false) ∧
      (∃ letters ∈ keywords, Spells letters.toList word) ∧
      endsInWord (before.any isWord) skipped = false ∧
      behind.inWord = endsInWord false word := by
  induction text generalizing before with
  | nil =>
      obtain ⟨hOut, word, hSpells, hRest, hIn⟩ := spells_of_behindKeyword? hKeywords h
      exact ⟨[], word, hRest, by simp, hSpells, hOut, hIn⟩
  | cons c text ih =>
      rw [findKeyword?] at h
      split at h
      · next place hPlace =>
          obtain rfl := Option.some.inj h
          obtain ⟨hOut, word, hSpells, hRest, hIn⟩ := spells_of_behindKeyword? hKeywords hPlace
          exact ⟨[], word, hRest, by simp, hSpells, hOut, hIn⟩
      · split at h
        · cases h
        · next hQuote =>
            obtain ⟨skipped, word, rfl, hFree, hSpells, hOut, hIn⟩ := ih h
            exact ⟨c :: skipped, word, rfl, List.forall_mem_cons.2 ⟨by simpa using hQuote, hFree⟩,
              hSpells, hOut, hIn⟩

/-- What holds behind the first place of a keyword and wherever it holds behind a later one, holds
behind the keyword in the segment. -/
theorem exists_findKeyword?_iff {holds : Place → Prop} {next : Bool → List Char → Prop}
    {before : Option Char} {text segment : List Char} {others : List (List Char)}
    (hSegments : segments text = segment :: others)
    (hNext : ∀ place rest, segments place.rest = rest :: others →
      (holds place ↔ next place.inWord rest))
    (hFirst : ∀ a b, Ahead a b → holds b → holds a) :
    (∃ behind, findKeyword? keywords before text = some behind ∧ holds behind) ↔
      Behind keywords (before.any isWord) segment next := by
  constructor
  · rintro ⟨behind, hFound, hHolds⟩
    obtain ⟨skipped, word, rfl, hFree, hSpells, hOut, hIn⟩ :=
      spells_of_findKeyword? hKeywords hFound
    obtain ⟨letters, hLetters, hLetters'⟩ := hSpells
    have hFree' := (word_of_spells (hKeywords.lower letters hLetters) hLetters').2
    rw [segments_append hFree, segments_append hFree'] at hSegments
    cases hRest : segments behind.rest with
    | nil => simp [hRest] at hSegments
    | cons rest others' =>
        rw [hRest, List.modifyHead_cons, List.modifyHead_cons, List.cons.injEq] at hSegments
        obtain ⟨rfl, rfl⟩ := hSegments
        exact ⟨skipped, word, rest, rfl, ⟨letters, hLetters, hLetters'⟩, hOut,
          hIn ▸ (hNext behind rest hRest).1 hHolds⟩
  · rintro ⟨skipped, word, rest, rfl, hSpells, hOut, hBehind⟩
    obtain ⟨hFree, found, rfl, hFound⟩ := exists_rest_of_segments hSegments
    obtain ⟨-, behind, rfl, hBehind'⟩ := exists_rest_of_segments hFound
    obtain ⟨before', hAhead, hIn⟩ := exists_ahead_of_append hFree before (word ++ behind)
    rw [hOut] at hIn
    obtain ⟨later, hPlace, rfl, hIn'⟩ := behindKeyword?_of_spells hKeywords hSpells hIn behind
    -- the search may stop at an earlier word, but then all the better for what comes behind
    obtain ⟨first, hFirstFound, hAhead'⟩ :=
      findKeyword?_of_ahead hKeywords hAhead (findKeyword?_of_behindKeyword? hPlace)
    refine ⟨first, hFirstFound, hFirst first later hAhead' ((hNext later rest hBehind').2 ?_)⟩
    rw [hIn']
    exact hBehind

end Keywords

/-! ## Phrases -/

theorem exists_segments_eq_cons (text : List Char) :
    ∃ segment others, segments text = segment :: others :=
  List.exists_cons_of_ne_nil (List.splitOnP_ne_nil isQuote text)

theorem fits_name_iff {tokens : List Token} {inWord : Bool} {parts : List (List Char)} :
    Fits (.name :: tokens) inWord parts ↔
      ∃ first name segment others, parts = first :: name :: segment :: others ∧ name ≠ [] ∧
        Fits tokens false (segment :: others) := by
  constructor
  · rcases parts with _ | ⟨first, _ | ⟨name, _ | ⟨segment, others⟩⟩⟩ <;> intro hFits
    · exact hFits.elim
    · exact hFits.elim
    · exact hFits.elim
    · exact ⟨first, name, segment, others, rfl, hFits⟩
  · rintro ⟨first, name, segment, others, rfl, hFits⟩
    exact hFits

/-- The names behind a place are found exactly if the tokens stand in the segments behind it. -/
theorem findNames?_isSome_iff {tokens : List Token} (hShape : WellShaped tokens) (place : Place) :
    (findNames? tokens place).isSome ↔ Fits tokens place.inWord (segments place.rest) := by
  induction tokens generalizing place with
  | nil => exact iff_of_true rfl trivial
  | cons token tokens ih =>
      obtain ⟨segment, others, hSegments⟩ := exists_segments_eq_cons place.rest
      -- both kinds of keywords are found by one search
      have hKeyword {keywords : List String} (hKeywords : WellFormed keywords)
          (hTokens : WellShaped tokens) :
          ((findKeyword? keywords place.before place.rest).bind (findNames? tokens)).isSome ↔
            Behind keywords place.inWord segment fun inWord rest =>
              Fits tokens inWord (rest :: others) := by
        have hFirst : ∀ a b, Ahead a b → (findNames? tokens b).isSome →
            (findNames? tokens a).isSome := by
          intro a b hAhead hSome
          cases hNone : findNames? tokens a with
          | none => simp [findNames?_eq_none_of_ahead hTokens hAhead hNone] at hSome
          | some names => rfl
        refine Iff.trans ?_
          (exists_findKeyword?_iff hKeywords hSegments (fun behind rest hRest => ?_) hFirst)
        · cases findKeyword? keywords place.before place.rest <;> simp
        · rw [ih hTokens, hRest]
      cases token with
      | keyword letters =>
          rw [findNames?_keyword, hSegments]
          exact hKeyword (wellFormed_single letters hShape.1) hShape.2
      | removalVerb =>
          rw [findNames?_removalVerb, hSegments]
          exact hKeyword wellFormed_removalVerbs hShape
      | name =>
          simp only [findNames?]
          rcases findName?_cases place.rest with ⟨hNone, hEmpty⟩ |
            ⟨first, name, quote, rest, hName, hNonempty, hQuote, hAll⟩
          · rw [hNone, fits_name_iff]
            refine iff_of_false (by simp) ?_
            rintro ⟨first, name, segment, others, hAll, hNonempty, -⟩
            exact hNonempty (hEmpty first name segment others hAll)
          · obtain ⟨next, others', hRest⟩ := exists_segments_eq_cons rest
            -- behind the quote that closes a name no word goes on
            have hOut : Place.inWord ⟨some quote, rest⟩ = false := isWord_of_isQuote hQuote
            have hTokens := ih hShape ⟨some quote, rest⟩
            rw [hOut, hRest] at hTokens
            rw [hName, hAll, hRest]
            show _ ↔ name ≠ [] ∧ Fits tokens false (next :: others')
            simp [hTokens, hNonempty]
      | description =>
          obtain rfl : tokens = [] := hShape
          simp only [findNames?]
          refine iff_of_true ?_ trivial
          split <;> rfl

/-- A text is a phrase with certain tokens exactly if they stand in its segments. -/
theorem namesOf?_isSome_iff {tokens : List Token} (hShape : WellShaped tokens) (text : List Char) :
    (namesOf? tokens text).isSome ↔ Fits tokens false (segments text) :=
  findNames?_isSome_iff hShape ⟨none, text⟩

/-- Each name that the tokens ask for is among the names that are found. -/
theorem count_name_le_length {tokens : List Token} {place : Place} {names : List (List Char)}
    (hNames : findNames? tokens place = some names) : tokens.count .name ≤ names.length := by
  induction tokens generalizing place names with
  | nil => exact Nat.zero_le _
  | cons token tokens ih =>
      have hKeyword {behind? : Option Place}
          (hNames : behind?.bind (findNames? tokens) = some names) :
          tokens.count .name ≤ names.length := by
        obtain ⟨behind, -, hBehind⟩ := Option.bind_eq_some_iff.1 hNames
        exact ih hBehind
      cases token with
      | keyword letters =>
          rw [findNames?_keyword] at hNames
          rw [List.count_cons_of_ne (by simp)]
          exact hKeyword hNames
      | removalVerb =>
          rw [findNames?_removalVerb] at hNames
          rw [List.count_cons_of_ne (by simp)]
          exact hKeyword hNames
      | name =>
          simp only [findNames?] at hNames
          split at hNames
          · obtain ⟨others, hOthers, rfl⟩ := Option.map_eq_some_iff.1 hNames
            rw [List.count_cons_self, List.length_cons]
            exact Nat.succ_le_succ (ih hOthers)
          · cases hNames
      | description =>
          rw [List.count_cons_of_ne (by simp)]
          simp only [findNames?] at hNames
          split at hNames
          · obtain ⟨others, hOthers, rfl⟩ := Option.map_eq_some_iff.1 hNames
            exact Nat.le_succ_of_le (ih hOthers)
          · exact ih hNames

/-! ## Keywords in one segment -/

/-- The tokens are keywords. -/
def Keywords (tokens : List Token) : Prop :=
  ∀ token ∈ tokens, token ≠ .name ∧ token ≠ .description

instance (tokens : List Token) : Decidable (Keywords tokens) :=
  inferInstanceAs (Decidable (∀ token ∈ tokens, token ≠ .name ∧ token ≠ .description))

/-- Each token that is a keyword asks for one of certain words in the segment that is in hand. -/
theorem exists_behind {token : Token} (hToken : token ≠ .name ∧ token ≠ .description) :
    ∃ words, ∀ {tokens inWord segment parts},
      Fits (token :: tokens) inWord (segment :: parts) ↔
        Behind words inWord segment fun inWord rest => Fits tokens inWord (rest :: parts) := by
  cases token with
  | keyword letters => exact ⟨[letters], Iff.rfl⟩
  | removalVerb => exact ⟨removalVerbs, Iff.rfl⟩
  | name => exact absurd rfl hToken.1
  | description => exact absurd rfl hToken.2

theorem Behind.congr {keywords : List String} {inWord : Bool} {segment : List Char}
    {next next' : Bool → List Char → Prop}
    (h : ∀ inWord rest, next inWord rest ↔ next' inWord rest) :
    Behind keywords inWord segment next ↔ Behind keywords inWord segment next' := by
  obtain rfl : next = next' := funext fun inWord => funext fun rest => propext (h inWord rest)
  rfl

theorem Behind.and_right {keywords : List String} {inWord : Bool} {segment : List Char}
    {next : Bool → List Char → Prop} {other : Prop} :
    (Behind keywords inWord segment fun inWord rest => next inWord rest ∧ other) ↔
      Behind keywords inWord segment next ∧ other := by
  constructor
  · rintro ⟨skipped, word, rest, hSegment, hSpells, hOut, hNext, hOther⟩
    exact ⟨⟨skipped, word, rest, hSegment, hSpells, hOut, hNext⟩, hOther⟩
  · rintro ⟨⟨skipped, word, rest, hSegment, hSpells, hOut, hNext⟩, hOther⟩
    exact ⟨skipped, word, rest, hSegment, hSpells, hOut, hNext, hOther⟩

/-- Keywords in front of a name stand in the first segment, and the rest of the phrase has no use
for that segment. -/
theorem fits_append_name {keywords tokens : List Token} (hKeywords : Keywords keywords)
    {inWord : Bool} {segment : List Char} {parts : List (List Char)} :
    Fits (keywords ++ .name :: tokens) inWord (segment :: parts) ↔
      Fits keywords inWord [segment] ∧
        ∃ name next others, parts = name :: next :: others ∧ name ≠ [] ∧
        Fits tokens false (next :: others) := by
  induction keywords generalizing inWord segment with
  | nil =>
      rw [List.nil_append, fits_name_iff]
      constructor
      · rintro ⟨first, name, next, others, hParts, hFits⟩
        exact ⟨trivial, name, next, others, (List.cons.inj hParts).2, hFits⟩
      · rintro ⟨-, name, next, others, rfl, hFits⟩
        exact ⟨segment, name, next, others, rfl, hFits⟩
  | cons token keywords ih =>
      obtain ⟨hToken, hOthers⟩ := List.forall_mem_cons.1 hKeywords
      obtain ⟨words, hWords⟩ := exists_behind hToken
      rw [List.cons_append, hWords, hWords, Behind.congr fun inWord rest => ih hOthers,
        Behind.and_right]

/-- Keywords behind the last name stand in the segment behind it. -/
theorem fits_keywords {keywords : List Token} (hKeywords : Keywords keywords) {inWord : Bool}
    {segment : List Char} {parts : List (List Char)} :
    Fits keywords inWord (segment :: parts) ↔ Fits keywords inWord [segment] := by
  induction keywords generalizing inWord segment with
  | nil => exact Iff.rfl
  | cons token keywords ih =>
      obtain ⟨hToken, hOthers⟩ := List.forall_mem_cons.1 hKeywords
      obtain ⟨words, hWords⟩ := exists_behind hToken
      rw [hWords, hWords, Behind.congr fun inWord rest => ih hOthers]

theorem endsInWord_append (inWord : Bool) (cs ds : List Char) :
    endsInWord inWord (cs ++ ds) = endsInWord (endsInWord inWord cs) ds := by
  induction cs generalizing inWord with
  | nil => rfl
  | cons c cs ih => exact ih (isWord c)

/-- Keywords that stand in what is left of a segment stand in the segment. -/
theorem fits_of_rest {keywords : List Token} (hKeywords : Keywords keywords) {inWord : Bool}
    {cs rest : List Char} (h : Fits keywords (endsInWord inWord cs) [rest]) :
    Fits keywords inWord [cs ++ rest] := by
  cases keywords with
  | nil => trivial
  | cons token keywords =>
      obtain ⟨hToken, -⟩ := List.forall_mem_cons.1 hKeywords
      obtain ⟨words, hWords⟩ := exists_behind hToken
      rw [hWords] at h ⊢
      obtain ⟨skipped, word, rest, rfl, hSpells, hOut, hNext⟩ := h
      refine ⟨cs ++ skipped, word, rest, by rw [List.append_assoc], hSpells, ?_, hNext⟩
      rw [endsInWord_append]
      exact hOut

/-- Of keywords that stand in a segment, those behind the first one stand there too. -/
theorem Stand.tail {token : Token} {keywords : List Token}
    (hKeywords : Keywords (token :: keywords)) {segment : List Char}
    (h : Stand (token :: keywords) segment) : Stand keywords segment := by
  obtain ⟨hToken, hOthers⟩ := List.forall_mem_cons.1 hKeywords
  obtain ⟨words, hWords⟩ := exists_behind hToken
  obtain ⟨skipped, word, rest, rfl, -, hOut, hNext⟩ := hWords.1 h
  -- first the word of the keyword is given back to the segment, then what was skipped before it
  refine fits_of_rest hOthers (fits_of_rest hOthers ?_)
  rw [hOut]
  exact hNext

end Rolebook.Phrase
