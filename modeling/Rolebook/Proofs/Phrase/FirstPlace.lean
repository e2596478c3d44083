import Rolebook.Phrase.Command

/-!
# The first place is enough

The search for the names of a phrase takes the first place at which each token stands, while a
pattern goes back to later places if the rest does not match behind the first.
`namesOf?_eq_captures?` says that both find the same names. A later place has less of the text
behind it, up to the same quote, so what fails behind the first place fails behind it too.
-/

namespace Rolebook.Phrase

open Rolebook.Text (isWord)

/-! ## Places one behind the other -/

/-- One place is another one or stands behind it in the text, with no quote between them. -/
inductive Ahead : Place → Place → Prop
  | refl (place : Place) : Ahead place place
  | step {before : Option Char} {c : Char} {rest : List Char} {place : Place} :
      isQuote c = false → Ahead ⟨some c, rest⟩ place → Ahead ⟨before, c :: rest⟩ place

theorem Ahead.trans {a b c : Place} (hab : Ahead a b) (hbc : Ahead b c) : Ahead a c := by
  induction hab with
  | refl => exact hbc
  | step h _ ih => exact .step h (ih hbc)

/-- What begins at the next quote is the same at both places. -/
theorem Ahead.dropWhile_eq {a b : Place} (h : Ahead a b) :
    a.rest.dropWhile (fun c => !isQuote c) = b.rest.dropWhile (fun c => !isQuote c) := by
  induction h with
  | refl => rfl
  | step hc _ ih => simpa [List.dropWhile_cons, hc] using ih

theorem Ahead.findName?_eq {a b : Place} (h : Ahead a b) : findName? a.rest = findName? b.rest := by
  unfold findName?
  rw [h.dropWhile_eq]

/-! ## Letters -/

/-- The letters that keywords are written with. -/
def alphabet : List Char :=
  "abcdefghijklmnopqrstuvwxyz".toList

/-- The letters of a keyword are lower case letters of the alphabet. -/
def LowerLetters (letters : List Char) : Prop :=
  ∀ lower ∈ letters, lower ∈ alphabet

instance (letters : List Char) : Decidable (LowerLetters letters) :=
  decidable_of_iff (letters.all alphabet.contains) (by simp [LowerLetters])

/-- The characters that stand for a letter. -/
def formsOf (lower : Char) : List Char :=
  [lower, lower.toUpper, 'ſ', '\u212A']

theorem mem_formsOf {lower c : Char} (h : isLetter lower c = true) : c ∈ formsOf lower := by
  simp only [isLetter, Bool.or_eq_true, Bool.and_eq_true, beq_iff_eq] at h
  simp only [formsOf, List.mem_cons, List.not_mem_nil, or_false]
  rcases h with ((h | h) | h) | h
  · exact .inl h
  · exact .inr (.inl h)
  · exact .inr (.inr (.inl h.2))
  · exact .inr (.inr (.inr h.2))

/-- A letter of a keyword, in either case, belongs to a word and is no quote. -/
theorem isWord_of_isLetter {lower c : Char} (hlower : lower ∈ alphabet)
    (h : isLetter lower c = true) :
    isWord c = true ∧ isQuote c = false := by
  have table : (alphabet.all fun lower => (formsOf lower).all fun c => isWord c && !isQuote c) =
      true := by
    decide +kernel
  simpa using List.all_eq_true.1 (List.all_eq_true.1 table lower hlower) c (mem_formsOf h)

theorem ahead_of_placeBehind? {letters : List Char} (hletters : LowerLetters letters)
    {before : Option Char} {rest : List Char} {place : Place}
    (h : placeBehind? letters before rest = some place) :
    Ahead ⟨before, rest⟩ place := by
  induction letters generalizing before rest with
  | nil =>
    simp only [placeBehind?, Option.some.injEq] at h
    exact h ▸ .refl _
  | cons lower letters ih =>
    cases rest with
    | nil => simp [placeBehind?] at h
    | cons c rest =>
      simp only [placeBehind?] at h
      split at h
      · rename_i hc
        have hc := isWord_of_isLetter (hletters lower (List.mem_cons_self ..)) hc
        exact .step hc.2 (ih (fun l hl => hletters l (List.mem_cons_of_mem _ hl)) h)
      · simp at h

/-- A character is a form of one letter only. -/
theorem isLetter_unique {a b c : Char} (ha : a ∈ alphabet) (hb : b ∈ alphabet)
    (hac : isLetter a c = true) (hbc : isLetter b c = true) : a = b := by
  have table : (alphabet.all fun a => alphabet.all fun b => (formsOf a).all fun c =>
      !isLetter a c || !isLetter b c || a == b) = true := by
    decide +kernel
  have entry :=
    List.all_eq_true.1 (List.all_eq_true.1 (List.all_eq_true.1 table a ha) b hb) c (mem_formsOf hac)
  simpa [hac, hbc] using entry

/-- Of two keywords that stand at one place one begins with the other. -/
theorem prefix_of_placeBehind? {a b : List Char} (ha : LowerLetters a) (hb : LowerLetters b)
    {before : Option Char} {rest : List Char} (hfirst : (placeBehind? a before rest).isSome)
    (hsecond : (placeBehind? b before rest).isSome) :
    a <+: b ∨ b <+: a := by
  induction a generalizing b before rest with
  | nil => exact .inl (List.nil_prefix)
  | cons x a ih =>
    cases b with
    | nil => exact .inr (List.nil_prefix)
    | cons y b =>
      cases rest with
      | nil => simp [placeBehind?] at hfirst
      | cons c rest =>
        simp only [placeBehind?] at hfirst hsecond
        by_cases hx : isLetter x c = true
        · by_cases hy : isLetter y c = true
          · obtain rfl :=
              isLetter_unique (ha x (List.mem_cons_self ..)) (hb y (List.mem_cons_self ..)) hx hy
            simp only [hx, if_true] at hfirst hsecond
            simpa [List.cons_prefix_cons] using
              ih (fun l hl => ha l (List.mem_cons_of_mem _ hl))
                (fun l hl => hb l (List.mem_cons_of_mem _ hl)) hfirst hsecond
          · simp [hy] at hsecond
        · simp [hx] at hfirst

theorem exclusive_of_not_prefix {a b : List Char} (ha : LowerLetters a) (hb : LowerLetters b)
    (hab : ¬ a <+: b) (hba : ¬ b <+: a) (before : Option Char) (rest : List Char) :
    placeBehind? a before rest = none ∨ placeBehind? b before rest = none := by
  cases hfirst : placeBehind? a before rest with
  | none => exact .inl rfl
  | some _ =>
    cases hsecond : placeBehind? b before rest with
    | none => exact .inr rfl
    | some _ =>
      exact absurd (prefix_of_placeBehind? ha hb (Option.isSome_iff_exists.2 ⟨_, hfirst⟩)
        (Option.isSome_iff_exists.2 ⟨_, hsecond⟩)) (not_or.2 ⟨hab, hba⟩)

/-! ## Keywords -/

/-- No two of the keywords can stand at one place. -/
def Exclusive (keywords : List String) : Prop :=
  keywords.Pairwise fun first second => ∀ before rest,
    placeBehind? first.toList before rest = none ∨ placeBehind? second.toList before rest = none

/-- Keywords of which at most one stands at a place, all in lower case. -/
structure WellFormed (keywords : List String) : Prop where
  lower : ∀ letters ∈ keywords, LowerLetters letters.toList
  spelled : ∀ letters ∈ keywords, letters.toList ≠ []
  exclusive : Exclusive keywords
  nonempty : keywords ≠ []

theorem ahead_of_behindKeyword? {keywords : List String} (hk : WellFormed keywords)
    {place end_ : Place} (h : place.behindKeyword? keywords = some end_) : Ahead place end_ := by
  unfold Place.behindKeyword? at h
  split at h
  · obtain ⟨letters, hmem, h⟩ := List.exists_of_findSome?_eq_some h
    exact ahead_of_placeBehind? (hk.lower letters hmem) h
  · simp at h

theorem ahead_of_findKeyword? {keywords : List String} (hk : WellFormed keywords)
    {before : Option Char} {rest : List Char} {end_ : Place}
    (h : findKeyword? keywords before rest = some end_) :
    Ahead ⟨before, rest⟩ end_ := by
  induction rest generalizing before with
  | nil => exact ahead_of_behindKeyword? hk h
  | cons c rest ih =>
    simp only [findKeyword?] at h
    split at h
    · rename_i place hplace
      simp only [Option.some.injEq] at h
      exact h ▸ ahead_of_behindKeyword? hk hplace
    · split at h
      · simp at h
      · rename_i hc
        exact .step (by simpa using hc) (ih h)

/-- Within a word no keyword begins, so the next one is found behind the letters that are left of
the word. -/
theorem ahead_behind_letters {keywords : List String} (hk : WellFormed keywords)
    {letters : List Char} (hletters : LowerLetters letters) {c : Char} (hc : isWord c = true)
    {rest : List Char} {first second : Place}
    (hfirst : placeBehind? letters (some c) rest = some first)
    (hsecond : findKeyword? keywords (some c) rest = some second) : Ahead first second := by
  induction letters generalizing c rest with
  | nil =>
    simp only [placeBehind?, Option.some.injEq] at hfirst
    exact hfirst ▸ ahead_of_findKeyword? hk hsecond
  | cons lower letters ih =>
    cases rest with
    | nil => simp [placeBehind?] at hfirst
    | cons d rest =>
      simp only [placeBehind?] at hfirst
      split at hfirst
      · rename_i hd
        have hd := isWord_of_isLetter (hletters lower (List.mem_cons_self ..)) hd
        have hnone : Place.behindKeyword? keywords ⟨some c, d :: rest⟩ = none := by
          simp [Place.behindKeyword?, Cursor.atBoundary, hc, hd.1]
        simp only [findKeyword?, hnone, hd.2, Bool.false_eq_true, if_false] at hsecond
        exact ih (fun l hl => hletters l (List.mem_cons_of_mem _ hl)) hd.1 hfirst hsecond
      · simp at hfirst

/-- The place behind a keyword comes before the place behind the next one. -/
theorem ahead_of_next {keywords : List String} (hk : WellFormed keywords) {before : Option Char}
    {c : Char} {rest : List Char} (hc : isQuote c = false) {first second : Place}
    (hfirst : Place.behindKeyword? keywords ⟨before, c :: rest⟩ = some first)
    (hsecond : findKeyword? keywords (some c) rest = some second) : Ahead first second := by
  unfold Place.behindKeyword? at hfirst
  split at hfirst
  · obtain ⟨letters, hmem, hfirst⟩ := List.exists_of_findSome?_eq_some hfirst
    have hletters := hk.lower letters hmem
    cases hl : letters.toList with
    | nil =>
      simp only [hl, placeBehind?, Option.some.injEq] at hfirst
      exact hfirst ▸ .step hc (ahead_of_findKeyword? hk hsecond)
    | cons lower letters =>
      rw [hl] at hfirst hletters
      simp only [placeBehind?] at hfirst
      split at hfirst
      · rename_i hword
        have hword := isWord_of_isLetter (hletters lower (List.mem_cons_self ..)) hword
        exact ahead_behind_letters hk (fun l hl => hletters l (List.mem_cons_of_mem _ hl))
          hword.1 hfirst hsecond
      · simp at hfirst
  · simp at hfirst

/-- If a keyword is found from a later place on, then one is found from the earlier place on, and no
later. -/
theorem findKeyword?_of_ahead {keywords : List String} (hk : WellFormed keywords) {a b : Place}
    (h : Ahead a b) {second : Place}
    (hsecond : findKeyword? keywords b.before b.rest = some second) :
    ∃ first, findKeyword? keywords a.before a.rest = some first ∧ Ahead first second := by
  induction h with
  | refl => exact ⟨second, hsecond, .refl _⟩
  | @step before c rest place hc _ ih =>
    obtain ⟨next, hnext, hahead⟩ := ih hsecond
    cases hplace : Place.behindKeyword? keywords ⟨before, c :: rest⟩ with
    | some first =>
      refine ⟨first, by simp [findKeyword?, hplace], ?_⟩
      exact (ahead_of_next hk hc hplace hnext).trans hahead
    | none => exact ⟨next, by simpa [findKeyword?, hplace, hc] using hnext, hahead⟩

/-! ## Patterns of keywords and names -/

theorem matchAt_letters {α : Type} (letters : List Char) (before : Option Char) (rest : List Char)
    (captures : List (List Char)) (next : Cursor → Option α) :
    (Pattern.sequence (letters.map fun lower => .one (isLetter lower))).matchAt
      ⟨before, rest, captures⟩ next =
      (placeBehind? letters before rest).bind fun place =>
        next ⟨place.before, place.rest, captures⟩ := by
  induction letters generalizing before rest with
  | nil => rfl
  | cons lower letters ih =>
    cases rest with
    | nil => rfl
    | cons c rest =>
      simp only [List.map_cons, Pattern.sequence, List.foldr_cons, Pattern.matchAt, placeBehind?]
      split
      · exact ih (some c) rest
      · rfl

/-- What the alternatives in front of others come to. -/
theorem matchAt_foldl_either {α : Type} (keywords : List String) (pattern : Pattern)
    (cursor : Cursor) (next : Cursor → Option α) :
    (keywords.foldl (fun pattern letters => .either pattern (lettersPattern letters))
      pattern).matchAt cursor next =
      (pattern.matchAt cursor next).or
        (keywords.findSome? fun letters => (lettersPattern letters).matchAt cursor next) := by
  induction keywords generalizing pattern with
  | nil => simp
  | cons letters keywords ih =>
    rw [List.foldl_cons, ih, List.findSome?_cons]
    simp only [Pattern.matchAt]
    cases pattern.matchAt cursor next <;> cases (lettersPattern letters).matchAt cursor next <;>
      simp

/-- At most one of the keywords stands at a place, so it does not matter what stands behind the
others. -/
theorem findSome?_bind {α : Type} {keywords : List String} (h : Exclusive keywords)
    (before : Option Char) (rest : List Char) (next : Place → Option α) :
    (keywords.findSome? fun letters => (placeBehind? letters.toList before rest).bind next) =
      (keywords.findSome? fun letters => placeBehind? letters.toList before rest).bind next := by
  induction keywords with
  | nil => rfl
  | cons letters keywords ih =>
    obtain ⟨hhead, htail⟩ := List.pairwise_cons.1 h
    rw [List.findSome?_cons, List.findSome?_cons, ih htail]
    cases hplace : placeBehind? letters.toList before rest with
    | none => rfl
    | some place =>
      have hnone : (keywords.findSome? fun letters => placeBehind? letters.toList before rest) =
          none := by
        rw [List.findSome?_eq_none_iff]
        intro other hother
        exact (hhead other hother before rest).resolve_left (by simp [hplace])
      simp only [Option.bind_some, hnone, Option.bind_none]
      cases next place <;> rfl

theorem matchAt_keyword {α : Type} {keywords : List String} (hk : WellFormed keywords)
    (place : Place) (captures : List (List Char)) (next : Cursor → Option α) :
    (keywordPattern keywords).matchAt ⟨place.before, place.rest, captures⟩ next =
      (place.behindKeyword? keywords).bind fun place =>
        next ⟨place.before, place.rest, captures⟩ := by
  have hboundary : (Cursor.mk place.before place.rest captures).atBoundary =
      (Cursor.mk place.before place.rest []).atBoundary := rfl
  cases keywords with
  | nil => exact absurd rfl hk.nonempty
  | cons first others =>
    simp only [keywordPattern, Pattern.matchAt, Place.behindKeyword?, hboundary]
    split
    · rw [matchAt_foldl_either, ← findSome?_bind hk.exclusive, List.findSome?_cons]
      simp only [lettersPattern, matchAt_letters]
      cases (placeBehind? first.toList place.before place.rest).bind
        fun place => next ⟨place.before, place.rest, captures⟩ <;> simp
    · rfl

/-- A keyword behind a gap: the first place decides, if nothing matches behind a later place that
does not match behind an earlier one. -/
theorem matchGap_keyword {α : Type} {keywords : List String} (hk : WellFormed keywords)
    (captures : List (List Char)) (next : Cursor → Option α) {behind : Place → Option α}
    (hnext : ∀ place : Place, next ⟨place.before, place.rest, captures⟩ = behind place)
    (hbehind : ∀ a b, Ahead a b → behind a = none → behind b = none) (before : Option Char)
    (rest : List Char) :
    matchGap (fun c => !isQuote c) captures
      (fun cursor => (keywordPattern keywords).matchAt cursor next) before rest =
      (findKeyword? keywords before rest).bind behind := by
  induction rest generalizing before with
  | nil =>
    have h := matchAt_keyword hk ⟨before, []⟩ captures next
    simp only [hnext] at h
    simpa [matchGap, findKeyword?] using h
  | cons c rest ih =>
    have h := matchAt_keyword hk ⟨before, c :: rest⟩ captures next
    simp only [hnext] at h
    rw [matchGap, h, findKeyword?]
    cases hplace : Place.behindKeyword? keywords ⟨before, c :: rest⟩ with
    | none =>
      by_cases hc : isQuote c = true
      · simp [hc]
      · simpa [hc] using ih (some c)
    | some first =>
      cases hfirst : behind first with
      | some result => simp [hfirst]
      | none =>
        by_cases hc : isQuote c = true
        · simp [hc, hfirst]
        · simp only [Option.bind_some, hfirst, hc, Bool.not_false, if_true, ih]
          cases hsecond : findKeyword? keywords (some c) rest with
          | none => rfl
          | some second =>
              exact hbehind _ _ (ahead_of_next hk (by simpa using hc) hplace hsecond) hfirst

/-- A capture that a quote has to follow takes all characters up to the next quote. -/
theorem matchCapture_name {α : Type} (captures : List (List Char)) (next : Cursor → Option α)
    (hnext : ∀ before c rest captures, isQuote c = false →
      next ⟨before, c :: rest, captures⟩ = none)
    (hend : ∀ before captures, next ⟨before, [], captures⟩ = none) (taken rest : List Char) :
    matchCapture (fun c => !isQuote c) captures next taken rest =
      match rest.takeWhile (fun c => !isQuote c), rest.dropWhile (fun c => !isQuote c) with
      | c :: name, quote :: rest =>
        next ⟨(c :: name).getLast?, quote :: rest, captures ++ [taken.reverse ++ c :: name]⟩
      | _, _ => none := by
  induction rest generalizing taken with
  | nil => rfl
  | cons c rest ih =>
    cases hc : isQuote c with
    | true => simp [matchCapture, hc]
    | false =>
      simp only [matchCapture, hc, Bool.not_false, if_true, ih, List.takeWhile_cons,
        List.dropWhile_cons]
      cases rest with
      | nil => simp [hend]
      | cons d rest =>
        cases hd : isQuote d with
        | true => simp [hd]
        | false =>
          simp only [List.takeWhile_cons, List.dropWhile_cons, hd, Bool.not_false, if_true]
          cases hrest : rest.dropWhile (fun c => !isQuote c) with
          | nil => simp [hnext _ d rest _ hd]
          | cons quote rest' =>
            simp only [List.reverse_cons, List.append_assoc, List.cons_append, List.nil_append,
              List.getLast?_cons_cons]
            cases next ⟨(d :: List.takeWhile (fun c => !isQuote c) rest).getLast?, quote :: rest',
              captures ++
                [taken.reverse ++ c :: d :: List.takeWhile (fun c => !isQuote c) rest]⟩ with
            | some result => rfl
            | none => simp [hnext _ d rest _ hd]

/-- A name behind a gap: it begins at the first quote. -/
theorem matchGap_name {α : Type} (captures : List (List Char)) (next : Cursor → Option α)
    (before : Option Char) (rest : List Char) :
    matchGap (fun c => !isQuote c) captures (fun cursor => namePattern.matchAt cursor next)
      before rest =
      (findName? rest).bind fun (name, place) =>
        next ⟨place.before, place.rest, captures ++ [name]⟩ := by
  induction rest generalizing before with
  | nil => rfl
  | cons c rest ih =>
    cases hc : isQuote c with
    | false =>
      have hname : findName? (c :: rest) = findName? rest := by simp [findName?, hc]
      rw [hname, ← ih (some c)]
      simp [matchGap, namePattern, Pattern.sequence, Pattern.matchAt, hc]
    | true =>
      have hcapture := fun taken => matchCapture_name captures
        (fun cursor => (Pattern.sequence [.one isQuote]).matchAt cursor next)
        (by intro before c rest captures hc; simp [Pattern.sequence, Pattern.matchAt, hc])
        (by intro before captures; rfl) taken rest
      simp only [Pattern.sequence, List.foldr_cons, List.foldr_nil] at hcapture
      simp only [matchGap, namePattern, Pattern.sequence, List.foldr_cons, List.foldr_nil,
        Pattern.matchAt, hc,
        if_true, Bool.not_true, Bool.false_eq_true, if_false] at hcapture ⊢
      rw [hcapture []]
      simp only [findName?, List.dropWhile_cons, hc, Bool.not_true, Bool.false_eq_true, if_false]
      cases htake : rest.takeWhile (fun c => !isQuote c) with
      | nil => cases rest.dropWhile (fun c => !isQuote c) <;> rfl
      | cons d name =>
        cases hdrop : rest.dropWhile (fun c => !isQuote c) with
        | nil => rfl
        | cons quote rest' =>
          have hquote : isQuote quote = true := by
            have h := List.head_dropWhile_not (fun c => !isQuote c) (l := rest) (by simp [hdrop])
            simpa [hdrop] using h
          simp [hquote]
          cases next ⟨some quote, rest', captures ++ [d :: name]⟩ <;> rfl

/-! ## Phrases -/

theorem findNames?_keyword (letters : String) (tokens : List Token) (place : Place) :
    findNames? (.keyword letters :: tokens) place =
      (findKeyword? [letters] place.before place.rest).bind (findNames? tokens) := by
  rw [findNames?]
  cases findKeyword? [letters] place.before place.rest <;> rfl

theorem findNames?_removalVerb (tokens : List Token) (place : Place) :
    findNames? (.removalVerb :: tokens) place =
      (findKeyword? removalVerbs place.before place.rest).bind (findNames? tokens) := by
  rw [findNames?]
  cases findKeyword? removalVerbs place.before place.rest <;> rfl

/-- The tokens of a shape: keywords in lower case that are not empty, and a description only at the
end. -/
def WellShaped : List Token → Prop
  | [] => True
  | .keyword letters :: tokens =>
    (LowerLetters letters.toList ∧ letters.toList ≠ []) ∧ WellShaped tokens
  | .removalVerb :: tokens => WellShaped tokens
  | .name :: tokens => WellShaped tokens
  | .description :: tokens => tokens = []

instance decidableWellShaped : (tokens : List Token) → Decidable (WellShaped tokens)
  | [] => .isTrue trivial
  | .keyword letters :: tokens =>
    have := decidableWellShaped tokens
    inferInstanceAs
      (Decidable ((LowerLetters letters.toList ∧ letters.toList ≠ []) ∧ WellShaped tokens))
  | .removalVerb :: tokens => decidableWellShaped tokens
  | .name :: tokens => decidableWellShaped tokens
  | .description :: tokens => inferInstanceAs (Decidable (tokens = []))

theorem wellFormed_single (letters : String)
    (h : LowerLetters letters.toList ∧ letters.toList ≠ []) :
    WellFormed [letters] where
  lower := by simpa using h.1
  spelled := by simpa using h.2
  exclusive := List.pairwise_singleton _ _
  nonempty := by simp

theorem wellFormed_removalVerbs : WellFormed removalVerbs where
  lower := by
    have letters : (removalVerbs.all fun verb => decide (LowerLetters verb.toList)) = true := by
      decide
    simpa using letters
  spelled := by decide
  exclusive := by
    have apart : removalVerbs.Pairwise fun first second =>
        LowerLetters first.toList ∧ LowerLetters second.toList ∧
          ¬ first.toList <+: second.toList ∧ ¬ second.toList <+: first.toList := by
      decide
    exact apart.imp fun ⟨hfirst, hsecond, hnot, hnot'⟩ =>
      exclusive_of_not_prefix hfirst hsecond hnot hnot'
  nonempty := by decide

/-- What fails behind a place fails behind every later one. -/
theorem findNames?_eq_none_of_ahead {tokens : List Token} (hshape : WellShaped tokens) {a b : Place}
    (h : Ahead a b) (hnone : findNames? tokens a = none) : findNames? tokens b = none := by
  induction tokens generalizing a b with
  | nil => simp [findNames?] at hnone
  | cons token tokens ih =>
    have keyword {keywords : List String} (hk : WellFormed keywords) (htokens : WellShaped tokens)
        (hnone : (findKeyword? keywords a.before a.rest).bind (findNames? tokens) = none) :
        (findKeyword? keywords b.before b.rest).bind (findNames? tokens) = none := by
      cases hsecond : findKeyword? keywords b.before b.rest with
      | none => rfl
      | some second =>
        obtain ⟨first, hfirst, hahead⟩ := findKeyword?_of_ahead hk h hsecond
        exact ih htokens hahead (by simpa [hfirst] using hnone)
    cases token with
    | keyword letters =>
      rw [findNames?_keyword] at hnone ⊢
      exact keyword (wellFormed_single letters hshape.1) hshape.2 hnone
    | removalVerb =>
      rw [findNames?_removalVerb] at hnone ⊢
      exact keyword wellFormed_removalVerbs hshape hnone
    | name =>
      simp only [findNames?] at hnone ⊢
      rw [← h.findName?_eq]
      exact hnone
    | description =>
      obtain rfl : tokens = [] := hshape
      simp only [findNames?] at hnone
      split at hnone <;> simp at hnone

/-- A phrase in front of which a gap may stand has the same names by its pattern and by search. -/
theorem matchAt_phrasePattern {tokens : List Token} (hshape : WellShaped tokens) (place : Place)
    (captures : List (List Char)) :
    (phrasePattern tokens).matchAt ⟨place.before, place.rest, captures⟩
      (fun cursor => some cursor.captures) =
      (findNames? tokens place).map (captures ++ ·) := by
  induction tokens generalizing place captures with
  | nil => simp [phrasePattern, Pattern.sequence, Pattern.matchAt, findNames?]
  | cons token tokens ih =>
    have keyword {keywords : List String} (hk : WellFormed keywords) (htokens : WellShaped tokens) :
        matchGap (fun c => !isQuote c) captures
            (fun cursor => (keywordPattern keywords).matchAt cursor fun cursor =>
              (phrasePattern tokens).matchAt cursor fun cursor => some cursor.captures)
            place.before place.rest =
        ((findKeyword? keywords place.before place.rest).bind (findNames? tokens)).map
          (captures ++ ·) := by
      rw [matchGap_keyword hk captures _ (fun place => ih htokens place captures)]
      · cases findKeyword? keywords place.before place.rest <;> rfl
      · intro a b hahead hnone
        simp only [Option.map_eq_none_iff] at hnone ⊢
        exact findNames?_eq_none_of_ahead htokens hahead hnone
    cases token with
    | keyword letters =>
      rw [findNames?_keyword]
      exact keyword (wellFormed_single letters hshape.1) hshape.2
    | removalVerb =>
      rw [findNames?_removalVerb]
      exact keyword wellFormed_removalVerbs hshape
    | name =>
      refine (matchGap_name captures _ place.before place.rest).trans ?_
      simp only [findNames?]
      cases findName? place.rest with
      | none => rfl
      | some found =>
        simp only [Option.bind_some]
        refine (ih hshape found.2 _).trans ?_
        cases findNames? tokens found.2 <;> simp
    | description =>
      obtain rfl : tokens = [] := hshape
      have part := matchGap_keyword (wellFormed_single "description" (by decide)) captures
        (fun cursor => matchGap (fun c => !isQuote c) cursor.captures
          (fun cursor => namePattern.matchAt cursor fun cursor => some cursor.captures)
            cursor.before cursor.rest)
        (fun place => matchGap_name captures (fun cursor => some cursor.captures)
          place.before place.rest)
        (by intro a b hahead hnone; rw [← hahead.findName?_eq]; exact hnone) place.before place.rest
      have whole : (phrasePattern [.description]).matchAt ⟨place.before, place.rest, captures⟩
          (fun cursor => some cursor.captures) =
          some ((((findKeyword? ["description"] place.before place.rest).bind fun place =>
            (findName? place.rest).bind fun found =>
              some (captures ++ [found.1]))).getD captures) := by
        rw [← part]
        simp only [phrasePattern, Pattern.sequence, List.map_cons, List.map_nil,
          List.foldr_cons, List.foldr_nil, Token.patternAfterFiller, Token.pattern, filler,
          Pattern.matchAt]
        split
        · rename_i result hresult
          exact congrArg some (by simp [hresult])
        · rename_i hresult
          simp [hresult]
      rw [whole]
      simp only [findNames?]
      cases findKeyword? ["description"] place.before place.rest with
      | none => simp
      | some found =>
        cases hname : findName? found.rest <;> simp [hname]

theorem namesOf?_eq_captures? {tokens : List Token} (hshape : WellShaped tokens)
    (text : List Char) :
    namesOf? tokens text = (phrasePattern tokens).captures? text := by
  have h := matchAt_phrasePattern hshape ⟨none, text⟩ []
  rw [Pattern.captures?, Cursor.start, h, namesOf?]
  cases findNames? tokens ⟨none, text⟩ <;> simp

theorem wellShaped_of_mem_shapes {shape : Shape} (h : shape ∈ shapes) :
    WellShaped shape.tokens := by
  have table : (shapes.all fun shape => decide (WellShaped shape.tokens)) = true := by
    decide +kernel
  simpa using List.all_eq_true.1 table shape h

/-- The command that a text makes is read off the first shape whose pattern matches. -/
theorem parse?_eq_findSome?_captures? (text : String) :
    parse? text = shapes.findSome? fun shape =>
      ((phrasePattern shape.tokens).captures? text.toList).bind fun names =>
        shape.reading.command? (names.map String.ofList) := by
  unfold parse?
  have step : ∀ shape ∈ shapes, shape.command? text.toList =
      ((phrasePattern shape.tokens).captures? text.toList).bind fun names =>
        shape.reading.command? (names.map String.ofList) := by
    intro shape hshape
    rw [Shape.command?, namesOf?_eq_captures? (wellShaped_of_mem_shapes hshape)]
    cases (phrasePattern shape.tokens).captures? text.toList <;> rfl
  generalize shapes = shapes at step
  induction shapes with
  | nil => rfl
  | cons shape shapes ih =>
    rw [List.findSome?_cons, List.findSome?_cons, step shape (List.mem_cons_self ..),
      ih fun other hother => step other (List.mem_cons_of_mem _ hother)]

end Rolebook.Phrase
