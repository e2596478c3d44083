import Rolebook.Proofs.Phrase.Refill
import Rolebook.Proofs.Text.LetterCase

/-!
# Segments with the same keywords

Two ways to change a segment of a text leave its keywords where they are: to exchange its characters
for their lowercase forms, and to put characters of no word at its ends. Both are relations of
segments that a keyword can be followed through: wherever it is skipped to in one segment, it can be
skipped to in the other one, and what is left of the two is related again (`Follows`). From one
keyword this goes on to all of a segment (`fits_of_follows`), and each way is gone in both
directions.

Backward through lowercase there is one trap. The capital I with a dot above is no form of i, but
its own form begins with one. What saves the keywords is the dot, which comes next and is no letter
of theirs.
-/

namespace Rolebook.Phrase

open Rolebook.Text (isWord lowercaseForms LowercaseForm)

/-! ## Following keywords from one segment to another -/

/-- A relation of segments that a keyword can be followed through. The flag says whether a word is
under way where the segments begin, and one always is behind a keyword. -/
def Follows (related : Bool → List Char → List Char → Prop) : Prop :=
  ∀ ⦃letters inWord skipped word rest segment⦄, LowerLetters letters → letters ≠ [] →
    letters.getLast? ≠ some 'i' →
    related inWord (skipped ++ (word ++ rest)) segment → Spells letters word →
    endsInWord inWord skipped = false →
      ∃ skipped' word' rest', segment = skipped' ++ (word' ++ rest') ∧ Spells letters word' ∧
        endsInWord inWord skipped' = false ∧ related true rest rest'

theorem endsInWord_of_isWord {cs : List Char} (hNonempty : cs ≠ []) {kind : Bool}
    (hKind : ∀ c ∈ cs, isWord c = kind) (inWord : Bool) : endsInWord inWord cs = kind := by
  rw [endsInWord_eq, List.getLast?_eq_some_getLast hNonempty]
  exact hKind _ (List.getLast_mem hNonempty)

/-- Keywords that stand in a segment stand in every segment that they can be followed to. -/
theorem fits_of_follows {related : Bool → List Char → List Char → Prop} (hFollows : Follows related)
    {tokens : List Token} (hTokens : ∀ token ∈ tokens, token.IsPlain) {inWord : Bool}
    {segment segment' : List Char} (hRelated : related inWord segment segment')
    (hFits : Fits tokens inWord [segment]) : Fits tokens inWord [segment'] := by
  induction tokens generalizing inWord segment segment' with
  | nil => trivial
  | cons token tokens ih =>
      obtain ⟨⟨hToken, hPlain⟩, hOthers⟩ := List.forall_mem_cons.1 hTokens
      rw [fits_cons_iff hToken] at hFits ⊢
      obtain ⟨skipped, word, rest, rfl, ⟨letters, hLetters, hSpells⟩, hOut, hRest⟩ := hFits
      obtain ⟨hLower, hNonempty, hLast⟩ := hPlain letters hLetters
      obtain ⟨skipped', word', rest', rfl, hSpells', hOut', hRelated'⟩ :=
        hFollows hLower hNonempty hLast hRelated hSpells hOut
      have hBehind {word : List Char} (hSpells : Spells letters.toList word) :
          endsInWord false word = true :=
        endsInWord_of_isWord (ne_nil_of_spells hNonempty hSpells)
          (isWord_of_spells hLower hSpells) false
      rw [hBehind hSpells] at hRest
      refine ⟨skipped', word', rest', rfl, ⟨letters, hLetters, hSpells'⟩, hOut', ?_⟩
      rw [hBehind hSpells']
      exact ih hOthers hRelated' hRest

/-! ## Lowercase forms -/

theorem lowercaseForms_of_isLetter {lower c : Char} (hLower : lower ∈ alphabet)
    (hLetter : isLetter lower c = true) {form : List Char} (hForm : form ∈ lowercaseForms c) :
    ∃ d, form = [d] ∧ isLetter lower d = true := by
  have table : (alphabet.all fun lower => (formsOf lower).all fun c => !isLetter lower c ||
      (lowercaseForms c).all fun form => form.length == 1 && form.all (isLetter lower)) = true := by
    decide +kernel
  have hAll := List.all_eq_true.1 (List.all_eq_true.1 table lower hLower) c (mem_formsOf hLetter)
  rw [hLetter, Bool.not_true, Bool.false_or] at hAll
  have hOne := List.all_eq_true.1 hAll form hForm
  rw [Bool.and_eq_true, beq_iff_eq, List.length_eq_one_iff] at hOne
  obtain ⟨⟨d, rfl⟩, hLetter'⟩ := hOne
  exact ⟨d, rfl, by simpa using hLetter'⟩

/-- A character whose form is a letter is that letter itself. -/
theorem isLetter_of_lowercaseForms {lower c d : Char} (hLower : lower ∈ alphabet)
    (hForm : [d] ∈ lowercaseForms c) (hLetter : isLetter lower d = true) :
    isLetter lower c = true := by
  have table :
      (alphabet.all fun lower => (formsOf lower).all fun d => !isLetter lower d || d != 'ς' &&
      Text.lowercaseRuns.all fun run => Nat.blt d.toNat run.target ||
        Nat.blt (run.target + (run.last - run.first)) d.toNat ||
          isLetter lower (Char.ofNat (run.first + (d.toNat - run.target)))) = true := by
    decide +kernel
  have hAll := List.all_eq_true.1 (List.all_eq_true.1 table lower hLower) d (mem_formsOf hLetter)
  rw [hLetter, Bool.not_true, Bool.false_or, Bool.and_eq_true, bne_iff_ne] at hAll
  obtain ⟨hSigma, hRuns⟩ := hAll
  rcases Text.lowercaseForms_cases hForm with hSame | ⟨-, hTwo⟩ |
    ⟨e, hOne, -, ⟨-, rfl⟩ | ⟨run, hRun, hTakes⟩⟩
  · obtain rfl : d = c := by simpa using hSame
    exact hLetter
  · cases hTwo
  · exact absurd (by simpa using hOne) hSigma
  · obtain rfl : d = e := by simpa using hOne
    obtain ⟨⟨hFirst, hLast⟩, -, hImage⟩ := hTakes
    have hSource : run.first + (d.toNat - run.target) = c.toNat := by omega
    have hLetter' := List.all_eq_true.1 hRuns run hRun
    simp only [Bool.or_eq_true, Nat.blt_eq] at hLetter'
    rw [hSource, Char.ofNat_toNat] at hLetter'
    exact hLetter'.resolve_left (by omega)

theorem endsInWord_lowercase {cs ds : List Char} (h : LowercaseForm cs ds) (inWord : Bool) :
    endsInWord inWord ds = endsInWord inWord cs := by
  induction h generalizing inWord with
  | nil => rfl
  | @cons c form cs ds hForm _ ih =>
      have hEnd : endsInWord inWord form = isWord c :=
        endsInWord_of_isWord (Text.lowercaseForms_ne_nil hForm)
          (fun d => Text.isWord_of_mem_lowercaseForms hForm) inWord
      rw [endsInWord_append, hEnd, ih]
      rfl

theorem spells_lowercase {letters word form : List Char} (hLower : LowerLetters letters)
    (hSpells : Spells letters word) (hForm : LowercaseForm word form) : Spells letters form := by
  induction letters generalizing word form with
  | nil =>
      cases hForm with
      | nil => trivial
      | cons => exact hSpells.elim
  | cons lower letters ih =>
      cases hForm with
      | nil => exact hSpells.elim
      | cons hFirst hRest =>
          obtain ⟨hLetter, hOthers⟩ := List.forall_mem_cons.1 hLower
          obtain ⟨d, rfl, hLetter'⟩ := lowercaseForms_of_isLetter hLetter hSpells.1 hFirst
          exact ⟨hLetter', ih hOthers hSpells.2 hRest⟩

theorem follows_lowercase : Follows fun _ segment form => LowercaseForm segment form := by
  intro letters inWord skipped word rest segment hLower _ _ hForm hSpells hOut
  obtain ⟨skipped', front, rfl, hSkipped, hForm'⟩ := hForm.of_append
  obtain ⟨word', rest', rfl, hWord, hRest⟩ := hForm'.of_append
  refine ⟨skipped', word', rest', rfl, spells_lowercase hLower hSpells hWord, ?_, hRest⟩
  rw [endsInWord_lowercase hSkipped, hOut]

/-- A form is cut where its text can be cut too, but for a cut in front of the dot of an i. -/
theorem exists_cut_of_lowercaseForm {cs front back : List Char} {d : Char}
    (hForm : LowercaseForm cs (front ++ d :: back)) (hDot : d ≠ '\u0307') :
    ∃ cs₁ cs₂, cs = cs₁ ++ cs₂ ∧ LowercaseForm cs₁ front ∧ LowercaseForm cs₂ (d :: back) := by
  induction cs generalizing front with
  | nil =>
      cases front with
      | nil => exact ⟨[], [], rfl, .nil, hForm⟩
      | cons f front =>
          obtain ⟨_, _, hNone, -⟩ := hForm.cons_cases
          cases hNone
  | cons c cs ih =>
      cases front with
      | nil => exact ⟨[], c :: cs, rfl, .nil, hForm⟩
      | cons f front =>
          obtain ⟨_, _, hSame, hFirst⟩ := hForm.cons_cases
          obtain ⟨rfl, rfl⟩ := List.cons.inj hSame
          rcases hFirst with ⟨hOne, hRest⟩ | ⟨rfl, rest, hWhole, hTwo, hRest⟩
          · obtain ⟨cs₁, cs₂, rfl, hFront, hBack⟩ := ih hRest
            exact ⟨c :: cs₁, cs₂, rfl, .cons hOne hFront, hBack⟩
          · -- the dot of an i is passed over with the i
            cases front with
            | nil => exact absurd (List.cons.inj hWhole).1 hDot
            | cons dot front =>
                obtain ⟨rfl, rfl⟩ := List.cons.inj hWhole
                obtain ⟨cs₁, cs₂, rfl, hFront, hBack⟩ := ih hRest
                exact ⟨c :: cs₁, cs₂, rfl, .cons hTwo hFront, hBack⟩

theorem isLetter_dot {lower : Char} (hLower : lower ∈ alphabet) :
    isLetter lower '\u0307' = false := by
  have table : (alphabet.all fun lower => !isLetter lower '\u0307') = true := by decide +kernel
  simpa using List.all_eq_true.1 table lower hLower

theorem eq_of_isLetter_i {lower : Char} (hLower : lower ∈ alphabet)
    (hLetter : isLetter lower 'i' = true) : lower = 'i' :=
  isLetter_unique hLower (by decide) hLetter (by decide)

/-- A keyword in the form of a text is the form of a keyword. -/
theorem exists_spells_of_lowercaseForm {letters cs word rest : List Char}
    (hLower : LowerLetters letters) (hLast : letters.getLast? ≠ some 'i')
    (hForm : LowercaseForm cs (word ++ rest)) (hSpells : Spells letters word) :
    ∃ word' rest', cs = word' ++ rest' ∧ Spells letters word' ∧ LowercaseForm rest' rest := by
  induction letters generalizing cs word with
  | nil =>
      cases word with
      | nil => exact ⟨[], cs, rfl, trivial, hForm⟩
      | cons d word => exact hSpells.elim
  | cons lower letters ih =>
      cases word with
      | nil => exact hSpells.elim
      | cons d word =>
          obtain ⟨hLetter, hOthers⟩ := List.forall_mem_cons.1 hLower
          obtain ⟨c, cs, rfl, ⟨hOne, hRest⟩ | ⟨rfl, _, hWhole, -⟩⟩ := hForm.cons_cases
          · have hLast' : letters.getLast? ≠ some 'i' := by
              intro hIs
              rw [List.getLast?_cons, hIs] at hLast
              exact hLast rfl
            obtain ⟨word', rest', rfl, hSpells', hRest'⟩ := ih hOthers hLast' hRest hSpells.2
            exact ⟨c :: word', rest', rfl,
              ⟨isLetter_of_lowercaseForms hLetter hOne hSpells.1, hSpells'⟩, hRest'⟩
          · -- the letter is an i, so the keyword goes on, but not with a dot
            obtain rfl := eq_of_isLetter_i hLetter hSpells.1
            cases letters with
            | nil => exact absurd rfl hLast
            | cons next letters =>
                cases word with
                | nil => exact hSpells.2.elim
                | cons dot word =>
                    obtain ⟨rfl, -⟩ := List.cons.inj hWhole
                    have hDot := isLetter_dot (hOthers next (List.mem_cons_self ..))
                    rw [hSpells.2.1] at hDot
                    cases hDot

theorem follows_lowercase_back : Follows fun _ form segment => LowercaseForm segment form := by
  intro letters inWord skipped word rest segment hLower hNonempty hLast hForm hSpells hOut
  obtain ⟨d, word, rfl⟩ := List.exists_cons_of_ne_nil (ne_nil_of_spells hNonempty hSpells)
  have hDot : d ≠ '\u0307' := by
    rintro rfl
    obtain ⟨lower, letters, rfl⟩ := List.exists_cons_of_ne_nil hNonempty
    have hLetter := isLetter_dot (hLower lower (List.mem_cons_self ..))
    rw [hSpells.1] at hLetter
    cases hLetter
  obtain ⟨skipped', segment', rfl, hSkipped, hBehind⟩ := exists_cut_of_lowercaseForm hForm hDot
  obtain ⟨word', rest', rfl, hSpells', hRest⟩ :=
    exists_spells_of_lowercaseForm hLower hLast hBehind hSpells
  refine ⟨skipped', word', rest', rfl, hSpells', ?_, hRest⟩
  rw [← endsInWord_lowercase hSkipped, hOut]

/-- The keywords of a segment are those of its lowercase form. -/
theorem stand_lowercase_iff {tokens : List Token} (hTokens : ∀ token ∈ tokens, token.IsPlain)
    {segment form : List Char} (hForm : LowercaseForm segment form) :
    Stand tokens form ↔ Stand tokens segment :=
  ⟨fits_of_follows follows_lowercase_back hTokens hForm,
    fits_of_follows follows_lowercase hTokens hForm⟩

/-! ## Characters of no word at the ends -/

/-- A segment with characters of no word put in front of it and behind it, but not in front of it if
a word is under way. -/
def Padded (inWord : Bool) (segment padded : List Char) : Prop :=
  ∃ lead trail, padded = lead ++ (segment ++ trail) ∧ (∀ c ∈ lead, isWord c = false) ∧
    (∀ c ∈ trail, isWord c = false) ∧
    (inWord = true → lead = [])

theorem endsInWord_lead {lead : List Char} (hLead : ∀ c ∈ lead, isWord c = false) {inWord : Bool}
    (hUnderWay : inWord = true → lead = []) : endsInWord inWord lead = inWord := by
  by_cases hNone : lead = []
  · rw [hNone]
    rfl
  · rw [endsInWord_of_isWord hNone hLead, Bool.eq_false_iff.2 (mt hUnderWay hNone)]

theorem follows_padded : Follows Padded := by
  rintro letters inWord skipped word rest _ - - -
    ⟨lead, trail, rfl, hLead, hTrail, hUnderWay⟩ hSpells hOut
  refine ⟨lead ++ skipped, word, rest ++ trail, by simp, hSpells, ?_, [], trail, rfl, by simp,
    hTrail, fun _ => rfl⟩
  rw [endsInWord_append, endsInWord_lead hLead hUnderWay, hOut]

/-- A word does not begin among characters of no word. -/
theorem exists_skipped_of_lead {lead segment skipped word rest : List Char}
    (hLead : ∀ c ∈ lead, isWord c = false) (hNonempty : word ≠ [])
    (hWord : ∀ c ∈ word, isWord c = true) (h : lead ++ segment = skipped ++ (word ++ rest)) :
    ∃ skipped', skipped = lead ++ skipped' ∧ segment = skipped' ++ (word ++ rest) := by
  rcases List.append_eq_append_iff.1 h with ⟨skipped', rfl, hSegment⟩ | ⟨lead', rfl, hWhole⟩
  · exact ⟨skipped', rfl, hSegment⟩
  · obtain ⟨c, word, rfl⟩ := List.exists_cons_of_ne_nil hNonempty
    cases lead' with
    | nil => exact ⟨[], by simp, hWhole.symm⟩
    | cons d lead' =>
        obtain ⟨rfl, -⟩ := List.cons.inj hWhole
        have hNone := hLead c (by simp)
        rw [hWord c (List.mem_cons_self ..)] at hNone
        cases hNone

/-- A word does not end among characters of no word. -/
theorem exists_rest_of_trail {trail segment skipped word rest : List Char}
    (hTrail : ∀ c ∈ trail, isWord c = false) (hNonempty : word ≠ [])
    (hWord : ∀ c ∈ word, isWord c = true) (h : segment ++ trail = skipped ++ (word ++ rest)) :
    ∃ rest', rest = rest' ++ trail ∧ segment = skipped ++ (word ++ rest') := by
  -- the same from the other end
  have hReversed : trail.reverse ++ segment.reverse =
      rest.reverse ++ (word.reverse ++ skipped.reverse) := by
    simpa using congrArg List.reverse h
  obtain ⟨rest', hRest, hSegment⟩ :=
    exists_skipped_of_lead (by simpa using hTrail) (by simpa using hNonempty)
    (by simpa using hWord) hReversed
  refine ⟨rest'.reverse, ?_, ?_⟩
  · simpa using congrArg List.reverse hRest
  · simpa using congrArg List.reverse hSegment

theorem follows_padded_back :
    Follows fun inWord padded segment => Padded inWord segment padded := by
  rintro letters inWord skipped word rest segment hLower hNonempty -
    ⟨lead, trail, hWhole, hLead, hTrail, hUnderWay⟩ hSpells hOut
  have hNonempty' := ne_nil_of_spells hNonempty hSpells
  have hWord := isWord_of_spells hLower hSpells
  obtain ⟨skipped', rfl, hBehind⟩ := exists_skipped_of_lead hLead hNonempty' hWord hWhole.symm
  obtain ⟨rest', rfl, rfl⟩ := exists_rest_of_trail hTrail hNonempty' hWord hBehind
  rw [endsInWord_append, endsInWord_lead hLead hUnderWay] at hOut
  exact ⟨skipped', word, rest', rfl, hSpells, hOut, [], trail, rfl, by simp, hTrail, fun _ => rfl⟩

/-- The keywords of a segment are those of the segment with characters of no word at its ends. -/
theorem stand_padded_iff {tokens : List Token} (hTokens : ∀ token ∈ tokens, token.IsPlain)
    {segment padded : List Char} (hPadded : Padded false segment padded) :
    Stand tokens padded ↔ Stand tokens segment :=
  ⟨fits_of_follows follows_padded_back hTokens hPadded,
    fits_of_follows follows_padded hTokens hPadded⟩

end Rolebook.Phrase
