import Rolebook.Text.Blank
import Rolebook.Text.Lowercase
import Rolebook.Text.WordTable

/-!
# Lowercase forms

What the lowercase form of a text has in common with the text. Each character is exchanged for its
own form, a capital sigma for one of two (`LowercaseForm`). A character whose form is another one
has a case, and so has the form, and whatever has a case belongs to a word. So words stay words, and
what stands between them is not changed at all.

The tables are compared run by run and range by range, since it is enough to look at the ends of
each.
-/

namespace Rolebook.Text

/-! ## Ranges -/

/-- Each range begins no later than the next one. -/
def Ranges.ascend : Ranges → Bool
  | [] | [_] => true
  | range :: next :: ranges => Nat.ble range.1 next.1 && Ranges.ascend (next :: ranges)

/-- One of the ranges has all code points from `low` to `high`. -/
def Ranges.cover (ranges : Ranges) (low high : Nat) : Bool :=
  ranges.any fun range => Nat.ble range.1 low && Nat.ble high range.2

theorem Ranges.first_le_of_ascend {range : Nat × Nat} {ranges : Ranges}
    (hAscend : Ranges.ascend (range :: ranges) = true) :
    ∀ other ∈ ranges, range.1 ≤ other.1 := by
  induction ranges generalizing range with
  | nil => simp
  | cons next ranges ih =>
      rw [ascend, Bool.and_eq_true, Nat.ble_eq] at hAscend
      intro other hOther
      rcases List.mem_cons.1 hOther with rfl | hOther
      · exact hAscend.1
      · exact Nat.le_trans hAscend.1 (ih hAscend.2 other hOther)

theorem Ranges.ascend_tail {range : Nat × Nat} {ranges : Ranges}
    (hAscend : Ranges.ascend (range :: ranges) = true) :
    ranges.ascend = true := by
  cases ranges with
  | nil => rfl
  | cons next ranges =>
      rw [ascend, Bool.and_eq_true] at hAscend
      exact hAscend.2

/-- The search among ascending ranges stops early, but it misses none. -/
theorem Ranges.holds_iff {ranges : Ranges} (hAscend : ranges.ascend = true) {c : Char} :
    ranges.holds c = true ↔ ∃ range ∈ ranges, range.1 ≤ c.toNat ∧ c.toNat ≤ range.2 := by
  induction ranges with
  | nil => simp [holds]
  | cons range ranges ih =>
      obtain ⟨first, last⟩ := range
      have hFirst := first_le_of_ascend hAscend
      simp only [holds, List.mem_cons, exists_eq_or_imp, ← ih (ascend_tail hAscend)]
      split
      · next hBefore =>
          refine iff_of_false Bool.false_ne_true ?_
          rintro (⟨hLow, -⟩ | hRest)
          · exact absurd hLow (Nat.not_le.2 hBefore)
          · -- the ranges behind begin later still
            obtain ⟨other, hOther, hLow, -⟩ := (ih (ascend_tail hAscend)).1 hRest
            exact absurd (hFirst other hOther) (by omega)
      · next hBefore => simp [Nat.not_lt.1 hBefore]

theorem Ranges.holds_of_cover {ranges : Ranges} (hAscend : ranges.ascend = true) {low high : Nat}
    (hCover : ranges.cover low high = true) {c : Char} (hLow : low ≤ c.toNat)
    (hHigh : c.toNat ≤ high) :
    ranges.holds c = true := by
  obtain ⟨range, hRange, hEnds⟩ := List.any_eq_true.1 hCover
  rw [Bool.and_eq_true, Nat.ble_eq, Nat.ble_eq] at hEnds
  exact (holds_iff hAscend).2 ⟨range, hRange, Nat.le_trans hEnds.1 hLow, Nat.le_trans hHigh hEnds.2⟩

/-- Each of some spans, which are best in ascending order too, lies within one of the ranges. What
ends before a span is left behind, so both lists are gone through once. -/
def Ranges.coverAll : Ranges → Ranges → Bool
  | _, [] => true
  | ranges, span :: spans =>
    match ranges.dropWhile fun range => Nat.blt range.2 span.1 with
    | [] => false
    | range :: rest =>
      Nat.ble range.1 span.1 && Nat.ble span.2 range.2 && Ranges.coverAll (range :: rest) spans

theorem Ranges.cover_of_coverAll {ranges spans : Ranges} (hCover : ranges.coverAll spans = true) :
    ∀ span ∈ spans, ranges.cover span.1 span.2 = true := by
  induction spans generalizing ranges with
  | nil => simp
  | cons span spans ih =>
      rw [coverAll] at hCover
      split at hCover
      · cases hCover
      · next range rest hRest =>
          have hSub : ∀ other ∈ range :: rest, other ∈ ranges := fun other hOther =>
            (List.dropWhile_suffix _).subset (hRest ▸ hOther)
          rw [Bool.and_eq_true] at hCover
          intro other hOther
          rcases List.mem_cons.1 hOther with rfl | hOther
          · exact List.any_eq_true.2 ⟨range, hSub range (List.mem_cons_self ..), hCover.1⟩
          · obtain ⟨found, hFound, hEnds⟩ := List.any_eq_true.1 (ih hCover.2 other hOther)
            exact List.any_eq_true.2 ⟨found, hSub found hFound, hEnds⟩

theorem ascend_wordRanges : wordRanges.ascend = true := by
  decide +kernel

theorem ascend_casedRanges : casedRanges.ascend = true := by
  decide +kernel

/-- A character that has a case belongs to a word. -/
theorem isWord_of_isCased {c : Char} (hCased : isCased c = true) : isWord c = true := by
  have table : wordRanges.coverAll casedRanges = true := by decide +kernel
  obtain ⟨range, hRange, hLow, hHigh⟩ := (Ranges.holds_iff ascend_casedRanges).1 hCased
  exact Ranges.holds_of_cover ascend_wordRanges
    (Ranges.cover_of_coverAll table range hRange) hLow hHigh

/-- A blank belongs to no word. -/
theorem isWord_of_isBlank {c : Char} (hBlank : isBlank c = true) : isWord c = false := by
  have table : (blankRanges.all fun blanks => wordRanges.all fun words =>
      Nat.blt blanks.2 words.1 || Nat.blt words.2 blanks.1) = true := by decide +kernel
  obtain ⟨blanks, hBlanks, hLow, hHigh⟩ := (Ranges.holds_iff (by decide)).1 hBlank
  rw [← Bool.not_eq_true]
  intro hWord
  obtain ⟨words, hWords, hLow', hHigh'⟩ := (Ranges.holds_iff ascend_wordRanges).1 hWord
  have hApart := List.all_eq_true.1 (List.all_eq_true.1 table blanks hBlanks) words hWords
  simp only [Nat.blt_eq, Bool.or_eq_true] at hApart
  omega

/-! ## The form of a character -/

/-- A run takes one character to another one. -/
structure CaseRun.Takes (run : CaseRun) (c d : Char) : Prop where
  within : run.first ≤ c.toNat ∧ c.toNat ≤ run.last
  step : (c.toNat - run.first) % run.step = 0
  image : d.toNat = run.target + (c.toNat - run.first)

/-- The image of a code point comes from a run that the code point belongs to. -/
theorem CaseRun.exists_of_image? {runs : List CaseRun} {n m : Nat}
    (hImage : image? runs n = some m) :
    ∃ run ∈ runs, (run.first ≤ n ∧ n ≤ run.last) ∧ (n - run.first) % run.step = 0 ∧
      m = run.target + (n - run.first) := by
  induction runs with
  | nil => cases hImage
  | cons run runs ih =>
      rw [image?] at hImage
      split at hImage
      · obtain ⟨other, hOther, hRun⟩ := ih hImage
        exact ⟨other, List.mem_cons_of_mem _ hOther, hRun⟩
      · next hLast =>
          split at hImage
          · next hFirst =>
              rw [Bool.and_eq_true, decide_eq_true_eq, beq_iff_eq] at hFirst
              exact ⟨run, List.mem_cons_self .., ⟨hFirst.1, by omega⟩, hFirst.2,
                (Option.some.inj hImage).symm⟩
          · cases hImage

/-- The code points that a run leads to are those of characters. -/
def CaseRun.isValid (run : CaseRun) : Bool :=
  Nat.blt (run.target + (run.last - run.first)) 0xD800 ||
    Nat.blt 0xDFFF run.target && Nat.blt (run.target + (run.last - run.first)) 0x110000

/-- A character is its own form, or it is the capital I with a dot above, or a run takes it to its
form. -/
theorem lowercaseOf_cases (c : Char) :
    lowercaseOf c = [c] ∨ c = '\u0130' ∧ lowercaseOf c = ['i', '\u0307'] ∨
      ∃ d, lowercaseOf c = [d] ∧ ∃ run ∈ lowercaseRuns, run.Takes c d := by
  have table : (lowercaseRuns.all CaseRun.isValid) = true := by decide +kernel
  unfold lowercaseOf
  split
  · next hDotted => exact .inr (.inl ⟨hDotted, rfl⟩)
  · split
    · next n hImage =>
        obtain ⟨run, hRun, hWithin, hStep, rfl⟩ := CaseRun.exists_of_image? hImage
        refine .inr (.inr ⟨_, rfl, run, hRun, hWithin, hStep, ?_⟩)
        have hValid := List.all_eq_true.1 table run hRun
        simp only [CaseRun.isValid, Bool.or_eq_true, Bool.and_eq_true, Nat.blt_eq] at hValid
        have hChar : (run.target + (c.toNat - run.first)).isValidChar := by
          unfold Nat.isValidChar
          omega
        rw [Char.ofNat, dif_pos hChar]
        rfl
    · exact .inl rfl

/-- The characters that a run takes to others have a case, and so have those others. -/
def CaseRun.staysCased (run : CaseRun) : Bool :=
  (casedRanges.cover run.first run.last ||
      (List.range (run.last - run.first + 1)).all fun offset =>
        offset % run.step != 0 || casedRanges.cover (run.first + offset) (run.first + offset)) &&
    casedRanges.cover run.target (run.target + (run.last - run.first))

theorem CaseRun.Takes.isCased {run : CaseRun} {c d : Char} (hTakes : run.Takes c d)
    (hRun : run ∈ lowercaseRuns) :
    Rolebook.Text.isCased c = true ∧ Rolebook.Text.isCased d = true := by
  have table : (lowercaseRuns.all CaseRun.staysCased) = true := by decide +kernel
  obtain ⟨hWithin, hStep, hImage⟩ := hTakes
  have hCased := List.all_eq_true.1 table run hRun
  simp only [CaseRun.staysCased, Bool.and_eq_true, Bool.or_eq_true, List.all_eq_true,
    List.mem_range, bne_iff_ne] at hCased
  obtain ⟨hSource, hTarget⟩ := hCased
  constructor
  · rcases hSource with hWhole | hEach
    · exact Ranges.holds_of_cover ascend_casedRanges hWhole hWithin.1 hWithin.2
    · -- the characters of this run do not stand side by side
      have hOne := (hEach (c.toNat - run.first) (by omega)).resolve_left (not_not_intro hStep)
      exact Ranges.holds_of_cover ascend_casedRanges hOne (by omega) (by omega)
  · exact Ranges.holds_of_cover ascend_casedRanges hTarget (by omega) (by omega)

/-! ## The form of a text -/

/-- The forms that a character can have in a text: a capital sigma has two, every other character
has one. -/
def lowercaseForms (c : Char) : List (List Char) :=
  if c = 'Σ' then [lowercaseOf c, ['ς']] else [lowercaseOf c]

/-- One text is a lowercase form of another one: each of the characters is exchanged for a form of
its own. -/
inductive LowercaseForm : List Char → List Char → Prop
  | nil : LowercaseForm [] []
  | cons {c : Char} {form cs ds : List Char} (hForm : form ∈ lowercaseForms c)
      (hRest : LowercaseForm cs ds) :
      LowercaseForm (c :: cs) (form ++ ds)

theorem lowercaseOf_mem_lowercaseForms (c : Char) : lowercaseOf c ∈ lowercaseForms c := by
  unfold lowercaseForms
  split <;> exact List.mem_cons_self ..

theorem lowercaseForm_lowercaseAfter (afterCased : Bool) (cs : List Char) :
    LowercaseForm cs (lowercaseAfter afterCased cs) := by
  induction cs generalizing afterCased with
  | nil => exact .nil
  | cons c cs ih =>
      refine .cons ?_ (ih _)
      split
      · next hSigma =>
          subst hSigma
          split
          · decide
          · decide
      · exact lowercaseOf_mem_lowercaseForms c

/-- In a text without a capital sigma the characters have their forms wherever they stand. -/
theorem LowercaseForm.eq_flatMap {cs ds : List Char} (hForm : LowercaseForm cs ds)
    (hSigma : 'Σ' ∉ cs) :
    ds = cs.flatMap lowercaseOf := by
  induction hForm with
  | nil => rfl
  | @cons c form cs ds hForm _ ih =>
      rw [List.mem_cons, not_or] at hSigma
      rw [lowercaseForms, if_neg (Ne.symm hSigma.1), List.mem_singleton] at hForm
      rw [List.flatMap_cons, ← ih hSigma.2, hForm]

/-- A character is its own form, or it is the capital I with a dot above, or both the character and
its form have a case. -/
theorem lowercaseForms_cases {c : Char} {form : List Char} (hForm : form ∈ lowercaseForms c) :
    form = [c] ∨ c = '\u0130' ∧ form = ['i', '\u0307'] ∨
      ∃ d, form = [d] ∧ (isCased c = true ∧ isCased d = true) ∧
        (c = 'Σ' ∧ d = 'ς' ∨ ∃ run ∈ lowercaseRuns, run.Takes c d) := by
  have hOwn : form = lowercaseOf c ∨ c = 'Σ' ∧ form = ['ς'] := by
    unfold lowercaseForms at hForm
    split at hForm
    · next hSigma => simpa [hSigma] using hForm
    · exact .inl (by simpa using hForm)
  rcases hOwn with rfl | ⟨rfl, rfl⟩
  · refine (lowercaseOf_cases c).imp_right (Or.imp_right ?_)
    rintro ⟨d, hOne, run, hRun, hTakes⟩
    exact ⟨d, hOne, hTakes.isCased hRun, .inr ⟨run, hRun, hTakes⟩⟩
  · exact .inr (.inr ⟨_, rfl, by decide +kernel, .inl ⟨rfl, rfl⟩⟩)

theorem lowercaseForms_ne_nil {c : Char} {form : List Char} (hForm : form ∈ lowercaseForms c) :
    form ≠ [] := by
  rcases lowercaseForms_cases hForm with rfl | ⟨-, rfl⟩ | ⟨d, rfl, -⟩ <;> exact List.cons_ne_nil _ _

/-- A form is made of characters of words exactly if its character is one. -/
theorem isWord_of_mem_lowercaseForms {c d : Char} {form : List Char}
    (hForm : form ∈ lowercaseForms c) (hMember : d ∈ form) :
    isWord d = isWord c := by
  rcases lowercaseForms_cases hForm with rfl | ⟨rfl, rfl⟩ | ⟨e, rfl, ⟨hCased, hCased'⟩, -⟩
  · rw [List.mem_singleton.1 hMember]
  · have table : (['i', '\u0307'].all fun d => isWord d == isWord '\u0130') = true := by
      decide +kernel
    exact eq_of_beq (List.all_eq_true.1 table d hMember)
  · rw [List.mem_singleton.1 hMember, isWord_of_isCased hCased, isWord_of_isCased hCased']

/-- A character of no word is its own form. -/
theorem lowercaseForms_of_not_isWord {c : Char} (hOutside : isWord c = false) {form : List Char}
    (hForm : form ∈ lowercaseForms c) : form = [c] := by
  rcases lowercaseForms_cases hForm with hSame | ⟨rfl, -⟩ | ⟨d, -, ⟨hCased, -⟩, -⟩
  · exact hSame
  · exact absurd hOutside (by decide +kernel)
  · rw [isWord_of_isCased hCased] at hOutside
    cases hOutside

/-- A text that is put together has a form that is put together. -/
theorem LowercaseForm.of_append {cs cs' ds : List Char} (h : LowercaseForm (cs ++ cs') ds) :
    ∃ front back, ds = front ++ back ∧ LowercaseForm cs front ∧ LowercaseForm cs' back := by
  induction cs generalizing ds with
  | nil => exact ⟨[], ds, rfl, .nil, h⟩
  | cons c cs ih =>
      cases h with
      | @cons _ form _ ds hForm hRest =>
          obtain ⟨front, back, rfl, hFront, hBack⟩ := ih hRest
          exact ⟨form ++ front, back, (List.append_assoc ..).symm, .cons hForm hFront, hBack⟩

/-- The first character of a form is the form of a character, or it is an i that has its dot behind
it. -/
theorem LowercaseForm.cons_cases {cs ds : List Char} {d : Char} (h : LowercaseForm cs (d :: ds)) :
    ∃ c cs', cs = c :: cs' ∧
      ([d] ∈ lowercaseForms c ∧ LowercaseForm cs' ds ∨
        d = 'i' ∧ ∃ ds', ds = '\u0307' :: ds' ∧ ['i', '\u0307'] ∈ lowercaseForms c ∧
          LowercaseForm cs' ds') := by
  generalize hWhole : d :: ds = whole at h
  cases h with
  | nil => cases hWhole
  | @cons c form cs' ds' hForm hRest =>
      refine ⟨c, cs', rfl, ?_⟩
      have hOne {e : Char} (hSame : form = [e]) : [d] ∈ lowercaseForms c ∧
          LowercaseForm cs' ds := by
        subst hSame
        obtain ⟨rfl, rfl⟩ := List.cons.inj hWhole
        exact ⟨hForm, hRest⟩
      rcases lowercaseForms_cases hForm with hSame | ⟨-, hSame⟩ | ⟨e, hSame, -⟩
      · exact .inl (hOne hSame)
      · subst hSame
        obtain ⟨rfl, rfl⟩ := List.cons.inj hWhole
        exact .inr ⟨rfl, ds', rfl, hForm, hRest⟩
      · exact .inl (hOne hSame)

theorem LowercaseForm.eq_nil_iff {cs ds : List Char} (h : LowercaseForm cs ds) :
    ds = [] ↔ cs = [] := by
  cases h with
  | nil => simp
  | cons hForm _ => simp [lowercaseForms_ne_nil hForm]

end Rolebook.Text
