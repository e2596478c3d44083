import Rolebook.Text.Range

/-!
# Blanks

The characters with the property White_Space, and texts without any at their ends.
-/

namespace Rolebook.Text

/-- Code points of the blank characters. -/
def blankRanges : Ranges :=
  [(0x9, 0xD), (0x20, 0x20), (0x85, 0x85), (0xA0, 0xA0), (0x1680, 0x1680), (0x2000, 0x200A),
    (0x2028, 0x2029), (0x202F, 0x202F), (0x205F, 0x205F), (0x3000, 0x3000)]

/-- Whether `c` is a blank. -/
def isBlank (c : Char) : Bool :=
  blankRanges.holds c

/-- The characters from the first to the last that is no blank. -/
def trimBlanks (cs : List Char) : List Char :=
  ((cs.dropWhile isBlank).reverse.dropWhile isBlank).reverse

/-- The text from its first to its last character that is no blank. -/
def trim (text : String) : String :=
  String.ofList (trimBlanks text.toList)

theorem dropWhile_dropWhile (cs : List Char) :
    (cs.dropWhile isBlank).dropWhile isBlank = cs.dropWhile isBlank := by
  induction cs with
  | nil => rfl
  | cons c cs ih => cases hBlank : isBlank c <;> simp [hBlank, ih]

/-- What is left of a text without blanks at its start has none there either, wherever it is cut
off. -/
theorem dropWhile_eq_self_of_prefix {cs ds : List Char} (hPrefix : cs <+: ds.dropWhile isBlank) :
    cs.dropWhile isBlank = cs := by
  cases cs with
  | nil => rfl
  | cons c cs =>
      obtain ⟨rest, hRest⟩ := hPrefix
      have hDropped := dropWhile_dropWhile ds
      rw [← hRest, List.cons_append] at hDropped
      cases hBlank : isBlank c with
      | false => simp [hBlank]
      | true =>
          rw [List.dropWhile_cons, if_pos hBlank] at hDropped
          -- dropping this blank once more would leave less than there is
          have hLength := congrArg List.length hDropped
          have hShorter := (List.dropWhile_suffix isBlank (l := cs ++ rest)).length_le
          simp only [List.length_cons] at hLength
          omega

theorem trimBlanks_trimBlanks (cs : List Char) : trimBlanks (trimBlanks cs) = trimBlanks cs := by
  have hPrefix : trimBlanks cs <+: cs.dropWhile isBlank := by
    have hSuffix := List.dropWhile_suffix isBlank (l := (cs.dropWhile isBlank).reverse)
    simpa [trimBlanks] using List.reverse_prefix.2 hSuffix
  have hStart := dropWhile_eq_self_of_prefix hPrefix
  rw [trimBlanks, hStart]
  simp only [trimBlanks, List.reverse_reverse, dropWhile_dropWhile]

/-- Nothing but blanks is cut off at the ends. -/
theorem exists_blanks_around (cs : List Char) :
    ∃ lead trail, cs = lead ++ (trimBlanks cs ++ trail) ∧ (∀ c ∈ lead, isBlank c = true) ∧
      ∀ c ∈ trail, isBlank c = true := by
  have hCore : trimBlanks cs ++ ((cs.dropWhile isBlank).reverse.takeWhile isBlank).reverse =
      cs.dropWhile isBlank := by
    rw [trimBlanks, ← List.reverse_append, List.takeWhile_append_dropWhile, List.reverse_reverse]
  refine ⟨cs.takeWhile isBlank, ((cs.dropWhile isBlank).reverse.takeWhile isBlank).reverse,
    ?_, ?_, ?_⟩
  · rw [hCore, List.takeWhile_append_dropWhile]
  · exact List.all_eq_true.1 List.all_takeWhile
  · intro c hBlank
    exact List.all_eq_true.1 List.all_takeWhile c (List.mem_reverse.1 hBlank)

/-- Blanks that are put around a text are cut off again. -/
theorem trimBlanks_blanks {lead trail : List Char} (hLead : ∀ c ∈ lead, isBlank c = true)
    (hTrail : ∀ c ∈ trail, isBlank c = true) (cs : List Char) :
    trimBlanks (lead ++ (cs ++ trail)) = trimBlanks cs := by
  have hReversed : ∀ c ∈ trail.reverse, isBlank c = true :=
    fun c hMember => hTrail c (List.mem_reverse.1 hMember)
  rw [trimBlanks, trimBlanks, List.dropWhile_append_of_pos hLead, List.dropWhile_append]
  split
  · next hBlank =>
      -- the text itself is blank, and nothing is left of it
      have hNone : (trail ++ []).dropWhile isBlank = [] := List.dropWhile_append_of_pos hTrail
      rw [List.append_nil] at hNone
      rw [hNone, List.isEmpty_iff.1 hBlank]
  · rw [List.reverse_append, List.dropWhile_append_of_pos hReversed]

/-- A text without blanks at its ends is left as it is. -/
theorem trim_trim (text : String) : trim (trim text) = trim text := by
  simp [trim, trimBlanks_trimBlanks]

end Rolebook.Text
