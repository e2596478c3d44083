import Rolebook.Proofs.Phrase.Quotes
import Rolebook.Proofs.Phrase.Wording

/-!
# Normalized phrases

A phrase means the same without the blanks at its ends, and its lowercase form means the same with
the lowercase forms of its names. Both changes leave the quotes of a text where they are, and with
them its segments: lowercase goes through each segment by itself, and blanks are added to the first
and the last segment only, neither of which is a span. So the same shape suits, and the same spans
fill the slots.

What stands in the spans has its own lowercase form, unless there is a capital sigma in it: which
form that has is decided by letters on both sides of the quotes.
-/

namespace Rolebook.Phrase

open Rolebook.Text (isWord isBlank lowercase trim LowercaseForm lowercaseForms)

/-! ## Segments of a changed text -/

/-- The first character of a text ends its first segment or belongs to it. -/
theorem segments_cons_cases (c : Char) (text : List Char) :
    isQuote c = true ∧ segments (c :: text) = [] :: segments text ∨
      isQuote c = false ∧ ∃ segment others, segments text = segment :: others ∧
        segments (c :: text) = (c :: segment) :: others := by
  cases hQuote : isQuote c with
  | true => exact .inl ⟨rfl, segments_quote hQuote text⟩
  | false =>
      have hCut : segments (c :: text) = (segments text).modifyHead ([c] ++ ·) :=
        segments_append (List.forall_mem_singleton.2 hQuote) text
      obtain ⟨segment, others, hSegments⟩ := exists_segments_eq_cons text
      refine .inr ⟨rfl, segment, others, hSegments, ?_⟩
      rw [hCut, hSegments]
      rfl

/-- The segments of a lowercase form are the lowercase forms of the segments. -/
theorem segments_lowercase {cs ds : List Char} (hForm : LowercaseForm cs ds) :
    (segments ds).length = (segments cs).length ∧
      ∀ place, LowercaseForm ((segments cs).getD place []) ((segments ds).getD place []) := by
  induction hForm with
  | nil =>
      refine ⟨rfl, fun place => ?_⟩
      cases place <;> exact .nil
  | @cons c form cs ds hForm _ ih =>
      obtain ⟨hLength, hSame⟩ := ih
      rcases segments_cons_cases c cs with ⟨hQuote, hCut⟩ |
        ⟨hQuote, segment, others, hSegments, hCut⟩
      · obtain rfl := Text.lowercaseForms_of_not_isWord (isWord_of_isQuote hQuote) hForm
        rw [List.singleton_append, hCut, segments_quote hQuote]
        refine ⟨congrArg (· + 1) hLength, fun place => ?_⟩
        cases place with
        | zero => exact .nil
        | succ place => exact hSame place
      · -- no form has a quote unless its character is one
        have hFree : ∀ d ∈ form, isQuote d = false := by
          intro d hMember
          rw [← Bool.not_eq_true]
          intro hQuote'
          have hOutside : isWord c = false := by
            rw [← Text.isWord_of_mem_lowercaseForms hForm hMember, isWord_of_isQuote hQuote']
          rw [Text.lowercaseForms_of_not_isWord hOutside hForm, List.mem_singleton] at hMember
          rw [hMember, hQuote] at hQuote'
          cases hQuote'
        obtain ⟨segment', others', hSegments'⟩ := exists_segments_eq_cons ds
        rw [hSegments, hSegments'] at hLength hSame
        rw [hCut, segments_append hFree, hSegments', List.modifyHead_cons]
        refine ⟨hLength, fun place => ?_⟩
        cases place with
        | zero => exact .cons hForm (hSame 0)
        | succ place => exact hSame (place + 1)

/-- Characters without a quote behind a text belong to its last segment. -/
theorem segments_trail {trail : List Char} (hFree : ∀ c ∈ trail, isQuote c = false)
    (text : List Char) :
    (segments (text ++ trail)).length = (segments text).length ∧
      ∀ place, (segments (text ++ trail)).getD place [] =
        (segments text).getD place [] ++
          if place + 1 = (segments text).length then trail else [] := by
  induction text with
  | nil =>
      have hAlone : segments trail = [trail] := by
        obtain ⟨segment, -, ⟨rfl, hSegments⟩ | ⟨quote, rest, hQuote, rfl, -⟩⟩ :=
          exists_first_segment trail
        · exact hSegments
        · rw [hFree quote (by simp)] at hQuote
          cases hQuote
      rw [List.nil_append, hAlone]
      refine ⟨rfl, fun place => ?_⟩
      cases place <;> simp [segments]
  | cons c text ih =>
      obtain ⟨hLength, hSame⟩ := ih
      rcases segments_cons_cases c text with ⟨hQuote, hCut⟩ |
        ⟨hQuote, segment, others, hSegments, hCut⟩
      · rw [List.cons_append, hCut, segments_quote hQuote]
        refine ⟨congrArg (· + 1) hLength, fun place => ?_⟩
        cases place with
        | zero => simp [segments_ne_nil]
        | succ place => simpa using hSame place
      · have hCut' : segments (c :: (text ++ trail)) =
            (segments (text ++ trail)).modifyHead ([c] ++ ·) :=
          segments_append (List.forall_mem_singleton.2 hQuote) (text ++ trail)
        obtain ⟨segment', others', hSegments'⟩ := exists_segments_eq_cons (text ++ trail)
        rw [hSegments, hSegments'] at hLength hSame
        rw [List.cons_append, hCut, hCut', hSegments', List.modifyHead_cons]
        refine ⟨hLength, fun place => ?_⟩
        cases place with
        | zero =>
            have hFirst := hSame 0
            simp only [List.getD_cons_zero, List.length_cons] at hFirst ⊢
            rw [hFirst]
            rfl
        | succ place => exact hSame (place + 1)

/-! ## Spans of a changed text -/

/-- What stands in a span stands in the text. -/
theorem mem_of_spanAt? {text : List Char} {span : Nat} {name : String}
    (hName : spanAt? (segments text) span = some name) {c : Char} (hMember : c ∈ name.toList) :
    c ∈ text := by
  obtain ⟨span, hSpan, rfl⟩ := exists_span hName
  rw [String.toList_ofList] at hMember
  rw [hSpan.parts]
  simp [hMember]

/-- The same spans are filled in a lowercase form, with the lowercase forms of what stands in
them. -/
theorem spanAt?_lowercase {cs ds : List Char} (hForm : LowercaseForm cs ds) (span : Nat) :
    Option.Rel (fun name name' => LowercaseForm name.toList name'.toList)
      (spanAt? (segments cs) span)
      (spanAt? (segments ds) span) := by
  obtain ⟨hLength, hSame⟩ := segments_lowercase hForm
  have hSegment := hSame (2 * span + 1)
  simp only [spanAt?, nameAt?_eq, hLength, ne_eq, hSegment.eq_nil_iff]
  split
  · refine .some ?_
    rw [String.toList_ofList, String.toList_ofList]
    exact hSegment
  · exact .none

theorem sameOutline_lowercase {cs ds : List Char} (hForm : LowercaseForm cs ds) :
    SameOutline (segments ds) (segments cs) where
  stand _ hTokens number := stand_lowercase_iff hTokens ((segments_lowercase hForm).2 (2 * number))
  filled span := by
    have hSpan := spanAt?_lowercase hForm span
    generalize spanAt? (segments cs) span = found at hSpan
    generalize spanAt? (segments ds) span = found' at hSpan
    cases hSpan <;> rfl

section Blanks

variable {lead trail : List Char} (hLead : ∀ c ∈ lead, isBlank c = true)
  (hTrail : ∀ c ∈ trail, isBlank c = true)

theorem isQuote_of_isBlank {c : Char} (hBlank : isBlank c = true) : isQuote c = false := by
  rw [← Bool.not_eq_true]
  intro hQuote
  rw [isQuote, Bool.or_eq_true, beq_iff_eq, beq_iff_eq] at hQuote
  rcases hQuote with rfl | rfl <;> exact absurd hBlank (by decide)

include hLead hTrail

/-- Blanks around a text are put in front of its first segment and behind its last one. -/
theorem segments_blanks (core : List Char) :
    (segments (lead ++ (core ++ trail))).length = (segments core).length ∧
      ∀ place, (segments (lead ++ (core ++ trail))).getD place [] =
        (if place = 0 then lead else []) ++
          ((segments core).getD place [] ++
            if place + 1 = (segments core).length then trail else []) := by
  obtain ⟨hLength, hSame⟩ :=
    segments_trail (fun c hMember => isQuote_of_isBlank (hTrail c hMember)) core
  obtain ⟨segment, others, hSegments⟩ := exists_segments_eq_cons (core ++ trail)
  rw [segments_append fun c hMember => isQuote_of_isBlank (hLead c hMember)]
  rw [hSegments] at hLength hSame ⊢
  rw [List.modifyHead_cons]
  refine ⟨hLength, fun place => ?_⟩
  rw [← hSame]
  cases place <;> rfl

theorem spanAt?_blanks (core : List Char) (span : Nat) :
    spanAt? (segments (lead ++ (core ++ trail))) span = spanAt? (segments core) span := by
  obtain ⟨hLength, hSame⟩ := segments_blanks hLead hTrail core
  rw [spanAt?, spanAt?, nameAt?_eq, nameAt?_eq, hLength]
  by_cases hThere : 2 * span + 1 + 1 < (segments core).length
  · rw [hSame, if_neg (Nat.succ_ne_zero _), if_neg (Nat.ne_of_lt hThere),
      List.nil_append, List.append_nil]
  · rw [if_neg fun hBoth => hThere hBoth.1, if_neg fun hBoth => hThere hBoth.1]

theorem sameOutline_blanks (core : List Char) :
    SameOutline (segments (lead ++ (core ++ trail))) (segments core) where
  stand _ hTokens number := by
    have hOutside {cs : List Char} (hBlank : ∀ c ∈ cs, isBlank c = true) (holds : Prop)
        [Decidable holds] :
        ∀ c ∈ if holds then cs else [], isWord c = false := by
      intro c hMember
      split at hMember
      · exact Text.isWord_of_isBlank (hBlank c hMember)
      · exact absurd hMember List.not_mem_nil
    exact stand_padded_iff hTokens
      ⟨_, _, (segments_blanks hLead hTrail core).2 _, hOutside hLead _, hOutside hTrail _,
        Bool.false_ne_true.elim⟩
  filled span := by rw [spanAt?_blanks hLead hTrail]

end Blanks

/-! ## Commands of a changed text -/

/-- Two commands of one kind that have related texts in their slots, and a description both or
neither. -/
inductive Command.Alike (related : String → String → Prop) : Command → Command → Prop
  | createPermission {name name' : String} {description description' : Option String}
      (hName : related name name')
      (hDescription : Option.Rel related description description') :
      Command.Alike related (.createPermission name description)
        (.createPermission name' description')
  | createRole {name name' : String} (hName : related name name') :
      Command.Alike related (.createRole name) (.createRole name')
  | removePermission {role role' permission permission' : String} (hRole : related role role')
      (hPermission : related permission permission') :
      Command.Alike related (.removePermission role permission)
        (.removePermission role' permission')
  | assignPermission {role role' permission permission' : String} (hRole : related role role')
      (hPermission : related permission permission') :
      Command.Alike related (.assignPermission role permission)
        (.assignPermission role' permission')

theorem rel_bind {α β : Type} {related : String → String → Prop} {related' : α → β → Prop}
    {name? name?' : Option String} {next : String → Option α} {next' : String → Option β}
    (h : Option.Rel related name? name?')
    (hNext : ∀ name name', related name name' → Option.Rel related' (next name) (next' name')) :
    Option.Rel related' (name?.bind next) (name?'.bind next') := by
  cases h with
  | some hRelated => exact hNext _ _ hRelated
  | none => exact .none

/-- Spans that are filled with related texts make commands that are alike. -/
theorem Origin.command?_alike {related : String → String → Prop} {parts parts' : List (List Char)}
    (hSpans : ∀ span, Option.Rel related (spanAt? parts span) (spanAt? parts' span))
    (origin : Origin) :
    Option.Rel (Command.Alike related) (origin.command? parts) (origin.command? parts') := by
  cases origin with
  | createPermission name description =>
      cases description with
      | none => exact rel_bind (hSpans name) fun _ _ hName => .some (.createPermission hName .none)
      | some description =>
          exact rel_bind (hSpans name) fun _ _ hName =>
            rel_bind (hSpans description) fun _ _ hDescription =>
            .some (.createPermission hName (.some hDescription))
  | createRole name => exact rel_bind (hSpans name) fun _ _ hName => .some (.createRole hName)
  | removePermission role permission =>
      exact rel_bind (hSpans role) fun _ _ hRole =>
        rel_bind (hSpans permission) fun _ _ hPermission =>
        .some (.removePermission hRole hPermission)
  | assignPermission role permission =>
      exact rel_bind (hSpans role) fun _ _ hRole =>
        rel_bind (hSpans permission) fun _ _ hPermission =>
        .some (.assignPermission hRole hPermission)

theorem Origin.command?_congr {parts parts' : List (List Char)}
    (hSpans : ∀ span, spanAt? parts span = spanAt? parts' span) (origin : Origin) :
    origin.command? parts = origin.command? parts' := by
  cases origin with
  | createPermission name description => cases description <;> simp only [Origin.command?, hSpans]
  | createRole name => simp only [Origin.command?, hSpans]
  | removePermission role permission => simp only [Origin.command?, hSpans]
  | assignPermission role permission => simp only [Origin.command?, hSpans]

theorem originOf?_congr {text text' : String}
    (h : SameOutline (segments text.toList) (segments text'.toList)) :
    originOf? text = originOf? text' := by
  rw [originOf?, originOf?, h.shapeIn?_eq]
  simp only [h.origin_eq]

theorem sameOutline_trim (text : String) :
    SameOutline (segments text.toList) (segments (trim text).toList) := by
  obtain ⟨lead, trail, hText, hLead, hTrail⟩ := Text.exists_blanks_around text.toList
  rw [trim, String.toList_ofList, congrArg segments hText]
  exact sameOutline_blanks hLead hTrail _

theorem spanAt?_trim (text : String) (span : Nat) :
    spanAt? (segments (trim text).toList) span = spanAt? (segments text.toList) span := by
  obtain ⟨lead, trail, hText, hLead, hTrail⟩ := Text.exists_blanks_around text.toList
  rw [trim, String.toList_ofList, congrArg segments hText]
  exact (spanAt?_blanks hLead hTrail _ span).symm

theorem lowercaseForm_lowercase (text : String) :
    LowercaseForm text.toList (lowercase text).toList := by
  rw [lowercase, String.toList_ofList]
  exact Text.lowercaseForm_lowercaseAfter false text.toList

/-- Without a capital sigma a text has one lowercase form. -/
theorem eq_lowercase_of_lowercaseForm {name name' : String}
    (hForm : LowercaseForm name.toList name'.toList) (hSigma : 'Σ' ∉ name.toList) :
    name' = lowercase name := by
  rw [← String.toList_inj, hForm.eq_flatMap hSigma,
    (lowercaseForm_lowercase name).eq_flatMap hSigma]

/-- Trimming a text does not change the command that it is, and the lowercase form of a text is a
command of the same origin: of the same kind, with the same spans in the same slots. The names in
the slots are lowercase forms of those in the text, and if the text has no capital sigma, they are
what lowercase makes of those by themselves. -/
theorem normalizing_keeps_command (text : String) :
    (originOf? (trim text) = originOf? text ∧ parse? (trim text) = parse? text) ∧
      originOf? (lowercase text) = originOf? text ∧
        Option.Rel
          (Command.Alike fun name name' =>
            LowercaseForm name.toList name'.toList ∧ ('Σ' ∉ text.toList → name' = lowercase name))
          (parse? text) (parse? (lowercase text)) := by
  have hForm := lowercaseForm_lowercase text
  have hTrimmed : originOf? (trim text) = originOf? text :=
    (originOf?_congr (sameOutline_trim text)).symm
  have hLowered : originOf? (lowercase text) = originOf? text :=
    originOf?_congr (sameOutline_lowercase hForm)
  have hSpans (span : Nat) :
      Option.Rel (fun name name' => LowercaseForm name.toList name'.toList ∧
        ('Σ' ∉ text.toList → name' = lowercase name))
        (spanAt? (segments text.toList) span)
        (spanAt? (segments (lowercase text).toList) span) := by
    have hSpan := spanAt?_lowercase hForm span
    generalize hName : spanAt? (segments text.toList) span = name? at hSpan
    generalize spanAt? (segments (lowercase text).toList) span = name?' at hSpan
    cases hSpan with
    | some hName' =>
        exact .some ⟨hName', fun hSigma =>
          eq_lowercase_of_lowercaseForm hName' fun hMember => hSigma (mem_of_spanAt? hName hMember)⟩
    | none => exact .none
  refine ⟨⟨hTrimmed, ?_⟩, hLowered, ?_⟩
  · rw [parse?_eq_originOf?_bind, parse?_eq_originOf?_bind, hTrimmed]
    simp only [Origin.command?_congr (spanAt?_trim text)]
  · rw [parse?_eq_originOf?_bind, parse?_eq_originOf?_bind, hLowered]
    cases originOf? text with
    | none => exact .none
    | some origin => exact origin.command?_alike hSpans

/-- A phrase with blanks at its ends, a kelvin sign in its verb and a dotted capital in one of its
names. -/
def kelvinPhrase : String :=
  "\u00a0 TA\u212aE permission \"\u0130ptal\" from role 'ÇALIŞAN'\u2003"

theorem normalizing_keeps_command_of_kelvinPhrase :
    'Σ' ∉ kelvinPhrase.toList ∧
      parse? (trim kelvinPhrase) = some (.removePermission "ÇALIŞAN" "\u0130ptal") ∧
      parse? (lowercase kelvinPhrase) =
        some (.removePermission (lowercase "ÇALIŞAN") (lowercase "\u0130ptal")) := by
  have hCommand : parse? kelvinPhrase = some (.removePermission "ÇALIŞAN" "\u0130ptal") := by
    decide +kernel
  have hSigma : 'Σ' ∉ kelvinPhrase.toList := by decide +kernel
  obtain ⟨⟨-, hTrimmed⟩, -, hLowered⟩ := normalizing_keeps_command kelvinPhrase
  refine ⟨hSigma, hTrimmed.trans hCommand, ?_⟩
  rw [hCommand] at hLowered
  generalize parse? (lowercase kelvinPhrase) = command? at hLowered
  cases hLowered with
  | some hAlike =>
      cases hAlike with
      | removePermission hRole hPermission => rw [hRole.2 hSigma, hPermission.2 hSigma]

end Rolebook.Phrase
