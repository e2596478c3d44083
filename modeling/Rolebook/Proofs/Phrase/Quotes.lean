import Rolebook.Proofs.Phrase.Refill

/-!
# The quotes around a name

Each slot of a command is filled with what stands between two quotes that follow on each other in
the text, the first and the second one, the third and the fourth, and so on. Nothing but a quote
stands right before a name and right behind it, and no quote stands in it. But the quotes are taken
as they come: one that opens a name may be of another kind than the one that closes it, so a name in
double quotes ends at an apostrophe in it (`name_cut_at_apostrophe`).
`captured_between_paired_quotes_iff` says when that does not happen.
-/

namespace Rolebook.Phrase

/-! ## Spans with the quotes around them -/

/-- A text taken apart at two of its quotes. -/
structure Span where
  before : List Char
  opening : Char
  inside : List Char
  closing : Char
  behind : List Char
deriving DecidableEq, Repr

/-- A text has a span under a number: something that has no quotes, between two quotes of the text,
with two quotes before it for each span that comes first. -/
structure Span.IsIn (span : Span) (text : List Char) (number : Nat) : Prop where
  parts : text = span.before ++ span.opening :: (span.inside ++ span.closing :: span.behind)
  opening : isQuote span.opening = true
  closing : isQuote span.closing = true
  filled : span.inside ≠ []
  free : ∀ c ∈ span.inside, isQuote c = false
  position : (span.before.filter isQuote).length = 2 * number

/-- The span stands between two quotes of one kind. -/
def Span.Paired (span : Span) : Prop :=
  span.opening = span.closing

instance (span : Span) : Decidable span.Paired :=
  inferInstanceAs (Decidable (_ = _))

/-- The numbers of the spans that fill the slots of a command. -/
def Origin.spans : Origin → List Nat
  | .createPermission name none => [name]
  | .createPermission name (some description) => [name, description]
  | .createRole name => [name]
  | .removePermission role permission => [role, permission]
  | .assignPermission role permission => [role, permission]

/-! ## Where the spans of a text stand -/

theorem nameAt?_eq (parts : List (List Char)) (place : Nat) :
    nameAt? parts place =
      if place + 1 < parts.length ∧ parts.getD place [] ≠ [] then some
        (String.ofList (parts.getD place [])) else none := by
  have hName : parts.getD place [] = (parts.drop place).head?.getD [] := by
    rw [List.head?_drop, List.getD_eq_getElem?_getD]
  have hLength : (parts.drop place).length = parts.length - place := List.length_drop
  unfold nameAt?
  rw [hName]
  rcases hDrop : parts.drop place with _ | ⟨name, _ | ⟨next, others⟩⟩
  · simp
  · rw [hDrop, List.length_singleton] at hLength
    exact (if_neg fun hBoth => by omega).symm
  · rw [hDrop, List.length_cons, List.length_cons] at hLength
    have hThere : place + 1 < parts.length := by omega
    by_cases hEmpty : name = [] <;> simp [hThere, hEmpty]

theorem spanAt?_of_last {parts : List (List Char)} {span : Nat}
    (hLast : parts.length ≤ 2 * span + 2) :
    spanAt? parts span = none := by
  rw [spanAt?, nameAt?_eq]
  exact if_neg fun hThere => Nat.not_lt.2 hLast hThere.1

/-- A text that has any span is cut at its first two quotes. -/
theorem exists_cut_of_spanAt? {text : List Char} {number : Nat} {name : String}
    (hName : spanAt? (segments text) number = some name) :
    ∃ first opening inside closing behind,
      text = first ++ opening :: (inside ++ closing :: behind) ∧
        segments text = first :: inside :: segments behind ∧
        (isQuote opening = true ∧ isQuote closing = true) ∧ (∀ c ∈ first, isQuote c = false) ∧
          ∀ c ∈ inside, isQuote c = false := by
  obtain ⟨first, hFirst, ⟨-, hAlone⟩ | ⟨opening, rest, hOpening, rfl, hCut⟩⟩ :=
    exists_first_segment text
  · rw [hAlone, spanAt?_of_last (by simp)] at hName
    cases hName
  · obtain ⟨inside, hInside, ⟨-, hAlone⟩ | ⟨closing, behind, hClosing, rfl, hCut'⟩⟩ :=
      exists_first_segment rest
    · rw [hCut, hAlone, spanAt?_of_last (by simp)] at hName
      cases hName
    · exact ⟨first, opening, inside, closing, behind, rfl, by rw [hCut, hCut'],
        ⟨hOpening, hClosing⟩, hFirst, hInside⟩

theorem filter_isQuote_eq_nil {cs : List Char} (hFree : ∀ c ∈ cs, isQuote c = false) :
    cs.filter isQuote = [] :=
  List.filter_eq_nil_iff.2 (by simpa using hFree)

/-- What stands in the span of a number stands between two quotes of the text, behind as many quotes
as the number says. -/
theorem exists_span {text : List Char} {number : Nat} {name : String}
    (hName : spanAt? (segments text) number = some name) :
    ∃ span : Span, span.IsIn text number ∧ String.ofList span.inside = name := by
  induction number generalizing text with
  | zero =>
      obtain ⟨first, opening, inside, closing, behind, rfl, hCut, ⟨hOpening, hClosing⟩,
          hFirst, hInside⟩ :=
        exists_cut_of_spanAt? hName
      obtain ⟨next, others, hBehind⟩ := exists_segments_eq_cons behind
      rw [hCut, hBehind] at hName
      have hFilled : inside ≠ [] := by
        rintro rfl
        cases hName
      refine ⟨⟨first, opening, inside, closing, behind⟩,
        ⟨rfl, hOpening, hClosing, hFilled, hInside, ?_⟩, ?_⟩
      · rw [filter_isQuote_eq_nil hFirst, List.length_nil]
      · simpa [spanAt?, nameAt?, hFilled] using hName
  | succ number ih =>
      obtain ⟨first, opening, inside, closing, behind, rfl, hCut, ⟨hOpening, hClosing⟩,
          hFirst, hInside⟩ :=
        exists_cut_of_spanAt? hName
      -- the first two quotes are passed over with what stands before and between them
      rw [hCut, spanAt?_succ] at hName
      obtain ⟨span, hSpan, hInside'⟩ := ih hName
      refine ⟨{ span with before := first ++ opening :: (inside ++ closing :: span.before) },
        ⟨?_, hSpan.opening, hSpan.closing, hSpan.filled, hSpan.free, ?_⟩, hInside'⟩
      · rw [hSpan.parts]
        simp
      · have hPosition := hSpan.position
        simp only [List.filter_append, List.filter_cons, filter_isQuote_eq_nil hFirst,
          filter_isQuote_eq_nil hInside,
          hOpening, hClosing, if_true, List.nil_append, List.length_cons]
        omega

/-- The quotes of a span are two quotes of the text that follow on each other. -/
theorem Span.IsIn.quotes {span : Span} {text : List Char} {number : Nat}
    (h : span.IsIn text number) :
    (text.filter isQuote)[2 * number]? = some span.opening ∧
      (text.filter isQuote)[2 * number + 1]? = some span.closing := by
  have hQuotes : text.filter isQuote =
      span.before.filter isQuote ++ span.opening :: span.closing :: span.behind.filter isQuote := by
    rw [h.parts]
    simp [filter_isQuote_eq_nil h.free, h.opening, h.closing]
  rw [hQuotes, ← h.position]
  simp

/-- The spans that fill the slots of a command are there. -/
theorem Origin.isSome_spanAt? {origin : Origin} {parts : List (List Char)} {command : Command}
    (hCommand : origin.command? parts = some command) :
    ∀ number ∈ origin.spans, (spanAt? parts number).isSome := by
  cases origin with
  | createPermission name description =>
      cases description <;>
        simp only [Origin.command?, Option.bind_eq_bind, Option.bind_eq_some_iff] at hCommand
      · obtain ⟨_, hName, -⟩ := hCommand
        simp [Origin.spans, hName]
      · obtain ⟨_, hName, _, hDescription, -⟩ := hCommand
        simp [Origin.spans, hName, hDescription]
  | createRole name =>
      simp only [Origin.command?, Option.bind_eq_bind, Option.bind_eq_some_iff] at hCommand
      obtain ⟨_, hName, -⟩ := hCommand
      simp [Origin.spans, hName]
  | removePermission role permission | assignPermission role permission =>
      simp only [Origin.command?, Option.bind_eq_bind, Option.bind_eq_some_iff] at hCommand
      obtain ⟨_, hRole, _, hPermission, -⟩ := hCommand
      simp [Origin.spans, hRole, hPermission]

/-! ## Names between quotes of one kind -/

/-- What a command has in its slots stands between quotes of the text, without a quote in it. It
stands between quotes of one kind exactly if, for each slot, the two quotes with the numbers that
belong to its span are equal, which is a matter of the quotes of the text alone. -/
theorem captured_between_paired_quotes_iff {text : String} {command : Command}
    (hCommand : parse? text = some command) :
    ∃ origin, originOf? text = some origin ∧ origin.command? (segments text.toList) = some command ∧
      (∀ number ∈ origin.spans, ∃ span : Span, span.IsIn text.toList number ∧
        spanAt? (segments text.toList) number = some (String.ofList span.inside)) ∧
      ((∀ number ∈ origin.spans, ∃ span : Span, span.IsIn text.toList number ∧ span.Paired) ↔
        ∀ number ∈ origin.spans,
          (text.toList.filter isQuote)[2 * number]? =
            (text.toList.filter isQuote)[2 * number + 1]?) := by
  rw [parse?_eq_originOf?_bind] at hCommand
  obtain ⟨origin, hOrigin, hCommand⟩ := Option.bind_eq_some_iff.1 hCommand
  have hSpans : ∀ number ∈ origin.spans, ∃ span : Span, span.IsIn text.toList number ∧
      spanAt? (segments text.toList) number = some (String.ofList span.inside) := by
    intro number hNumber
    obtain ⟨name, hName⟩ :=
      Option.isSome_iff_exists.1 (Origin.isSome_spanAt? hCommand number hNumber)
    obtain ⟨span, hSpan, rfl⟩ := exists_span hName
    exact ⟨span, hSpan, hName⟩
  refine ⟨origin, hOrigin, hCommand, hSpans, forall₂_congr fun number hNumber => ?_⟩
  constructor
  · rintro ⟨span, hSpan, hPaired⟩
    rw [hSpan.quotes.1, hSpan.quotes.2, hPaired]
  · intro hSame
    obtain ⟨span, hSpan, -⟩ := hSpans number hNumber
    rw [hSpan.quotes.1, hSpan.quotes.2] at hSame
    exact ⟨span, hSpan, Option.some.inj hSame⟩

theorem captured_between_paired_quotes_iff_of_plainPhrase :
    parse? plainPhrase = some (.assignPermission "editor" "publish") ∧
      ∃ origin, originOf? plainPhrase = some origin ∧ origin = .assignPermission 0 1 ∧
        ∀ number ∈ origin.spans,
          ∃ span : Span, span.IsIn plainPhrase.toList number ∧ span.Paired := by
  have hPlain : parse? plainPhrase = some (.assignPermission "editor" "publish") := by
    decide +kernel
  obtain ⟨origin, hOrigin, -, -, hPaired⟩ := captured_between_paired_quotes_iff hPlain
  have hOrigin' : originOf? plainPhrase = some (.assignPermission 0 1) := by decide +kernel
  obtain rfl := Option.some.inj (hOrigin.symm.trans hOrigin')
  exact ⟨hPlain, _, hOrigin, rfl, hPaired.2 (by decide +kernel)⟩

/-- The double quote that opens the name is closed by the apostrophe in it. Nowhere in the text does
the name that is taken stand between two quotes of one kind. -/
theorem name_cut_at_apostrophe :
    parse? "create role \"children's editor\"" = some (.createRole "children") ∧
      ∀ quote, isQuote quote = true →
        ¬ quote :: ("children".toList ++ [quote]) <:+:
          "create role \"children's editor\"".toList := by
  refine ⟨by decide +kernel, fun quote hQuote => ?_⟩
  rw [isQuote, Bool.or_eq_true, beq_iff_eq, beq_iff_eq] at hQuote
  rcases hQuote with rfl | rfl <;> decide +kernel

end Rolebook.Phrase
