import Rolebook.Proofs.Phrase.Segments

/-!
# Verbs of removal in phrases that grant

The shapes that take a permission away are tried before those that give one, but they ask for the
verb at certain places, and the shapes that give do not ask for a verb at all. So a text in which
the verb stands elsewhere is read as a grant. `removal_is_no_grant_iff` says for which texts this
does not happen.
-/

namespace Rolebook.Phrase

/-! ## The first shape that fits -/

/-- The kind of command that a reading makes. -/
def Reading.intent : Reading → Intent
  | .newPermission => .createPermission
  | .newRole => .createRole
  | .removeRoleFirst | .removePermissionFirst => .removePermission
  | .assignRoleFirst | .assignPermissionFirst => .assignPermission

/-- The number of names that a reading asks for. -/
def Reading.arity : Reading → Nat
  | .newPermission | .newRole => 1
  | _ => 2

theorem Reading.intent_of_command? {reading : Reading} {names : List String} {command : Command}
    (h : reading.command? names = some command) : command.intent = reading.intent := by
  rcases names with _ | ⟨first, _ | ⟨second, others⟩⟩ <;> cases reading <;> cases h <;> rfl

theorem Reading.isSome_command? {reading : Reading} {names : List String}
    (h : reading.arity ≤ names.length) :
    (reading.command? names).isSome := by
  rcases names with _ | ⟨first, _ | ⟨second, others⟩⟩ <;> cases reading <;>
    simp_all [Reading.arity, Reading.command?]

theorem arity_le_count {shape : Shape} (hShape : shape ∈ shapes) :
    shape.reading.arity ≤ shape.tokens.count .name := by
  have table : (shapes.all fun shape => decide (shape.reading.arity ≤ shape.tokens.count .name)) =
      true := by decide
  simpa using List.all_eq_true.1 table shape hShape

theorem Shape.intent_of_command? {shape : Shape} {text : List Char} {command : Command}
    (h : shape.command? text = some command) : command.intent = shape.reading.intent := by
  unfold Shape.command? at h
  split at h
  · exact Reading.intent_of_command? h
  · cases h

/-- A shape makes a command of a text exactly if its tokens stand in the segments of the text. -/
theorem Shape.isSome_command?_iff {shape : Shape} (hShape : shape ∈ shapes) (text : List Char) :
    (shape.command? text).isSome ↔ Fits shape.tokens false (segments text) := by
  rw [← namesOf?_isSome_iff (wellShaped_of_mem_shapes hShape)]
  unfold Shape.command?
  split
  · next names hNames =>
      refine iff_of_true (Reading.isSome_command? ?_) (by simp [hNames])
      have hCount := count_name_le_length hNames
      have hArity := arity_le_count hShape
      rw [List.length_map]
      omega
  · next hNone => simp [hNone]

theorem exists_assigns_iff (command? : Option Command) :
    (∃ role permission, command? = some (.assignPermission role permission)) ↔
      command?.map Command.intent = some .assignPermission := by
  rcases command? with _ | command
  · simp
  · cases command <;> simp [Command.intent]

/-- A text is read as a grant exactly if some shape of a grant fits and no shape of another command
does, since the shapes of grants are tried last. -/
theorem assigns_iff_fits (text : String) :
    (∃ role permission, parse? text = some (.assignPermission role permission)) ↔
      (∃ shape ∈ shapes, shape.reading.intent = .assignPermission ∧
        Fits shape.tokens false (segments text.toList)) ∧
        ∀ shape ∈ shapes, shape.reading.intent ≠ .assignPermission →
          ¬ Fits shape.tokens false (segments text.toList) := by
  -- the list of shapes is those of other commands and then those of grants
  have hOrder : shapes = (shapes.filter fun shape => shape.reading.intent ≠ .assignPermission) ++
      shapes.filter fun shape => shape.reading.intent = .assignPermission := by decide
  have hParse : parse? text =
      ((shapes.filter fun shape => shape.reading.intent ≠ .assignPermission).findSome?
      fun shape => shape.command? text.toList).or
        ((shapes.filter fun shape => shape.reading.intent = .assignPermission).findSome?
          fun shape => shape.command? text.toList) := by
    rw [← List.findSome?_append, ← hOrder]
    rfl
  rw [exists_assigns_iff, hParse]
  cases hOthers : (shapes.filter fun shape => shape.reading.intent ≠ .assignPermission).findSome?
      fun shape => shape.command? text.toList with
  | some command =>
      obtain ⟨shape, hShape, hCommand⟩ := List.exists_of_findSome?_eq_some hOthers
      obtain ⟨hShape, hIntent⟩ := List.mem_filter.1 hShape
      have hIntent : shape.reading.intent ≠ .assignPermission := of_decide_eq_true hIntent
      refine iff_of_false ?_ ?_
      · rw [Option.some_or, Option.map_some, Shape.intent_of_command? hCommand]
        exact fun h => hIntent (Option.some.inj h)
      · rintro ⟨-, hNone⟩
        exact hNone shape hShape hIntent
          ((Shape.isSome_command?_iff hShape _).1 (by simp [hCommand]))
  | none =>
      have hNone : ∀ shape ∈ shapes, shape.reading.intent ≠ .assignPermission →
          ¬ Fits shape.tokens false (segments text.toList) := by
        intro shape hShape hIntent hFits
        have hCommand := List.findSome?_eq_none_iff.1 hOthers shape
          (List.mem_filter.2 ⟨hShape, decide_eq_true hIntent⟩)
        rw [← Shape.isSome_command?_iff hShape, hCommand] at hFits
        cases hFits
      rw [Option.none_or, and_iff_left hNone]
      constructor
      · intro hMap
        obtain ⟨command, hCommand, -⟩ := Option.map_eq_some_iff.1 hMap
        obtain ⟨shape, hShape, hCommand⟩ := List.exists_of_findSome?_eq_some hCommand
        obtain ⟨hShape, hIntent⟩ := List.mem_filter.1 hShape
        exact ⟨shape, hShape, of_decide_eq_true hIntent,
          (Shape.isSome_command?_iff hShape _).1 (by simp [hCommand])⟩
      · rintro ⟨shape, hShape, hIntent, hFits⟩
        have hSome :
            ((shapes.filter fun shape => shape.reading.intent = .assignPermission).findSome?
            fun shape => shape.command? text.toList).isSome :=
          List.findSome?_isSome_iff.2 ⟨shape, List.mem_filter.2 ⟨hShape, decide_eq_true hIntent⟩,
            (Shape.isSome_command?_iff hShape _).2 hFits⟩
        obtain ⟨command, hCommand⟩ := Option.isSome_iff_exists.1 hSome
        obtain ⟨other, hOther, hMade⟩ := List.exists_of_findSome?_eq_some hCommand
        rw [hCommand, Option.map_some, Shape.intent_of_command? hMade,
          of_decide_eq_true (List.mem_filter.1 hOther).2]

/-! ## Phrases with two names -/

/-- What stands in front of two names, between them and behind them. -/
structure Around where
  front : List Char
  between : List Char
  behind : List Char

/-- What stands around the first two names of a text that is cut at its quotes. -/
def around? : List (List Char) → Option Around
  | front :: first :: between :: second :: behind :: _ =>
    if first = [] ∨ second = [] then none else some ⟨front, between, behind⟩
  | _ => none

theorem around?_eq_some_iff {parts : List (List Char)} {around : Around} :
    around? parts = some around ↔
      ∃ first second others, first ≠ [] ∧ second ≠ [] ∧
        parts = around.front :: first :: around.between :: second :: around.behind :: others := by
  constructor
  · intro h
    unfold around? at h
    split at h
    · next front first between second behind others =>
        split at h
        · cases h
        · next hNames =>
            obtain rfl := Option.some.inj h
            obtain ⟨hFirst, hSecond⟩ := not_or.1 hNames
            exact ⟨first, second, others, hFirst, hSecond, rfl⟩
    · cases h
  · rintro ⟨first, second, others, hFirst, hSecond, rfl⟩
    rw [around?, if_neg (not_or.2 ⟨hFirst, hSecond⟩)]

/-- The keywords of a shape with two names stand around the names. -/
theorem fits_two_names (front between behind : List Token)
    (hKeywords : Keywords front ∧ Keywords between ∧ Keywords behind) {text : List Char} :
    Fits (front ++ .name :: (between ++ .name :: behind)) false (segments text) ↔
      ∃ around, around? (segments text) = some around ∧ Stand front around.front ∧
        Stand between around.between ∧
        Stand behind around.behind := by
  obtain ⟨hFront, hBetween, hBehind⟩ := hKeywords
  obtain ⟨segment, parts, hSegments⟩ := exists_segments_eq_cons text
  rw [hSegments, fits_append_name hFront]
  constructor
  · rintro ⟨hFits, first, next, others, rfl, hFirst, hRest⟩
    obtain ⟨hFits', second, last, others, rfl, hSecond, hLast⟩ :=
      (fits_append_name hBetween).1 hRest
    exact ⟨⟨segment, next, last⟩,
      around?_eq_some_iff.2 ⟨first, second, others, hFirst, hSecond, rfl⟩, hFits, hFits',
      (fits_keywords hBehind).1 hLast⟩
  · rintro ⟨⟨_, next, last⟩, hAround, hFits, hFits', hLast⟩
    obtain ⟨first, second, others, hFirst, hSecond, hParts⟩ := around?_eq_some_iff.1 hAround
    obtain ⟨rfl, rfl⟩ := List.cons.inj hParts
    exact ⟨hFits, first, next, _, rfl, hFirst,
      (fits_append_name hBetween).2 ⟨hFits', second, last, others, rfl, hSecond,
        (fits_keywords hBehind).2 hLast⟩⟩

namespace Around

variable (around : Around)

/-- The words ask for something new. -/
def Creates : Prop :=
  Stand ["create", "permission"] around.front ∨ Stand ["create", "role"] around.front

/-- The words take a permission from a role, with the verb at one of the three places where it is
looked for. -/
def Removes : Prop :=
  Stand [.removalVerb, "permission"] around.front ∧ Stand ["role"] around.between ∨
    Stand ["role"] around.front ∧ Stand [.removalVerb, "permission"] around.between ∨
      Stand ["role"] around.front ∧ Stand ["permission"] around.between ∧
        Stand [.removalVerb] around.behind

/-- The words tell a role from a permission, which is enough for a grant. -/
def Grants : Prop :=
  Stand ["permission"] around.between ∨
    Stand ["permission"] around.front ∧ Stand ["role"] around.between ∨
      Stand ["role"] around.between ∧ Stand ["permission"] around.behind

end Around

theorem grants_iff_fits (text : List Char) :
    (∃ shape ∈ shapes, shape.reading.intent = .assignPermission ∧
      Fits shape.tokens false (segments text)) ↔
      ∃ around, around? (segments text) = some around ∧ around.Grants := by
  constructor
  · rintro ⟨shape, hShape, hIntent, hFits⟩
    simp only [shapes, List.mem_cons, List.not_mem_nil, or_false] at hShape
    rcases hShape with rfl | rfl | rfl | rfl | rfl | rfl | rfl | rfl | rfl | rfl | rfl | rfl
    -- five shapes are of other commands
    iterate 5 cases hIntent
    · obtain ⟨around, hAround, -, hBetween, -⟩ :=
        (fits_two_names ["give", "role"] ["permission"] [] (by decide)).1 hFits
      exact ⟨around, hAround, .inl hBetween⟩
    · obtain ⟨around, hAround, hFront, hBetween, -⟩ :=
        (fits_two_names ["assign", "permission"] ["role"] [] (by decide)).1 hFits
      exact ⟨around, hAround, .inr (.inl ⟨hFront.tail (by decide), hBetween⟩)⟩
    · obtain ⟨around, hAround, hFront, hBetween, -⟩ :=
        (fits_two_names ["add", "permission"] ["role"] [] (by decide)).1 hFits
      exact ⟨around, hAround, .inr (.inl ⟨hFront.tail (by decide), hBetween⟩)⟩
    · obtain ⟨around, hAround, -, hBetween, -⟩ :=
        (fits_two_names ["role"] ["permission"] [] (by decide)).1 hFits
      exact ⟨around, hAround, .inl hBetween⟩
    · obtain ⟨around, hAround, hFront, hBetween, -⟩ :=
        (fits_two_names ["permission"] ["role"] [] (by decide)).1 hFits
      exact ⟨around, hAround, .inr (.inl ⟨hFront, hBetween⟩)⟩
    · obtain ⟨around, hAround, -, hBetween, -⟩ :=
        (fits_two_names [] ["permission"] [] (by decide)).1 hFits
      exact ⟨around, hAround, .inl hBetween⟩
    · obtain ⟨around, hAround, -, hBetween, hBehind⟩ :=
        (fits_two_names [] ["role"] ["permission"] (by decide)).1 hFits
      exact ⟨around, hAround, .inr (.inr ⟨hBetween, hBehind⟩)⟩
  · rintro ⟨around, hAround, hBetween | ⟨hFront, hBetween⟩ | ⟨hBetween, hBehind⟩⟩
    · exact ⟨⟨[.name, "permission", .name], .assignRoleFirst⟩, by decide, rfl,
        (fits_two_names [] ["permission"] [] (by decide)).2
          ⟨around, hAround, trivial, hBetween, trivial⟩⟩
    · exact ⟨⟨["permission", .name, "role", .name], .assignPermissionFirst⟩, by decide, rfl,
        (fits_two_names ["permission"] ["role"] [] (by decide)).2
          ⟨around, hAround, hFront, hBetween, trivial⟩⟩
    · exact ⟨⟨[.name, "role", .name, "permission"], .assignRoleFirst⟩, by decide, rfl,
        (fits_two_names [] ["role"] ["permission"] (by decide)).2
          ⟨around, hAround, trivial, hBetween, hBehind⟩⟩

/-- Where there are two names, the shapes of other commands than grants come to what stands around
the names. -/
theorem others_iff_fits {text : List Char} {around : Around}
    (hAround : around? (segments text) = some around) :
    (∃ shape ∈ shapes, shape.reading.intent ≠ .assignPermission ∧
      Fits shape.tokens false (segments text)) ↔
      around.Creates ∨ around.Removes := by
  have hTwo (front between behind : List Token)
      (h : Keywords front ∧ Keywords between ∧ Keywords behind) :
      Fits (front ++ .name :: (between ++ .name :: behind)) false (segments text) ↔
        Stand front around.front ∧ Stand between around.between ∧ Stand behind around.behind := by
    rw [fits_two_names front between behind h, hAround]
    simp
  have hOne (front behind : List Token) (h : Keywords front)
      (hBehind : ∀ parts, Fits behind false parts) :
      Fits (front ++ .name :: behind) false (segments text) ↔ Stand front around.front := by
    obtain ⟨first, second, others, hFirst, -, hParts⟩ := around?_eq_some_iff.1 hAround
    rw [hParts, fits_append_name h]
    exact and_iff_left ⟨first, _, _, rfl, hFirst, hBehind _⟩
  constructor
  · rintro ⟨shape, hShape, hIntent, hFits⟩
    simp only [shapes, List.mem_cons, List.not_mem_nil, or_false] at hShape
    rcases hShape with rfl | rfl | rfl | rfl | rfl | rfl | rfl | rfl | rfl | rfl | rfl | rfl
    · exact .inl
        (.inl ((hOne ["create", "permission"] [.description] (by decide) fun _ => trivial).1 hFits))
    · exact .inl (.inr ((hOne ["create", "role"] [] (by decide) fun _ => trivial).1 hFits))
    · obtain ⟨hFront, hBetween, -⟩ :=
        (hTwo [.removalVerb, "permission"] ["role"] [] (by decide)).1 hFits
      exact .inr (.inl ⟨hFront, hBetween⟩)
    · obtain ⟨hFront, hBetween, -⟩ :=
        (hTwo ["role"] [.removalVerb, "permission"] [] (by decide)).1 hFits
      exact .inr (.inr (.inl ⟨hFront, hBetween⟩))
    · exact .inr (.inr (.inr ((hTwo ["role"] ["permission"] [.removalVerb] (by decide)).1 hFits)))
    -- the rest are shapes of grants
    all_goals exact absurd rfl hIntent
  · rintro ((hFront | hFront) | ⟨hFront, hBetween⟩ | ⟨hFront, hBetween⟩ | hAll)
    · exact ⟨⟨["create", "permission", .name, .description], .newPermission⟩, by decide, by decide,
        (hOne ["create", "permission"] [.description] (by decide) fun _ => trivial).2 hFront⟩
    · exact ⟨⟨["create", "role", .name], .newRole⟩, by decide, by decide,
        (hOne ["create", "role"] [] (by decide) fun _ => trivial).2 hFront⟩
    · exact ⟨⟨[.removalVerb, "permission", .name, "role", .name], .removePermissionFirst⟩,
        by decide, by decide,
        (hTwo [.removalVerb, "permission"] ["role"] [] (by decide)).2 ⟨hFront, hBetween, trivial⟩⟩
    · exact ⟨⟨["role", .name, .removalVerb, "permission", .name], .removeRoleFirst⟩,
        by decide, by decide,
        (hTwo ["role"] [.removalVerb, "permission"] [] (by decide)).2 ⟨hFront, hBetween, trivial⟩⟩
    · exact ⟨⟨["role", .name, "permission", .name, .removalVerb], .removeRoleFirst⟩,
        by decide, by decide,
        (hTwo ["role"] ["permission"] [.removalVerb] (by decide)).2 hAll⟩

/-- The texts that are read as grants. -/
theorem assigns_iff (text : String) :
    (∃ role permission, parse? text = some (.assignPermission role permission)) ↔
      ∃ around, around? (segments text.toList) = some around ∧ around.Grants ∧ ¬ around.Creates ∧
        ¬ around.Removes := by
  rw [assigns_iff_fits, grants_iff_fits]
  constructor
  · rintro ⟨⟨around, hAround, hGrants⟩, hNone⟩
    have hOthers : ¬ (around.Creates ∨ around.Removes) := by
      rw [← others_iff_fits hAround]
      rintro ⟨shape, hShape, hIntent, hFits⟩
      exact hNone shape hShape hIntent hFits
    exact ⟨around, hAround, hGrants, not_or.1 hOthers⟩
  · rintro ⟨around, hAround, hGrants, hOthers⟩
    refine ⟨⟨around, hAround, hGrants⟩, fun shape hShape hIntent hFits => ?_⟩
    exact not_or.2 hOthers ((others_iff_fits hAround).1 ⟨shape, hShape, hIntent, hFits⟩)

/-- A word that begins with a verb of removal stands somewhere outside the quotes of a text. The
last segment is outside them at any place, since no quote follows on it. -/
def MentionsRemoval (text : String) : Prop :=
  ∃ index segment, (segments text.toList)[index]? = some segment ∧
    (index % 2 = 0 ∨ index + 1 = (segments text.toList).length) ∧ Stand [.removalVerb] segment

/-- A text that mentions removal is kept from being read as a grant exactly if it has no two names
that are told apart as those of a role and a permission, or it asks for something new, or the verb
stands at one of the three places where it is looked for. -/
theorem removal_is_no_grant_iff (text : String) :
    (MentionsRemoval text →
        ∀ role permission, parse? text ≠ some (.assignPermission role permission)) ↔
      (MentionsRemoval text → ∀ around, around? (segments text.toList) = some around →
        around.Grants → around.Creates ∨ around.Removes) := by
  refine forall_congr' fun _ => ?_
  have hAssigns := assigns_iff text
  constructor
  · intro hNever around hAround hGrants
    by_cases hOthers : around.Creates ∨ around.Removes
    · exact hOthers
    · obtain ⟨role, permission, hParse⟩ := hAssigns.2 ⟨around, hAround, hGrants, not_or.1 hOthers⟩
      exact absurd hParse (hNever role permission)
  · intro hAlways role permission hParse
    obtain ⟨around, hAround, hGrants, hCreates, hRemoves⟩ := hAssigns.1 ⟨role, permission, hParse⟩
    exact not_or.2 ⟨hCreates, hRemoves⟩ (hAlways around hAround hGrants)

/-- The verb stands in front of the role, but the word that tells the permission stands behind
it. -/
theorem removal_read_as_grant :
    MentionsRemoval "remove from role \"editor\" the permission \"publish\"" ∧
      parse? "remove from role \"editor\" the permission \"publish\"" =
        some (.assignPermission "editor" "publish") := by
  have hVerb : Fits [.removalVerb] false (segments "remove from role ".toList) :=
    (namesOf?_isSome_iff (by decide) _).1 (by decide +kernel)
  rw [show segments "remove from role ".toList = ["remove from role ".toList] by decide +kernel]
    at hVerb
  exact ⟨⟨0, _, by decide +kernel, .inl rfl, hVerb⟩, by decide +kernel⟩

end Rolebook.Phrase
