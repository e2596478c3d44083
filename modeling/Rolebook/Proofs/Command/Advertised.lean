import Rolebook.Proofs.Command.Independence
import Rolebook.Proofs.Phrase.Normalize

/-!
# Phrases for every role and every permission

The phrases that are advertised reach every role and every permission whose names have no quotes in
them, whatever else their names are made of. A name may be put between quotes of either kind and
with blanks around it: the text is a command about this name (`Phrasing.parse?_text`), since the
words of the phrase alone decide on the command and the names are trimmed before they are looked
for. The command does what the phrase says and it never fails
(`advertised_phrases_reach_everything`).
-/

namespace Rolebook.Command

open Rolebook.Memory
open Rolebook.Phrase (Reading Shape SameOutline isQuote nameAt? segments shapeIn?)
open Rolebook.Text (isBlank)

/-! ## Phrases -/

/-- A name as it is written in a phrase: in quotes of either kind, with blanks around it. It has no
quote in it. -/
structure QuotedName where
  name : String
  opening : Char
  lead : List Char
  trail : List Char
  closing : Char
  opens : isQuote opening = true
  lead_blank : ∀ c ∈ lead, isBlank c = true
  name_free : ∀ c ∈ name.toList, isQuote c = false
  trail_blank : ∀ c ∈ trail, isBlank c = true
  closes : isQuote closing = true

namespace QuotedName

theorem free_of_all {chars : List Char} (hChars : (chars.all fun c => !isQuote c) = true) :
    ∀ c ∈ chars, isQuote c = false := by
  simpa using hChars

variable (quoted : QuotedName)

/-- What stands between the quotes. -/
def inside : List Char :=
  quoted.lead ++ (quoted.name.toList ++ quoted.trail)

/-- The name in its quotes, in front of the rest of a text. -/
def before (rest : List Char) : List Char :=
  quoted.opening :: (quoted.inside ++ quoted.closing :: rest)

variable {quoted}

theorem inside_free : ∀ c ∈ quoted.inside, isQuote c = false := by
  intro c hMember
  rw [inside, List.mem_append, List.mem_append] at hMember
  rcases hMember with hLead | hName | hTrail
  · exact Phrase.isQuote_of_isBlank (quoted.lead_blank c hLead)
  · exact quoted.name_free c hName
  · exact Phrase.isQuote_of_isBlank (quoted.trail_blank c hTrail)

theorem inside_ne_nil (hName : quoted.name ≠ "") : quoted.inside ≠ [] := by
  simp [inside, hName]

/-- A name that is kept is found again between its quotes. -/
theorem trim_inside (hName : Text.trim quoted.name = quoted.name) :
    Text.trim (String.ofList quoted.inside) = quoted.name := by
  rw [Text.trim, String.toList_ofList, inside,
    Text.trimBlanks_blanks quoted.lead_blank quoted.trail_blank]
  exact hName

/-- Words and a name behind them are two segments of a text. -/
theorem segments_before {words : List Char} (hWords : ∀ c ∈ words, isQuote c = false)
    (rest : List Char) :
    segments (words ++ quoted.before rest) = words :: quoted.inside :: segments rest := by
  rw [before, Phrase.segments_append_quote hWords quoted.opens,
    Phrase.segments_append_quote inside_free quoted.closes]

end QuotedName

/-- A way to ask for a change of what a role grants: words in front of one name and words in front
of another. -/
structure Phrasing where
  change : Change
  /-- Whether the role is the first to be named. -/
  roleFirst : Bool
  front : String
  between : String
deriving DecidableEq, Repr

/-- The phrases that are advertised. -/
def advertised : List Phrasing := [
  ⟨.grant, true, "give the role ", " the permission "⟩,
  ⟨.grant, false, "assign permission ", " to role "⟩,
  ⟨.grant, false, "add permission ", " to role "⟩,
  ⟨.revoke, false, "remove permission ", " from role "⟩,
  ⟨.revoke, true, "for role ", ", delete the permission "⟩]

namespace Phrasing

/-- What belongs to a role and to a permission, in the order in which they are named. -/
def inOrder {α : Type} (phrasing : Phrasing) (role permission : α) : α × α :=
  if phrasing.roleFirst then (role, permission) else (permission, role)

/-- The characters of the phrase about a role and a permission. -/
def chars (phrasing : Phrasing) (role permission : QuotedName) : List Char :=
  let names := phrasing.inOrder role permission
  phrasing.front.toList ++ names.1.before (phrasing.between.toList ++ names.2.before [])

/-- The phrase about a role and a permission. -/
def text (phrasing : Phrasing) (role permission : QuotedName) : String :=
  .ofList (phrasing.chars role permission)

/-- How the names of a phrase are read. -/
def reading (phrasing : Phrasing) : Reading :=
  match phrasing.change, phrasing.roleFirst with
  | .grant, true => .assignRoleFirst
  | .grant, false => .assignPermissionFirst
  | .revoke, true => .removeRoleFirst
  | .revoke, false => .removePermissionFirst

/-- The segments of a phrase with these names. -/
def parts (phrasing : Phrasing) (first second : List Char) : List (List Char) :=
  [phrasing.front.toList, first, phrasing.between.toList, second, []]

variable {phrasing : Phrasing} {role permission : QuotedName}

theorem words_free (hPhrasing : phrasing ∈ advertised) :
    (∀ c ∈ phrasing.front.toList, isQuote c = false) ∧
      ∀ c ∈ phrasing.between.toList, isQuote c = false := by
  have table : ∀ phrasing ∈ advertised, (phrasing.front.toList.all fun c => !isQuote c) = true ∧
      (phrasing.between.toList.all fun c => !isQuote c) = true := by
    decide +kernel
  obtain ⟨hFront, hBetween⟩ := table phrasing hPhrasing
  exact ⟨QuotedName.free_of_all hFront, QuotedName.free_of_all hBetween⟩

theorem segments_chars (hPhrasing : phrasing ∈ advertised) :
    segments (phrasing.chars role permission) =
      phrasing.parts (phrasing.inOrder role permission).1.inside
        (phrasing.inOrder role permission).2.inside := by
  obtain ⟨hFront, hBetween⟩ := words_free hPhrasing
  rw [chars, QuotedName.segments_before hFront, QuotedName.segments_before hBetween]
  rfl

/-- A name of one letter, as one may be written. -/
def letterName : QuotedName :=
  ⟨"x", '"', [], [], '"', rfl, nofun, QuotedName.free_of_all rfl, nofun, rfl⟩

/-- No name makes a phrase one of another shape, if there is something in it. -/
theorem shapeIn?_parts (hPhrasing : phrasing ∈ advertised) {first second : List Char}
    (hFirst : first ≠ []) (hSecond : second ≠ []) :
    (shapeIn? (phrasing.parts first second)).map Shape.reading = some phrasing.reading := by
  have table : ∀ phrasing ∈ advertised,
      (Phrase.shapes.find? fun shape =>
        (shape.command? (phrasing.chars letterName letterName)).isSome).map
        Shape.reading = some phrasing.reading := by
    decide +kernel
  have hOutline : SameOutline (phrasing.parts first second) (phrasing.parts ['x'] ['x']) := by
    refine .span (.span (.refl [[]]) ?_ ?_ _ ?_) ?_ ?_ _ ?_ <;> simp [hFirst, hSecond]
  have hLetters : segments (phrasing.chars letterName letterName) = phrasing.parts ['x'] ['x'] := by
    rw [segments_chars hPhrasing, inOrder]
    split <;> rfl
  rw [hOutline.shapeIn?_eq, ← hLetters, Phrase.shapeIn?_segments]
  exact table phrasing hPhrasing

/-- A phrase that is advertised asks for its change, about just what stands between its quotes. -/
theorem parse?_text (hPhrasing : phrasing ∈ advertised) (hRole : role.name ≠ "")
    (hPermission : permission.name ≠ "") :
    Phrase.parse? (phrasing.text role permission) =
      some (phrasing.change.command (.ofList role.inside) (.ofList permission.inside)) := by
  have hRole' := QuotedName.inside_ne_nil hRole
  have hPermission' := QuotedName.inside_ne_nil hPermission
  have hFirst : (phrasing.inOrder role permission).1.inside ≠ [] := by
    unfold inOrder
    split <;> assumption
  have hSecond : (phrasing.inOrder role permission).2.inside ≠ [] := by
    unfold inOrder
    split <;> assumption
  obtain ⟨shape, hShape, hReading⟩ :=
    Option.map_eq_some_iff.1 (shapeIn?_parts hPhrasing hFirst hSecond)
  rw [Phrase.parse?_eq_bind, text, String.toList_ofList, segments_chars hPhrasing,
    hShape, Option.bind_some,
    ← Phrase.Reading.commandIn_eq_command?, hReading]
  -- the names are at their places, in the order that the reading expects
  obtain ⟨change, roleFirst, front, between⟩ := phrasing
  cases change <;> cases roleFirst <;>
    simp [parts, inOrder, reading, Reading.commandIn, nameAt?, Change.command, hRole', hPermission']

end Phrasing

/-- The phrases as they are written about a role R and a permission P. -/
example :
    (advertised.map fun phrasing => phrasing.chars
      ⟨"R", '"', [], [], '"', rfl, nofun, QuotedName.free_of_all rfl, nofun, rfl⟩
      ⟨"P", '"', [], [], '"', rfl, nofun, QuotedName.free_of_all rfl, nofun, rfl⟩) = [
        "give the role \"R\" the permission \"P\"".toList,
        "assign permission \"P\" to role \"R\"".toList,
        "add permission \"P\" to role \"R\"".toList,
        "remove permission \"P\" from role \"R\"".toList,
        "for role \"R\", delete the permission \"P\"".toList] := by
  decide +kernel

/-! ## What they do -/

/-- A command has acted on one role and one permission and on nothing else, and has not failed:
either there was a need of the change, which it has made, or there was none. The role grants the
permission afterwards if that was asked for, and does not if the opposite was. -/
structure ActsOn (change : Change) (grant : Grant) (state : State) (reply : Reply) (after : State) :
    Prop where
  intent : reply.intent = some change.wording.intent
  outcome :
    reply.status = .success ∧ ¬ change.Idle grant.permission (state.permissionIdsOf grant.role) ∧
        after = change.apply grant state ∨
      reply.status = .info ∧ change.Idle grant.permission (state.permissionIdsOf grant.role) ∧
        after = state
  decided : grant.permission ∈ after.permissionIdsOf grant.role ↔ change = .grant

section Meanings

variable {state after : State} {change : Change} {grant : Grant} {pair? : Option Grant}
  {roleName permissionName : String} {reply : Reply}

/-- A change of a role and a permission that are there by the names that are given acts on these. -/
theorem ChangeMeans.actsOn (h : ChangeMeans change roleName permissionName state reply pair?)
    (hState : Coherent state) (hNames : Names roleName permissionName state grant) :
    ActsOn change grant state reply (change.applyTo pair? state) := by
  obtain ⟨hRole, hPermission⟩ := hNames
  cases h with
  | roleMissing hNone => exact absurd hRole (hNone _)
  | permissionMissing _ hNone => exact absurd hPermission (hNone _)
  | idle hRole' hPermission' hIdle =>
      obtain rfl := hState.roles.named_unique hRole hRole'
      obtain rfl := hState.permissions.named_unique hPermission hPermission'
      refine ⟨rfl, .inr ⟨rfl, hIdle, rfl⟩, ?_⟩
      cases change with
      | grant => exact iff_of_true hIdle rfl
      | revoke => exact iff_of_false hIdle nofun
  | made hRole' hPermission' hNeeded =>
      obtain rfl := hState.roles.named_unique hRole hRole'
      obtain rfl := hState.permissions.named_unique hPermission hPermission'
      refine ⟨rfl, .inl ⟨rfl, hNeeded, rfl⟩, ?_⟩
      rw [Change.applyTo, Option.elim_some, State.mem_permissionIdsOf, Change.mem_apply, if_pos rfl]

/-- A pair that is taken back after it was given leaves all pairs as they were. -/
theorem Change.revoke_grant (hAbsent : grant ∉ state.grants) :
    (Change.revoke.apply grant (Change.grant.apply grant state)).grants = state.grants := by
  apply OrderedSet.ext
  intro other
  rw [Change.mem_apply, Change.mem_apply]
  by_cases hOther : other = grant
  · simp [hOther, hAbsent]
  · simp [hOther]

/-- Both are found by their names afterwards. -/
theorem ActsOn.names (h : ActsOn change grant state reply after)
    (hNames : Names roleName permissionName state grant) :
    Names roleName permissionName after grant := by
  rcases h.outcome with ⟨-, -, rfl⟩ | ⟨-, -, rfl⟩
  · exact ⟨Change.named_apply.2 hNames.1, hNames.2⟩
  · exact hNames

/-- A permission that was given to a role can be taken from it, and every role has then what it had
before. -/
theorem ActsOn.taken_back {between : State} {reply' : Reply}
    (h : ActsOn .grant grant state reply between) (hSuccess : reply.status = .success)
    (h' : ActsOn .revoke grant between reply' after) :
    reply'.status = .success ∧ after.permissionIdsOf = state.permissionIdsOf := by
  rcases h.outcome with ⟨-, hAbsent, hBetween⟩ | ⟨hInfo, -⟩
  · -- the role grants the permission by now, so there is something to revoke
    rcases h'.outcome with ⟨hSuccess', -, hAfter⟩ | ⟨-, hIdle, -⟩
    · have hAbsent' : grant ∉ state.grants :=
        fun hMember => hAbsent (State.mem_permissionIdsOf.2 hMember)
      refine ⟨hSuccess', funext fun id => ?_⟩
      rw [hAfter, hBetween, State.permissionIdsOf, Change.revoke_grant hAbsent',
        State.permissionIdsOf]
    · exact absurd (h.decided.2 rfl) hIdle
  · rw [hSuccess] at hInfo
    cases hInfo

end Meanings

/-- A phrase that is advertised, about a role and a permission that are there by these names, acts
on them. -/
theorem run_phrasing {alone : Alone} (hState : Coherent alone.state) {phrasing : Phrasing}
    (hPhrasing : phrasing ∈ advertised) {role permission : QuotedName} {grant : Grant}
    (hNames : Names role.name permission.name alone.state grant) :
    ActsOn phrasing.change grant alone.state
      (alone.run (evaluate (phrasing.text role permission))).1
      (alone.run (evaluate (phrasing.text role permission))).2.state := by
  have hRole : role.name ≠ "" ∧ Text.trim role.name = role.name := by
    obtain ⟨record, hFound, hName⟩ := hNames.1
    exact hName ▸ hState.roles.name_kept _ record hFound
  have hPermission : permission.name ≠ "" ∧ Text.trim permission.name = permission.name := by
    obtain ⟨record, hFound, hName⟩ := hNames.2
    exact hName ▸ hState.permissions.name_kept _ record hFound
  obtain ⟨pair?, hMeans, hAfter⟩ :=
    run_evaluate_of_change hState (Phrasing.parse?_text hPhrasing hRole.1 hPermission.1)
  rw [QuotedName.trim_inside hRole.2, QuotedName.trim_inside hPermission.2] at hMeans
  rw [hAfter]
  exact hMeans.actsOn hState hNames

/-- Every role and every permission that are there, and whose names have no quotes in them, can be
administered by the phrases that are advertised: each of them acts on these two and on nothing else,
and never fails, whatever their names are made of, whichever quotes stand around them and whatever
blanks. And if a role is given a permission that it did not have, and the permission is then taken
from it, by any of the phrases, every role has the permissions that it had before. -/
theorem advertised_phrases_reach_everything {state : State} (hState : Reachable state)
    (clock : Nat → Moment) {role permission : QuotedName} {grant : Grant}
    (hNames : Names role.name permission.name state grant) {phrasing : Phrasing}
    (hPhrasing : phrasing ∈ advertised) :
    let ended := Alone.run ⟨state, clock⟩ (evaluate (phrasing.text role permission))
    ActsOn phrasing.change grant state ended.1 ended.2.state ∧
      (phrasing.change = .grant → ended.1.status = .success →
        ∀ back ∈ advertised, back.change = .revoke →
          ∀ role' permission' : QuotedName, role'.name = role.name →
            permission'.name = permission.name →
            let second := ended.2.run (evaluate (back.text role' permission'))
            second.1.status = .success ∧
              second.2.state.permissionIdsOf = state.permissionIdsOf) := by
  have hStart : Coherent (⟨state, clock⟩ : Alone).state := hState.coherent
  have hActs := run_phrasing hStart hPhrasing hNames
  refine ⟨hActs, fun hGrant hSuccess back hBack hRevoke role' permission' hRole hPermission => ?_⟩
  have hNames' := hActs.names hNames
  rw [← hRole, ← hPermission] at hNames'
  have hBackActs := run_phrasing (Alone.coherent_run hStart _) hBack hNames'
  rw [hGrant] at hActs
  rw [hRevoke] at hBackActs
  exact hActs.taken_back hSuccess hBackActs

/-- A role and a permission whose names are made of the words of commands. -/
def oddlyNamed : State :=
  ((State.empty.perform ⟨⟨0⟩, "p"⟩ (.createPermission "delete description" none)).2.perform
    ⟨⟨1⟩, "r"⟩ (.createRole "create permission")).2

theorem reachable_oddlyNamed : Reachable oddlyNamed :=
  (Reachable.empty.perform ⟨⟨0⟩, "p"⟩ (.createPermission "delete description" none) rfl).perform
    ⟨⟨1⟩, "r"⟩ (.createRole "create permission")
    (by change State.role? _ "r" = none; decide +kernel)

/-- The name of the role, between quotes of two kinds and with a tab and an ideographic space in
front of it. -/
def oddRole : QuotedName :=
  ⟨"create permission", '\'', ['\t', '\u3000'], [' '], '"', rfl, List.all_eq_true.1 rfl,
    QuotedName.free_of_all rfl, List.all_eq_true.1 rfl, rfl⟩

/-- The name of the permission, between quotes of one kind. -/
def oddPermission : QuotedName :=
  ⟨"delete description", '"', [], [], '"', rfl, nofun, QuotedName.free_of_all rfl, nofun, rfl⟩

theorem advertised_phrases_reach_everything_of_oddlyNamed :
    Reachable oddlyNamed ∧ Names oddRole.name oddPermission.name oddlyNamed ⟨"r", "p"⟩ ∧
      ⟨.grant, true, "give the role ", " the permission "⟩ ∈ advertised ∧
      ⟨.revoke, true, "for role ", ", delete the permission "⟩ ∈ advertised ∧
      let first := Alone.run ⟨oddlyNamed, fun _ => ⟨⟨9⟩, "new"⟩⟩
        (evaluate (Phrasing.text ⟨.grant, true, "give the role ", " the permission "⟩
          oddRole oddPermission))
      let second := first.2.run
        (evaluate (Phrasing.text ⟨.revoke, true, "for role ", ", delete the permission "⟩
          oddRole oddPermission))
      ActsOn .grant ⟨"r", "p"⟩ oddlyNamed first.1 first.2.state ∧ first.1.status = .success ∧
        second.1.status = .success ∧
        second.2.state.permissionIdsOf = oddlyNamed.permissionIdsOf := by
  have hNames : Names oddRole.name oddPermission.name oddlyNamed ⟨"r", "p"⟩ :=
    ⟨⟨⟨"r", "create permission", ⟨1⟩, 0⟩, by decide +kernel, rfl⟩,
      ⟨⟨"p", "delete description", none, ⟨0⟩⟩, by decide +kernel, rfl⟩⟩
  have hGive : ⟨.grant, true, "give the role ", " the permission "⟩ ∈ advertised := by decide
  have hDelete : ⟨.revoke, true, "for role ", ", delete the permission "⟩ ∈ advertised := by decide
  obtain ⟨hActs, hBack⟩ :=
    advertised_phrases_reach_everything reachable_oddlyNamed (fun _ => ⟨⟨9⟩, "new"⟩) hNames hGive
  have hSuccess : (Alone.run ⟨oddlyNamed, fun _ => ⟨⟨9⟩, "new"⟩⟩
      (evaluate (Phrasing.text ⟨.grant, true, "give the role ", " the permission "⟩ oddRole
        oddPermission))).1.status =
        .success := by
    decide +kernel
  exact ⟨reachable_oddlyNamed, hNames, hGive, hDelete, hActs, hSuccess,
    hBack rfl hSuccess _ hDelete rfl oddRole oddPermission rfl rfl⟩

end Rolebook.Command
