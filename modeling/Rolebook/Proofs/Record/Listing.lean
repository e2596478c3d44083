import Mathlib.Data.List.Sort
import Rolebook.Record.Entity

/-!
# Listings

Entities are listed with the newest first, those of one instant by name. Names that differ leave one
way to do so: a listing is strictly in this order (`pairwise_newestFirst`), and the order in which
the entities come makes no difference to it (`newestFirst_eq_of_perm`).
-/

namespace Rolebook

variable {α : Type} {createdAt : α → Instant} {name : α → String}

/-- An element was created later than another one, or at the same instant under a name that comes
before. -/
def Newer (createdAt : α → Instant) (name : α → String) (a b : α) : Prop :=
  (createdAt b).nanoseconds < (createdAt a).nanoseconds ∨
    createdAt a = createdAt b ∧ before (name a) (name b) = true

theorem Newer.asymm {a b : α} (h : Newer createdAt name a b) : ¬ Newer createdAt name b a := by
  rintro (hLater' | ⟨hSame', hBefore'⟩) <;> rcases h with hLater | ⟨hSame, hBefore⟩
  · omega
  · exact lt_irrefl _ (hSame ▸ hLater')
  · exact lt_irrefl _ (hSame' ▸ hLater)
  · exact StrictOrder.not_before_self _ (StrictOrder.before_trans hBefore hBefore')

theorem Newer.trans {a b c : α} (h : Newer createdAt name a b) (h' : Newer createdAt name b c) :
    Newer createdAt name a c := by
  rcases h with hLater | ⟨hSame, hBefore⟩ <;> rcases h' with hLater' | ⟨hSame', hBefore'⟩
  · exact .inl (hLater'.trans hLater)
  · exact .inl (hSame' ▸ hLater)
  · exact .inl (hSame ▸ hLater')
  · exact .inr ⟨hSame.trans hSame', StrictOrder.before_trans hBefore hBefore'⟩

/-- The elements have the same place in a listing. -/
def SamePlace (createdAt : α → Instant) (name : α → String) (a b : α) : Prop :=
  createdAt a = createdAt b ∧ name a = name b

theorem newer_or_samePlace (createdAt : α → Instant) (name : α → String) (a b : α) :
    Newer createdAt name a b ∨ SamePlace createdAt name a b ∨ Newer createdAt name b a := by
  rcases lt_trichotomy (createdAt a).nanoseconds (createdAt b).nanoseconds with
    hLess | hSame | hMore
  · exact .inr (.inr (.inl hLess))
  · have hInstant : createdAt a = createdAt b := congrArg Instant.mk hSame
    by_cases hBefore : before (name a) (name b) = true
    · exact .inl (.inr ⟨hInstant, hBefore⟩)
    · by_cases hAfter : before (name b) (name a) = true
      · exact .inr (.inr (.inr ⟨hInstant.symm, hAfter⟩))
      · exact .inr (.inl ⟨hInstant, StrictOrder.before_total hBefore hAfter⟩)
  · exact .inl (.inl hMore)

/-- The comparison that elements are listed by. -/
theorem listed_iff {a b : α} :
    (if createdAt a = createdAt b then !before (name b) (name a)
      else decide ((createdAt b).nanoseconds < (createdAt a).nanoseconds)) = true ↔
      Newer createdAt name a b ∨ SamePlace createdAt name a b := by
  rcases newer_or_samePlace createdAt name a b with hNewer | hPlace | hOlder
  · refine iff_of_true ?_ (.inl hNewer)
    rcases hNewer with hLater | ⟨hSame, hBefore⟩
    · rw [if_neg fun hSame => lt_irrefl _ (hSame ▸ hLater)]
      exact decide_eq_true hLater
    · rw [if_pos hSame, Bool.not_eq_true']
      exact Bool.eq_false_iff.2 fun hAfter =>
        StrictOrder.not_before_self _ (StrictOrder.before_trans hBefore hAfter)
  · refine iff_of_true ?_ (.inr hPlace)
    rw [if_pos hPlace.1, Bool.not_eq_true', hPlace.2]
    exact Bool.eq_false_iff.2 (StrictOrder.not_before_self _)
  · refine iff_of_false ?_ ?_
    · rcases hOlder with hLater | ⟨hSame, hBefore⟩
      · rw [if_neg fun hSame => lt_irrefl _ (hSame ▸ hLater), decide_eq_true_eq]
        omega
      · rw [if_pos hSame.symm, hBefore]
        exact Bool.false_ne_true
    · rintro (hNewer | ⟨hSame, hName⟩)
      · exact hNewer.asymm hOlder
      · rcases hOlder with hLater | ⟨-, hBefore⟩
        · exact lt_irrefl _ (hSame ▸ hLater)
        · exact StrictOrder.not_before_self _ (hName ▸ hBefore)

/-- A listing has the newest elements first. No two of them have the same place if their names
differ. -/
theorem pairwise_newestFirst {elements : List α} (hNames : (elements.map name).Nodup) :
    (newestFirst createdAt name elements).Pairwise (Newer createdAt name) := by
  have hListed : (newestFirst createdAt name elements).Pairwise fun a b =>
      Newer createdAt name a b ∨ SamePlace createdAt name a b := by
    refine (List.pairwise_mergeSort ?_ ?_ elements).imp fun h => listed_iff.1 h
    · intro a b c hab hbc
      rw [listed_iff] at hab hbc ⊢
      rcases hab with hab | ⟨hSame, hName⟩ <;> rcases hbc with hbc | ⟨hSame', hName'⟩
      · exact .inl (hab.trans hbc)
      · exact .inl (by rwa [Newer, ← hSame', ← hName'])
      · exact .inl (by rwa [Newer, hSame, hName])
      · exact .inr ⟨hSame.trans hSame', hName.trans hName'⟩
    · intro a b
      rw [Bool.or_eq_true, listed_iff, listed_iff]
      rcases newer_or_samePlace createdAt name a b with hNewer | hPlace | hOlder
      · exact .inl (.inl hNewer)
      · exact .inl (.inr hPlace)
      · exact .inr (.inl hOlder)
  have hDistinct : (newestFirst createdAt name elements).Pairwise fun a b => name a ≠ name b :=
    List.pairwise_map.1 (((List.mergeSort_perm elements _).map name).nodup_iff.2 hNames)
  exact hListed.imp₂ (fun _ _ hEither hName => hEither.resolve_right fun hPlace => hName hPlace.2)
    hDistinct

/-- Elements of different names are listed in the same way whatever order they come in. -/
theorem newestFirst_eq_of_perm {elements elements' : List α} (hNames : (elements.map name).Nodup)
    (hOrder : elements.Perm elements') :
    newestFirst createdAt name elements' = newestFirst createdAt name elements := by
  have hNames' : (elements'.map name).Nodup := (hOrder.map name).nodup_iff.1 hNames
  have hSame : (newestFirst createdAt name elements').Perm (newestFirst createdAt name elements) :=
    (List.mergeSort_perm elements' _).trans
      (hOrder.symm.trans (List.mergeSort_perm elements _).symm)
  exact hSame.eq_of_pairwise (fun _ _ _ _ hNewer hOlder => absurd hOlder hNewer.asymm)
    (pairwise_newestFirst hNames') (pairwise_newestFirst hNames)

end Rolebook
