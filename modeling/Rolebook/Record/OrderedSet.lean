/-!
# Ordered sets

Finite sets as lists in strictly ascending order, so that two sets with the same members are the
same value.
-/

namespace Rolebook

/-- A strict order in which any two members can be compared. -/
class StrictOrder (α : Type) where
  before : α → α → Bool
  before_trans : ∀ {a b c : α}, before a b → before b c → before a c
  not_before_self : ∀ a : α, ¬ before a a
  before_total : ∀ {a b : α}, ¬ before a b → ¬ before b a → a = b

export StrictOrder (before)

/-- Texts are ordered by their first character that differs, by its code point. -/
def charsBefore : List Char → List Char → Bool
  | _, [] => false
  | [], _ :: _ => true
  | a :: as, b :: bs => a.toNat < b.toNat || (a == b && charsBefore as bs)

theorem charsBefore_trans {as bs cs : List Char} (h : charsBefore as bs) (h' : charsBefore bs cs) :
    charsBefore as cs := by
  induction as generalizing bs cs with
  | nil =>
    cases bs with
    | nil => simp [charsBefore] at h
    | cons b bs => cases cs <;> simp_all [charsBefore]
  | cons a as ih =>
    cases bs with
    | nil => simp [charsBefore] at h
    | cons b bs =>
      cases cs with
      | nil => simp [charsBefore] at h'
      | cons c cs =>
        simp only [charsBefore, Bool.or_eq_true, decide_eq_true_eq, Bool.and_eq_true, beq_iff_eq]
          at h h' ⊢
        rcases h with h | ⟨rfl, h⟩ <;> rcases h' with h' | ⟨rfl, h'⟩
        · exact .inl (by omega)
        · exact .inl h
        · exact .inl h'
        · exact .inr ⟨rfl, ih h h'⟩

theorem not_charsBefore_self (as : List Char) : ¬ charsBefore as as := by
  induction as with
  | nil => simp [charsBefore]
  | cons a as ih => simpa [charsBefore] using ih

theorem charsBefore_total {as bs : List Char} (h : ¬ charsBefore as bs) (h' : ¬ charsBefore bs as) :
    as = bs := by
  induction as generalizing bs with
  | nil => cases bs <;> simp_all [charsBefore]
  | cons a as ih =>
    cases bs with
    | nil => simp [charsBefore] at h'
    | cons b bs =>
      simp only [charsBefore, Bool.or_eq_true, decide_eq_true_eq, Bool.and_eq_true,
        beq_iff_eq, not_or,
        not_and, Bool.not_eq_true] at h h'
      have hab : a = b := Char.toNat_inj.1 (by omega)
      subst hab
      rw [ih (by simpa using h.2 rfl) (by simpa using h'.2 rfl)]

instance : StrictOrder String where
  before a b := charsBefore a.toList b.toList
  before_trans := charsBefore_trans
  not_before_self a := not_charsBefore_self a.toList
  before_total h h' := String.toList_inj.1 (charsBefore_total h h')

/-- A finite set, given by its members in ascending order. -/
structure OrderedSet (α : Type) [StrictOrder α] where
  toList : List α
  ascending : toList.Pairwise fun a b => before a b

namespace OrderedSet

variable {α : Type} [StrictOrder α]

/-- The set without members. -/
def empty : OrderedSet α :=
  ⟨[], .nil⟩

instance : EmptyCollection (OrderedSet α) :=
  ⟨empty⟩

instance : Inhabited (OrderedSet α) :=
  ⟨empty⟩

instance : Membership α (OrderedSet α) :=
  ⟨fun set a => a ∈ set.toList⟩

instance [DecidableEq α] (a : α) (set : OrderedSet α) : Decidable (a ∈ set) :=
  inferInstanceAs (Decidable (a ∈ set.toList))

theorem ext_toList {s t : OrderedSet α} (h : s.toList = t.toList) : s = t := by
  cases s; cases t; cases h; rfl

instance [DecidableEq α] : DecidableEq (OrderedSet α) := fun s t =>
  if h : s.toList = t.toList then
    .isTrue (ext_toList h)
  else
    .isFalse fun eq => h (eq ▸ rfl)

/-- An ascending list with one more member. -/
def insertInto (a : α) : List α → List α
  | [] => [a]
  | b :: bs =>
    if before a b then a :: b :: bs else if before b a then b :: insertInto a bs else b :: bs

theorem mem_of_mem_insertInto {x a : α} {bs : List α} (h : x ∈ insertInto a bs) :
    x = a ∨ x ∈ bs := by
  induction bs with
  | nil => simpa [insertInto] using h
  | cons b bs ih => grind [insertInto]

theorem pairwise_insertInto (a : α) {bs : List α} (h : bs.Pairwise fun a b => before a b) :
    (insertInto a bs).Pairwise fun a b => before a b := by
  induction bs with
  | nil => simp [insertInto]
  | cons b bs ih =>
    rw [List.pairwise_cons] at h
    unfold insertInto
    split
    · next hab =>
      refine List.pairwise_cons.2 ⟨fun x hx => ?_, List.pairwise_cons.2 h⟩
      rcases List.mem_cons.1 hx with rfl | hx
      · exact hab
      · exact StrictOrder.before_trans hab (h.1 x hx)
    · split
      · next hba =>
        refine List.pairwise_cons.2 ⟨fun x hx => ?_, ih h.2⟩
        rcases mem_of_mem_insertInto hx with rfl | hx
        · exact hba
        · exact h.1 x hx
      · exact List.pairwise_cons.2 h

/-- The set with one more member. -/
def insert (set : OrderedSet α) (a : α) : OrderedSet α :=
  ⟨insertInto a set.toList, pairwise_insertInto a set.ascending⟩

/-- The members that pass a test. -/
def filter (set : OrderedSet α) (test : α → Bool) : OrderedSet α :=
  ⟨set.toList.filter test, set.ascending.filter test⟩

/-- The set without one of its members. -/
def erase [DecidableEq α] (set : OrderedSet α) (a : α) : OrderedSet α :=
  set.filter fun b => b ≠ a

/-- The set with all of these members. -/
def insertAll (set : OrderedSet α) (as : List α) : OrderedSet α :=
  as.foldl insert set

/-- The set of the members of a list. -/
def ofList (as : List α) : OrderedSet α :=
  insertAll ∅ as

/-- The number of members. -/
def size (set : OrderedSet α) : Nat :=
  set.toList.length

theorem mem_insert {x a : α} {set : OrderedSet α} : x ∈ set.insert a ↔ x = a ∨ x ∈ set := by
  show x ∈ insertInto a set.toList ↔ x = a ∨ x ∈ set.toList
  refine ⟨mem_of_mem_insertInto, fun h => ?_⟩
  generalize set.toList = bs at h
  induction bs with
  | nil => simpa [insertInto] using h
  | cons b bs ih =>
    unfold insertInto
    split
    · simpa using h
    · split
      · grind
      · next hab hba =>
        have : a = b := StrictOrder.before_total hab hba
        grind

theorem mem_filter {x : α} {set : OrderedSet α} {test : α → Bool} :
    x ∈ set.filter test ↔ x ∈ set ∧ test x = true :=
  List.mem_filter

theorem mem_erase [DecidableEq α] {x a : α} {set : OrderedSet α} :
    x ∈ set.erase a ↔ x ∈ set ∧ x ≠ a := by
  simp [erase, mem_filter]

theorem mem_insertAll {x : α} {set : OrderedSet α} {as : List α} :
    x ∈ set.insertAll as ↔ x ∈ set ∨ x ∈ as := by
  induction as generalizing set with
  | nil => simp [insertAll]
  | cons a as ih =>
    have : set.insertAll (a :: as) = (set.insert a).insertAll as := rfl
    rw [this, ih, mem_insert]
    grind

theorem mem_ofList {x : α} {as : List α} : x ∈ ofList as ↔ x ∈ as := by
  have : x ∉ (∅ : OrderedSet α) := List.not_mem_nil
  simp [ofList, mem_insertAll, this]

/-- Ascending lists with the same members are the same list, since both begin with the least of
them. -/
theorem eq_of_same_members {as bs : List α} (hAs : as.Pairwise fun a b => before a b)
    (hBs : bs.Pairwise fun a b => before a b) (h : ∀ x, x ∈ as ↔ x ∈ bs) : as = bs := by
  induction as generalizing bs with
  | nil =>
      have hNone : ∀ x, x ∉ bs := fun x hx => absurd ((h x).2 hx) List.not_mem_nil
      exact (List.eq_nil_iff_forall_not_mem.2 hNone).symm
  | cons a as ih =>
      cases bs with
      | nil => exact absurd ((h a).1 (List.mem_cons_self ..)) List.not_mem_nil
      | cons b bs =>
          rw [List.pairwise_cons] at hAs hBs
          -- each head is in the other list, so neither comes before the other
          have hHead : a = b := by
            rcases List.mem_cons.1 ((h a).1 (List.mem_cons_self ..)) with hab | ha
            · exact hab
            · rcases List.mem_cons.1 ((h b).2 (List.mem_cons_self ..)) with hba | hb
              · exact hba.symm
              · exact absurd (StrictOrder.before_trans (hAs.1 b hb) (hBs.1 a ha))
                  (StrictOrder.not_before_self a)
          subst hHead
          have hTail : ∀ x, x ∈ as ↔ x ∈ bs := by
            intro x
            have hNe : x ∈ as ∨ x ∈ bs → x ≠ a := by
              rintro (hx | hx) rfl
              · exact StrictOrder.not_before_self x (hAs.1 x hx)
              · exact StrictOrder.not_before_self x (hBs.1 x hx)
            have hBoth := h x
            simp only [List.mem_cons] at hBoth
            exact ⟨fun hx => (hBoth.1 (.inr hx)).resolve_left (hNe (.inl hx)),
              fun hx => (hBoth.2 (.inr hx)).resolve_left (hNe (.inr hx))⟩
          rw [ih hAs.2 hBs.2 hTail]

/-- Two sets with the same members are the same value. -/
theorem ext {s t : OrderedSet α} (h : ∀ x, x ∈ s ↔ x ∈ t) : s = t :=
  ext_toList (eq_of_same_members s.ascending t.ascending h)

theorem erase_of_not_mem [DecidableEq α] {a : α} {set : OrderedSet α} (h : a ∉ set) :
    set.erase a = set := by
  apply ext
  intro x
  rw [mem_erase]
  refine and_iff_left_of_imp fun hx => ?_
  rintro rfl
  exact h hx

/-- A set is gone through from its least member on, so what is found first is the least that
passes. -/
theorem least_of_find? {set : OrderedSet α} {test : α → Bool} {a : α}
    (hFound : set.toList.find? test = some a) :
    ∀ b ∈ set, before b a → ¬ test b = true := by
  obtain ⟨-, earlier, later, hSet, hEarlier⟩ := List.find?_eq_some_iff_append.1 hFound
  have hAscending := set.ascending
  rw [hSet, List.pairwise_append, List.pairwise_cons] at hAscending
  intro b hMember hBefore
  have hWhere : b ∈ earlier ++ a :: later := hSet ▸ hMember
  rcases List.mem_append.1 hWhere with hEarly | hLate
  · simpa using hEarlier b hEarly
  · rcases List.mem_cons.1 hLate with rfl | hLater
    · exact absurd hBefore (StrictOrder.not_before_self b)
    · exact absurd (StrictOrder.before_trans hBefore (hAscending.2.1.1 b hLater))
        (StrictOrder.not_before_self b)

theorem find?_toList_eq_some_iff {set : OrderedSet α} {test : α → Bool} {a : α} :
    set.toList.find? test = some a ↔ a ∈ set ∧ test a = true ∧ ∀ b ∈ set, before b a →
      ¬ test b = true := by
  constructor
  · intro hFound
    exact ⟨List.mem_of_find?_eq_some hFound, List.find?_some hFound, least_of_find? hFound⟩
  · rintro ⟨hMember, hTest, hLeast⟩
    cases hFound : set.toList.find? test with
    | none => exact absurd hTest (List.find?_eq_none.1 hFound a hMember)
    | some c =>
        -- both pass and both are least, so neither is before the other
        have hNotBefore : ¬ before c a := fun h =>
          hLeast c (List.mem_of_find?_eq_some hFound) h (List.find?_some hFound)
        have hNotAfter : ¬ before a c := fun h => least_of_find? hFound a hMember h hTest
        rw [StrictOrder.before_total hNotBefore hNotAfter]

end OrderedSet

end Rolebook
