import Rolebook.Record.Entity

/-!
# Tables

Records under identifiers, at most one under each. What an operation does to a table is said by what
is found in it afterwards; the order of the entries only shows where all records are gone through.
-/

namespace Rolebook

/-- Records under identifiers, at most one under each. -/
structure Table (α : Type) where
  entries : List (Id × α)
  distinct : (entries.map Prod.fst).Nodup

namespace Table

variable {α : Type}

theorem ext_entries {t u : Table α} (h : t.entries = u.entries) : t = u := by
  cases t; cases u; cases h; rfl

instance [DecidableEq α] : DecidableEq (Table α) := fun t u =>
  if h : t.entries = u.entries then
    .isTrue (ext_entries h)
  else
    .isFalse fun eq => h (eq ▸ rfl)

/-- The table without records. -/
def empty : Table α :=
  ⟨[], List.nodup_nil⟩

instance : EmptyCollection (Table α) :=
  ⟨empty⟩

/-- The record under an identifier. -/
def find? (table : Table α) (id : Id) : Option α :=
  table.entries.lookup id

/-- All records. -/
def values (table : Table α) : List α :=
  table.entries.map Prod.snd

/-- The number of records. -/
def size (table : Table α) : Nat :=
  table.entries.length

/-- The table without the record under an identifier. -/
def erase (table : Table α) (id : Id) : Table α where
  entries := table.entries.filter fun entry => entry.1 != id
  distinct := table.distinct.sublist (List.filter_sublist.map Prod.fst)

/-- The table with the record under an identifier changed, if there is one. -/
def update (table : Table α) (id : Id) (change : α → α) : Table α where
  entries := table.entries.map fun entry =>
    if entry.1 == id then (entry.1, change entry.2) else entry
  distinct := by
    have keys (entry : Id × α) : (if entry.1 == id then (entry.1, change entry.2) else entry).1 =
        entry.1 := by
      split <;> rfl
    rw [List.map_map, show Prod.fst ∘ _ = Prod.fst from funext keys]
    exact table.distinct

theorem find?_eq_some_iff {table : Table α} {id : Id} {a : α} :
    table.find? id = some a ↔ (id, a) ∈ table.entries := by
  obtain ⟨entries, distinct⟩ := table
  show entries.lookup id = some a ↔ (id, a) ∈ entries
  induction entries with
  | nil => simp
  | cons entry entries ih =>
      obtain ⟨key, b⟩ := entry
      rw [List.map_cons, List.nodup_cons] at distinct
      by_cases hKey : id = key
      · subst hKey
        have hAbsent : (id, a) ∉ entries := fun h => distinct.1 (List.mem_map.2 ⟨_, h, rfl⟩)
        simp only [List.lookup_cons_self, Option.some.injEq, List.mem_cons, Prod.mk.injEq, true_and]
        exact ⟨fun h => .inl h.symm, fun h => (h.resolve_right hAbsent).symm⟩
      · -- the entry in front has another identifier and is passed over
        have hKey' : (id == key) = false := beq_eq_false_iff_ne.2 hKey
        simp [List.lookup_cons, hKey, hKey', ih distinct.2]

theorem find?_eq_none_iff {table : Table α} {id : Id} :
    table.find? id = none ↔ id ∉ table.entries.map Prod.fst := by
  rw [Option.eq_none_iff_forall_ne_some]
  constructor
  · intro h hMem
    obtain ⟨⟨key, a⟩, hEntry, rfl⟩ := List.mem_map.1 hMem
    exact h a (find?_eq_some_iff.2 hEntry)
  · intro h a hFound
    exact h (List.mem_map_of_mem (find?_eq_some_iff.1 hFound))

/-- The table with a record under an identifier, in the place of the one there or else behind all
others. -/
def insert (table : Table α) (id : Id) (a : α) : Table α :=
  match h : table.find? id with
  | some _ => table.update id fun _ => a
  | none =>
    { entries := table.entries ++ [(id, a)]
      distinct := by
        rw [List.map_append, List.nodup_append]
        refine ⟨table.distinct, List.nodup_cons.2 ⟨List.not_mem_nil, List.nodup_nil⟩, ?_⟩
        intro key hKey other hOther
        obtain rfl := List.mem_singleton.1 hOther
        rintro rfl
        exact find?_eq_none_iff.1 h hKey }

@[simp] theorem find?_empty (id : Id) : (∅ : Table α).find? id = none :=
  rfl

theorem mem_values {table : Table α} {a : α} :
    a ∈ table.values ↔ ∃ id, table.find? id = some a := by
  simp [values, find?_eq_some_iff]

@[simp] theorem find?_erase (table : Table α) (id other : Id) :
    (table.erase id).find? other = if other = id then none else table.find? other := by
  apply Option.ext
  intro a
  by_cases hOther : other = id <;> simp [find?_eq_some_iff, erase, hOther]

@[simp] theorem find?_update (table : Table α) (id other : Id) (change : α → α) :
    (table.update id change).find? other =
      if other = id then (table.find? id).map change else table.find? other := by
  apply Option.ext
  intro a
  rw [find?_eq_some_iff]
  by_cases hOther : other = id
  · subst hOther
    simp only [if_true, Option.map_eq_some_iff, find?_eq_some_iff, update, List.mem_map]
    constructor
    · rintro ⟨⟨key, b⟩, hEntry, hChanged⟩
      split at hChanged
      · next hKey =>
          obtain rfl := eq_of_beq hKey
          exact ⟨b, hEntry, (Prod.mk.inj hChanged).2⟩
      · next hKey =>
          cases hChanged
          simp at hKey
    · rintro ⟨b, hEntry, rfl⟩
      exact ⟨(other, b), hEntry, by simp⟩
  · simp only [if_neg hOther, find?_eq_some_iff, update, List.mem_map]
    constructor
    · rintro ⟨⟨key, b⟩, hEntry, hChanged⟩
      split at hChanged
      · next hKey =>
          obtain rfl := (Prod.mk.inj hChanged).1
          exact absurd (eq_of_beq hKey) hOther
      · exact hChanged ▸ hEntry
    · intro hEntry
      exact ⟨(other, a), hEntry, by simp [hOther]⟩

/-- To change two records, or one record twice, in the same way is the same in either order. -/
theorem update_comm (table : Table α) (id other : Id) (change : α → α) :
    (table.update id change).update other change =
      (table.update other change).update id change := by
  apply ext_entries
  simp only [update, List.map_map]
  apply List.map_congr_left
  rintro ⟨key, a⟩ _
  by_cases hId : key = id
  · subst hId
    by_cases hOther : key = other <;> simp [hOther]
  · by_cases hOther : key = other
    · subst hOther
      simp [hId]
    · simp [hId, hOther]

/-- To change a record leaves the number of records as it is. -/
theorem size_update {table : Table α} {id : Id} {change : α → α} :
    (table.update id change).size = table.size :=
  List.length_map _

@[simp] theorem find?_insert (table : Table α) (id other : Id) (a : α) :
    (table.insert id a).find? other = if other = id then some a else table.find? other := by
  unfold insert
  split
  · next hFound => simp [hFound]
  · next hAbsent =>
      apply Option.ext
      intro b
      by_cases hOther : other = id
      · subst hOther
        have hNone : (other, b) ∉ table.entries := fun h => by
          simp [find?_eq_some_iff.2 h] at hAbsent
        rw [find?_eq_some_iff]
        simp [hNone, eq_comm]
      · rw [find?_eq_some_iff]
        simp [find?_eq_some_iff, hOther]

/-- Changing the records under several identifiers, none of them twice, changes each of them
once. -/
theorem find?_foldl_update {ids : List Id} (hDistinct : ids.Nodup) (table : Table α) (other : Id)
    (change : α → α) :
    (ids.foldl (fun table id => table.update id change) table).find? other =
      if other ∈ ids then (table.find? other).map change else table.find? other := by
  induction ids generalizing table with
  | nil => simp
  | cons id ids ih =>
      rw [List.nodup_cons] at hDistinct
      rw [List.foldl_cons, ih hDistinct.2, find?_update]
      by_cases hOther : other = id
      · -- changed now, and by none of the updates that follow
        subst hOther
        simp [hDistinct.1]
      · simp [hOther]

/-! ## Records that say under which identifier they stand -/

/-- Each record stands under the identifier that it has itself. -/
def Keyed (id : α → Id) (table : Table α) : Prop :=
  ∀ entry ∈ table.entries, id entry.2 = entry.1

variable {id : α → Id} {table : Table α}

/-- A record is found under its identifier, or by going through all records until one has it. -/
theorem Keyed.find?_eq (hKeyed : table.Keyed id) (key : Id) :
    table.find? key = table.values.find? fun record => id record == key := by
  obtain ⟨entries, distinct⟩ := table
  replace hKeyed : ∀ entry ∈ entries, id entry.2 = entry.1 := hKeyed
  show entries.lookup key = (entries.map Prod.snd).find? fun record => id record == key
  clear distinct
  induction entries with
  | nil => rfl
  | cons entry entries ih =>
      rw [List.forall_mem_cons] at hKeyed
      rw [List.lookup_cons, List.map_cons, List.find?_cons, ih hKeyed.2, hKeyed.1, BEq.comm]

theorem Keyed.values_update (hKeyed : table.Keyed id) (key : Id) (change : α → α) :
    (table.update key change).values = table.values.map fun record =>
      if id record == key then change record else record := by
  unfold values update
  rw [List.map_map, List.map_map]
  apply List.map_congr_left
  intro entry hEntry
  simp only [Function.comp_apply, hKeyed entry hEntry]
  split <;> rfl

theorem Keyed.values_erase (hKeyed : table.Keyed id) (key : Id) :
    (table.erase key).values = table.values.filter fun record => id record != key := by
  unfold values erase
  rw [List.filter_map]
  apply congrArg
  apply List.filter_congr
  intro entry hEntry
  simp only [Function.comp_apply, hKeyed entry hEntry]

theorem insert_of_present {key : Id} {record : α} (hFound : table.find? key = some record) (a : α) :
    table.insert key a = table.update key fun _ => a := by
  unfold insert
  split
  · rfl
  · next hAbsent => simp [hFound] at hAbsent

theorem entries_insert {key : Id} (hAbsent : table.find? key = none) (a : α) :
    (table.insert key a).entries = table.entries ++ [(key, a)] := by
  unfold insert
  split
  · next hFound => simp [hAbsent] at hFound
  · rfl

theorem values_insert {key : Id} (hAbsent : table.find? key = none) (a : α) :
    (table.insert key a).values = table.values ++ [a] := by
  rw [values, entries_insert hAbsent, List.map_append]
  rfl

theorem size_insert {key : Id} (hAbsent : table.find? key = none) (a : α) :
    (table.insert key a).size = table.size + 1 := by
  rw [size, entries_insert hAbsent, List.length_append]
  rfl

theorem Keyed.update (hKeyed : table.Keyed id) (key : Id) {change : α → α}
    (hSame : ∀ record, id (change record) = id record) :
    (table.update key change).Keyed id := by
  intro entry hEntry
  obtain ⟨old, hOld, rfl⟩ := List.mem_map.1 hEntry
  split
  · rw [hSame, hKeyed old hOld]
  · exact hKeyed old hOld

/-- Changing the records under several identifiers, none of them twice, goes through all records and
changes these. -/
theorem Keyed.values_foldl_update (hKeyed : table.Keyed id) {keys : List Id}
    (hDistinct : keys.Nodup) {change : α → α} (hSame : ∀ record, id (change record) = id record) :
    (keys.foldl (fun table key => table.update key change) table).values =
      table.values.map fun record =>
        if keys.contains (id record) then change record else record := by
  induction keys generalizing table with
  | nil => simp
  | cons key keys ih =>
      rw [List.nodup_cons] at hDistinct
      rw [List.foldl_cons, ih (hKeyed.update key hSame) hDistinct.2,
        hKeyed.values_update, List.map_map]
      apply List.map_congr_left
      intro record _
      by_cases hKey : id record = key
      · -- this one is changed now, and by none of the updates that follow
        subst hKey
        simp [hSame, hDistinct.1]
      · simp [hKey]

end Table

end Rolebook
