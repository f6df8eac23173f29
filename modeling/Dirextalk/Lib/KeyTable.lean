import Dirextalk.Lib.Rows

/-!
# Tables of values under keys

A hash map as the list of its pairs, with distinct keys: lookups after an insertion, a
change in place and a selection, and the number of keys.
-/

namespace Dirextalk.Lib

/-- `HashMap`. -/
abbrev KeyTable (κ α : Type) := List (κ × α)

namespace KeyTable

variable {κ α : Type} [DecidableEq κ] (table : KeyTable κ α)

/-- No key has two rows. -/
def Distinct : Prop := (table.map Prod.fst).Nodup

def get? (key : κ) : Option α := (rowAt Prod.fst table key).map Prod.snd

/-- `if let Some(value) = table.get_mut(&key) { *value = change(*value) }`. -/
def modify (key : κ) (change : α → α) : KeyTable κ α :=
  updateWhere (·.1 = key) (fun row => (row.1, change row.2)) table

/-- Sets the value of a key. -/
def insert (key : κ) (value : α) : KeyTable κ α :=
  if (table.get? key).isSome then table.modify key fun _ => value else table ++ [(key, value)]

def retain (keep : α → Bool) : KeyTable κ α :=
  table.filter fun row => keep row.2

variable {table} {key other : κ} {value : α}

theorem get?_eq_none : table.get? key = none ↔ key ∉ table.map Prod.fst := by
  rw [get?, Option.map_eq_none_iff, rowAt_eq_none]

omit [DecidableEq κ] in
theorem fst_change (change : α → α) (row : κ × α) : (row.1, change row.2).1 = row.1 := rfl

theorem get?_modify (change : α → α) :
    (table.modify key change).get? other =
      if other = key then (table.get? other).map change else table.get? other := by
  rw [get?, modify, rowAt_updateWhere (fst_change change), get?]
  cases found : rowAt Prod.fst table other with
  | none => simp
  | some row =>
    obtain rfl := key_of_rowAt found
    by_cases same : row.1 = key
    · simp [same]
    · simp [same]

theorem get?_insert :
    (table.insert key value).get? other = if other = key then some value else table.get? other := by
  unfold insert
  split
  case isTrue present =>
    rw [get?_modify]
    by_cases same : other = key
    · obtain ⟨old, found⟩ := Option.isSome_iff_exists.mp (same ▸ present)
      simp [same, same ▸ found]
    · simp [same]
  case isFalse absent =>
    have free := Option.not_isSome_iff_eq_none.mp absent
    rw [get?, rowAt_append, Option.map_or, ← get?]
    by_cases same : other = key
    · rw [same, free, if_pos rfl]
      simp [rowAt]
    · rw [if_neg same]
      simp [rowAt, Ne.symm same]

theorem get?_retain (distinct : table.Distinct) (keep : α → Bool) :
    (table.retain keep).get? key = (table.get? key).filter keep := by
  induction table with
  | nil => rfl
  | cons first table ih =>
    obtain ⟨fresh, rest⟩ := List.nodup_cons.mp distinct
    have head (rows : KeyTable κ α) :
        get? (first :: rows) key = if first.1 = key then some first.2 else get? rows key := by
      by_cases same : first.1 = key <;> simp [get?, rowAt, same]
    rw [head, retain, List.filter_cons, apply_ite (get? · key), head, ← retain, ih rest]
    by_cases same : first.1 = key
    · have absent : get? table key = none := get?_eq_none.mpr (same ▸ fresh)
      by_cases kept : keep first.2 <;> simp [same, kept, absent, Option.filter]
    · simp [same]

theorem distinct_modify (distinct : table.Distinct) (change : α → α) :
    (table.modify key change).Distinct := by
  rw [Distinct, modify, map_updateWhere (fst_change change)]
  exact distinct

theorem distinct_insert (distinct : table.Distinct) : (table.insert key value).Distinct := by
  unfold insert
  split
  case isTrue => exact distinct_modify distinct _
  case isFalse absent =>
    exact nodup_concat distinct (get?_eq_none.mp (Option.not_isSome_iff_eq_none.mp absent))

omit [DecidableEq κ] in
theorem distinct_retain (distinct : table.Distinct) (keep : α → Bool) :
    (table.retain keep).Distinct :=
  distinct.sublist (List.filter_sublist.map _)

theorem length_modify (change : α → α) : (table.modify key change).length = table.length :=
  List.length_map ..

theorem length_insert_le {limit : Nat} (bounded : table.length ≤ limit)
    (room : (table.get? key).isSome = true ∨ table.length < limit) :
    (table.insert key value).length ≤ limit := by
  unfold insert
  split
  case isTrue =>
    rw [length_modify]
    exact bounded
  case isFalse absent =>
    rw [List.length_append]
    exact room.resolve_left absent

omit [DecidableEq κ] in
theorem length_retain_le (keep : α → Bool) : (table.retain keep).length ≤ table.length :=
  List.length_filter_le ..

end KeyTable

end Dirextalk.Lib
