import Dirextalk.Lib.History

/-!
# Rows of a table with a unique key

A table is the list of its rows in the order of their insertion.  A row is found
by its key, inserted where the key is free, and changed in place where a condition
selects it.
-/

namespace Dirextalk.Lib

variable {ρ κ : Type} {keyOf : ρ → κ} {rows inserted : List ρ} {row found : ρ} {key : κ}

section Keys

variable [DecidableEq κ]

/-- `SELECT … WHERE key = …`. -/
def rowAt (keyOf : ρ → κ) (rows : List ρ) (key : κ) : Option ρ :=
  rows.find? fun row => keyOf row = key

/-- `INSERT` into a table whose key is unique. -/
def insertRow (keyOf : ρ → κ) (rows : List ρ) (row : ρ) : Option (List ρ) :=
  if keyOf row ∈ rows.map keyOf then none else some (rows ++ [row])

theorem mem_of_rowAt (search : rowAt keyOf rows key = some row) : row ∈ rows :=
  List.mem_of_find?_eq_some search

theorem key_of_rowAt (search : rowAt keyOf rows key = some row) : keyOf row = key := by
  simpa using List.find?_some search

theorem rowAt_eq_none : rowAt keyOf rows key = none ↔ key ∉ rows.map keyOf := by
  simp [rowAt]

theorem exists_rowAt (held : key ∈ rows.map keyOf) : ∃ row, rowAt keyOf rows key = some row :=
  Option.ne_none_iff_exists'.mp fun absent => rowAt_eq_none.mp absent held

theorem rowAt_of_mem (distinct : (rows.map keyOf).Nodup) (member : row ∈ rows) :
    rowAt keyOf rows (keyOf row) = some row :=
  find?_eq_some_of_key distinct member (by simp) fun _ _ same => by simpa using same

theorem rowAt_append (more : List ρ) :
    rowAt keyOf (rows ++ more) key = (rowAt keyOf rows key).or (rowAt keyOf more key) :=
  List.find?_append

theorem rowAt_append_of_some (more : List ρ) (search : rowAt keyOf rows key = some row) :
    rowAt keyOf (rows ++ more) key = some row := by
  rw [rowAt_append, search, Option.some_or]

theorem rowAt_concat (fresh : keyOf row ∉ rows.map keyOf) :
    rowAt keyOf (rows ++ [row]) (keyOf row) = some row := by
  rw [rowAt_append, rowAt_eq_none.mpr fresh]
  simp [rowAt]

/-- Rows that are kept by their key are found as before. -/
theorem rowAt_filter (keep : κ → Bool) :
    rowAt keyOf (rows.filter fun row => keep (keyOf row)) key =
      if keep key then rowAt keyOf rows key else none := by
  induction rows with
  | nil => simp [rowAt]
  | cons first rows ih =>
    by_cases here : keyOf first = key
    · subst here
      by_cases kept : keep (keyOf first) = true
      · simp [rowAt, kept]
      · simp only [kept, Bool.false_eq_true, if_false] at ih ⊢
        rw [List.filter_cons_of_neg (by simpa using kept), ih]
    · have skip (others : List ρ) : rowAt keyOf (first :: others) key = rowAt keyOf others key := by
        simp [rowAt, here]
      rw [List.filter_cons, apply_ite (rowAt keyOf · key), skip, skip, ih, ite_self]

theorem insertRow_eq_some :
    insertRow keyOf rows row = some inserted ↔
      keyOf row ∉ rows.map keyOf ∧ rows ++ [row] = inserted := by
  simp [insertRow]

end Keys

theorem nodup_concat (distinct : (rows.map keyOf).Nodup) (fresh : keyOf row ∉ rows.map keyOf) :
    ((rows ++ [row]).map keyOf).Nodup :=
  nodup_map_concat.mpr ⟨distinct, fun _ member same => fresh (same ▸ List.mem_map_of_mem member)⟩

/-! ## Changing rows in place -/

/-- `UPDATE … SET change WHERE selected`. -/
def updateWhere (selected : ρ → Prop) [DecidablePred selected] (change : ρ → ρ) (rows : List ρ) :
    List ρ :=
  rows.map fun row => if selected row then change row else row

variable {selected : ρ → Prop} [DecidablePred selected] {change : ρ → ρ}

theorem mem_updateWhere :
    found ∈ updateWhere selected change rows ↔
      ∃ row ∈ rows, (if selected row then change row else row) = found :=
  List.mem_map

/-- An update that leaves a column alone keeps the column of every row. -/
theorem map_updateWhere {τ : Type} {column : ρ → τ} (kept : ∀ row, column (change row) = column row)
    (rows : List ρ) : (updateWhere selected change rows).map column = rows.map column := by
  rw [updateWhere, List.map_map]
  refine List.map_congr_left fun row _ => ?_
  by_cases hit : selected row <;> simp [hit, kept]

/-- A row is found as it was changed, if the change leaves its key alone. -/
theorem rowAt_updateWhere [DecidableEq κ] (kept : ∀ row, keyOf (change row) = keyOf row)
    (rows : List ρ) (key : κ) :
    rowAt keyOf (updateWhere selected change rows) key =
      (rowAt keyOf rows key).map fun row => if selected row then change row else row := by
  have same : (fun row => decide (keyOf row = key)) ∘
      (fun row => if selected row then change row else row) =
        fun row => decide (keyOf row = key) := by
    funext row
    by_cases hit : selected row <;> simp [hit, kept]
  rw [rowAt, updateWhere, List.find?_map, same, rowAt]

/-- Writing a row in the place of the one under its key. -/
theorem rowAt_replace [DecidableEq κ] (row : ρ) (rows : List ρ) (key : κ) :
    rowAt keyOf (updateWhere (keyOf · = keyOf row) (fun _ => row) rows) key =
      if key = keyOf row then (rowAt keyOf rows key).map fun _ => row
      else rowAt keyOf rows key := by
  induction rows with
  | nil => simp [rowAt, updateWhere]
  | cons first rows ih =>
    simp only [rowAt, updateWhere, List.map_cons, List.find?_cons] at ih ⊢
    by_cases written : keyOf first = keyOf row
    · by_cases sought : key = keyOf row
      · simp [written, sought]
      · have other : keyOf row ≠ key := Ne.symm sought
        simpa [written, sought, other] using ih
    · by_cases here : keyOf first = key
      · simp [here, here ▸ written]
      · simpa [written, here] using ih

/-- The rows of a table before and after, one by one. -/
theorem forall₂_updateWhere {relation : ρ → ρ → Prop} (other : ∀ row, relation row row)
    (hit : ∀ row ∈ rows, selected row → relation row (change row)) :
    List.Forall₂ relation rows (updateWhere selected change rows) := by
  rw [updateWhere, List.forall₂_map_right_iff, List.forall₂_same]
  intro row member
  by_cases selects : selected row
  · rw [if_pos selects]
    exact hit row member selects
  · rw [if_neg selects]
    exact other row

end Dirextalk.Lib
