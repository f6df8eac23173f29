import Mathlib.Data.List.Sort
import Mathlib.Tactic.Linarith

/-!
# Ordered maps and sets

`BTreeMap` and `BTreeSet` are the extensional ordered trees of the standard
library.  This module states lookups after an update as equations over equal keys,
reads a map's values in key order, counts the values with a property, and rebuilds
a map from its values when every value carries its own key.
-/

namespace Dirextalk.Lib

open Std

/-- `BTreeMap`. -/
abbrev TreeMap (κ α : Type) [Ord κ] := ExtTreeMap κ α

/-- `BTreeSet`. -/
abbrev TreeSet (κ : Type) [Ord κ] := ExtTreeSet κ

variable {κ α : Type} [Ord κ] [TransOrd κ]

variable {entries : TreeMap κ α}

theorem mem_iff_lookup {key : κ} : key ∈ entries ↔ ∃ value, entries[key]? = some value := by
  rw [ExtTreeMap.mem_iff_isSome_getElem?, Option.isSome_iff_exists]

theorem lookup_eq_none {key : κ} : entries[key]? = none ↔ key ∉ entries := by
  rw [ExtTreeMap.mem_iff_isSome_getElem?, Option.not_isSome_iff_eq_none]

theorem key_ne_of_fresh {key fresh : κ} {value : α} (present : entries[key]? = some value)
    (absent : fresh ∉ entries) : key ≠ fresh := by
  rintro rfl
  exact absent (mem_iff_lookup.mpr ⟨value, present⟩)

/-- Every value is stored under the key it carries. -/
def Keyed (keyOf : α → κ) (entries : TreeMap κ α) : Prop :=
  ∀ (key : κ) value, entries[key]? = some value → keyOf value = key

theorem keyed_empty (keyOf : α → κ) : Keyed keyOf (∅ : TreeMap κ α) := by
  intro key value found
  simp at found

variable [LawfulEqOrd κ]

/-! ## Lookups after updates -/

section Lookup

variable {entries : TreeMap κ α} {keys : TreeSet κ} {key other : κ} {value : α}

theorem lookup_insert [DecidableEq κ] :
    (entries.insert key value)[other]? = if other = key then some value else entries[other]? := by
  simp only [ExtTreeMap.getElem?_insert, Std.compare_eq_iff_eq, eq_comm (a := key)]

theorem lookup_erase [DecidableEq κ] :
    (entries.erase key)[other]? = if other = key then none else entries[other]? := by
  simp only [ExtTreeMap.getElem?_erase, Std.compare_eq_iff_eq, eq_comm (a := key)]

theorem mem_insert_key : other ∈ entries.insert key value ↔ other = key ∨ other ∈ entries := by
  rw [ExtTreeMap.mem_insert, Std.compare_eq_iff_eq, eq_comm]

theorem mem_erase_key : other ∈ entries.erase key ↔ other ≠ key ∧ other ∈ entries := by
  rw [ExtTreeMap.mem_erase, ne_eq, Std.compare_eq_iff_eq, eq_comm]

theorem mem_set_insert : other ∈ keys.insert key ↔ other = key ∨ other ∈ keys := by
  rw [ExtTreeSet.mem_insert, Std.compare_eq_iff_eq, eq_comm]

theorem mem_set_erase : other ∈ keys.erase key ↔ other ≠ key ∧ other ∈ keys := by
  rw [ExtTreeSet.mem_erase, ne_eq, Std.compare_eq_iff_eq, eq_comm]

end Lookup

/-! ## Values -/

/-- `BTreeMap::values`: the values in key order. -/
def values (entries : TreeMap κ α) : List α := entries.toList.map Prod.snd

theorem mem_values {value : α} :
    value ∈ values entries ↔ ∃ key : κ, entries[key]? = some value := by
  simp only [values, List.mem_map, Prod.exists, ExtTreeMap.mem_toList_iff_getElem?_eq_some,
    exists_eq_right]

theorem forall_mem_values {property : α → Prop} :
    (∀ value ∈ values entries, property value) ↔
      ∀ (key : κ) value, entries[key]? = some value → property value := by
  simp only [mem_values, forall_exists_index]
  exact forall_comm

theorem keys_toList_nodup (entries : TreeMap κ α) : (entries.toList.map Prod.fst).Nodup := by
  refine List.pairwise_map.mpr (ExtTreeMap.distinct_keys_toList.imp ?_)
  intro left right distinct same
  exact distinct (by rw [same, compare_self])

theorem toList_nodup (entries : TreeMap κ α) : entries.toList.Nodup :=
  (keys_toList_nodup entries).of_map

/-! ## Properties of all values -/

/-- Every value of a map has a property. -/
def AllValues (property : α → Prop) (entries : TreeMap κ α) : Prop :=
  ∀ (key : κ) value, entries[key]? = some value → property value

omit [LawfulEqOrd κ] in
theorem AllValues.imp {property weaker : α → Prop} (all : AllValues property entries)
    (weaken : ∀ value, property value → weaker value) : AllValues weaker entries :=
  fun key value found => weaken value (all key value found)

omit [LawfulEqOrd κ] in
theorem allValues_empty (property : α → Prop) : AllValues property (∅ : TreeMap κ α) := by
  intro key value found
  simp at found

/-- Different keys of a map carry values with different labels. -/
def DistinctBy {τ : Type} (label : α → τ) (entries : TreeMap κ α) : Prop :=
  ∀ (key other : κ) value content, entries[key]? = some value → entries[other]? = some content →
    label value = label content → key = other

/-- How many values of a map have a property. -/
def countValues (property : α → Bool) (entries : TreeMap κ α) : Nat :=
  (values entries).countP property

section Updates

variable [DecidableEq κ]

variable {entries : TreeMap κ α} {key : κ}

/-- Listing a map after adding a new key. -/
theorem toList_insert_perm (fresh : key ∉ entries) (value : α) :
    (entries.insert key value).toList.Perm ((key, value) :: entries.toList) := by
  have absent : entries[key]? = none := by
    by_contra present
    exact fresh (mem_iff_lookup.mpr (Option.ne_none_iff_exists'.mp present))
  have headFresh : (key, value) ∉ entries.toList := by
    rw [ExtTreeMap.mem_toList_iff_getElem?_eq_some, absent]
    simp
  refine (List.perm_ext_iff_of_nodup (toList_nodup _)
    (List.nodup_cons.mpr ⟨headFresh, toList_nodup _⟩)).mpr ?_
  rintro ⟨other, content⟩
  simp only [ExtTreeMap.mem_toList_iff_getElem?_eq_some, lookup_insert, List.mem_cons,
    Prod.mk.injEq]
  by_cases same : other = key
  · subst same
    simp [absent, eq_comm]
  · simp [same]

variable {value : α}

/-- Listing a map before removing a key. -/
theorem toList_erase_perm (present : entries[key]? = some value) :
    entries.toList.Perm ((key, value) :: (entries.erase key).toList) := by
  have headFresh : (key, value) ∉ (entries.erase key).toList := by
    rw [ExtTreeMap.mem_toList_iff_getElem?_eq_some, lookup_erase]
    simp
  refine (List.perm_ext_iff_of_nodup (toList_nodup _)
    (List.nodup_cons.mpr ⟨headFresh, toList_nodup _⟩)).mpr ?_
  rintro ⟨other, content⟩
  simp only [ExtTreeMap.mem_toList_iff_getElem?_eq_some, lookup_erase, List.mem_cons,
    Prod.mk.injEq]
  by_cases same : other = key
  · subst same
    simp [present, eq_comm]
  · simp [same]

theorem values_insert_perm (fresh : key ∉ entries) (value : α) :
    (values (entries.insert key value)).Perm (value :: values entries) :=
  (toList_insert_perm fresh value).map Prod.snd

theorem countValues_insert (fresh : key ∉ entries) (value : α) (property : α → Bool) :
    countValues property (entries.insert key value) =
      countValues property entries + if property value then 1 else 0 := by
  rw [countValues, (values_insert_perm fresh value).countP_eq, List.countP_cons]
  rfl

theorem countValues_erase (present : entries[key]? = some value) (property : α → Bool) :
    countValues property entries =
      countValues property (entries.erase key) + if property value then 1 else 0 := by
  have permuted := (toList_erase_perm present).map Prod.snd
  rw [countValues, values, permuted.countP_eq, List.map_cons, List.countP_cons]
  rfl

theorem lookup_insert_self (entries : TreeMap κ α) (key : κ) (value : α) :
    (entries.insert key value)[key]? = some value := by
  rw [lookup_insert, if_pos rfl]

theorem not_mem_erase_self (entries : TreeMap κ α) (key : κ) : key ∉ entries.erase key := by
  rw [mem_iff_lookup, lookup_erase, if_pos rfl]
  simp

/-- Writing a key twice keeps the later value. -/
theorem insert_insert_same (entries : TreeMap κ α) (key : κ) (first second : α) :
    (entries.insert key first).insert key second = entries.insert key second := by
  refine ExtTreeMap.ext_getElem? fun other => ?_
  simp only [lookup_insert]
  split <;> rfl

section Properties

variable {τ : Type} {property : α → Prop} {label : α → τ} {entries : TreeMap κ α}

theorem AllValues.insert (all : AllValues property entries) {key : κ} {value : α}
    (new : property value) : AllValues property (entries.insert key value) := by
  intro other content found
  rw [lookup_insert] at found
  split at found
  · cases found
    exact new
  · exact all other content found

theorem AllValues.erase (all : AllValues property entries) (key : κ) :
    AllValues property (entries.erase key) := by
  intro other content found
  rw [lookup_erase] at found
  split at found
  · cases found
  · exact all other content found

theorem DistinctBy.erase (distinct : DistinctBy label entries) (key : κ) :
    DistinctBy label (entries.erase key) := by
  intro left right value content leftFound rightFound
  rw [lookup_erase] at leftFound rightFound
  split at leftFound
  · cases leftFound
  · split at rightFound
    · cases rightFound
    · exact distinct left right value content leftFound rightFound

theorem DistinctBy.insert (distinct : DistinctBy label entries) {key : κ} {value : α}
    (new : AllValues (fun content => label content ≠ label value) entries) :
    DistinctBy label (entries.insert key value) := by
  intro left right leftValue rightValue leftFound rightFound same
  rw [lookup_insert] at leftFound rightFound
  split at leftFound <;> split at rightFound
  · rw [‹left = key›, ‹right = key›]
  · cases leftFound
    exact absurd same.symm (new right rightValue rightFound)
  · cases rightFound
    exact absurd same (new left leftValue leftFound)
  · exact distinct left right leftValue rightValue leftFound rightFound same

end Properties

/-! ## Maps whose values carry their key -/

theorem Keyed.insert {keyOf : α → κ} (keyed : Keyed keyOf entries) (carries : keyOf value = key) :
    Keyed keyOf (entries.insert key value) := by
  intro other content found
  rw [lookup_insert] at found
  split at found
  · cases found
    simp [*]
  · exact keyed other content found

theorem Keyed.erase {keyOf : α → κ} (keyed : Keyed keyOf entries) (key : κ) :
    Keyed keyOf (entries.erase key) := by
  intro other content found
  rw [lookup_erase] at found
  split at found
  · cases found
  · exact keyed other content found

end Updates

/-! ## Rebuilding from a listing -/

section Rebuild

variable {β : Type}

/-- `for item in items { map.insert(key(item), value(item)) }`. -/
def collect (keyOf : α → κ) (valueOf : α → β) (items : List α) : TreeMap κ β :=
  items.foldl (fun entries item => entries.insert (keyOf item) (valueOf item)) ∅

/-- `for item in items { set.insert(item) }`. -/
def collectSet (items : List κ) : TreeSet κ :=
  items.foldl (fun keys item => keys.insert item) ∅

variable {keyOf : α → κ} {valueOf : α → β} {key : κ}

theorem mem_foldl_insert_key (items : List α) (start : TreeMap κ β) :
    key ∈ items.foldl (fun entries item => entries.insert (keyOf item) (valueOf item)) start ↔
      key ∈ items.map keyOf ∨ key ∈ start := by
  induction items generalizing start with
  | nil => simp
  | cons first rest ih =>
    rw [List.foldl_cons, ih, mem_insert_key, List.map_cons, List.mem_cons]
    tauto

variable {items : List α}

theorem mem_collect : key ∈ collect keyOf valueOf items ↔ key ∈ items.map keyOf := by
  rw [collect, mem_foldl_insert_key]
  simp

theorem mem_foldl_insert_set (keyOf : α → κ) (items : List α) (start : TreeSet κ) :
    key ∈ items.foldl (fun keys item => keys.insert (keyOf item)) start ↔
      key ∈ items.map keyOf ∨ key ∈ start := by
  induction items generalizing start with
  | nil => simp
  | cons first rest ih =>
    rw [List.foldl_cons, ih, mem_set_insert, List.map_cons, List.mem_cons]
    tauto

theorem mem_foldl_erase (keyOf : β → κ) (items : List β) (start : TreeMap κ α) :
    key ∈ items.foldl (fun entries item => entries.erase (keyOf item)) start ↔
      key ∉ items.map keyOf ∧ key ∈ start := by
  induction items generalizing start with
  | nil => simp
  | cons first rest ih =>
    rw [List.foldl_cons, ih, mem_erase_key, List.map_cons, List.mem_cons]
    tauto

theorem mem_collectSet {items : List κ} : key ∈ collectSet items ↔ key ∈ items :=
  (mem_foldl_insert_set id items ∅).trans (by simp)

variable {entries : TreeMap κ α}

/-- Distinct keys of a map whose values carry them. -/
theorem Keyed.values_distinct (keyed : Keyed keyOf entries) :
    ((values entries).map keyOf).Nodup := by
  have tags : (values entries).map keyOf = entries.toList.map Prod.fst := by
    rw [values, List.map_map]
    refine List.map_congr_left ?_
    rintro ⟨key, value⟩ member
    exact keyed key value (ExtTreeMap.mem_toList_iff_getElem?_eq_some.mp member)
  rw [tags]
  exact keys_toList_nodup entries

theorem collectSet_toList (keys : TreeSet κ) : collectSet keys.toList = keys := by
  refine ExtTreeSet.ext_mem fun key => ?_
  rw [mem_collectSet, ExtTreeSet.mem_toList]

theorem set_toList_nodup (keys : TreeSet κ) : keys.toList.Nodup := by
  refine ExtTreeSet.distinct_toList.imp ?_
  intro left right distinct same
  exact distinct (by rw [same, compare_self])

variable [DecidableEq κ]

theorem lookup_foldl_insert (distinct : (items.map keyOf).Nodup) {start : TreeMap κ β}
    (fresh : ∀ item ∈ items, keyOf item ∉ start) {value : β} :
    (items.foldl (fun entries item => entries.insert (keyOf item) (valueOf item)) start)[key]? =
        some value ↔
      (∃ item ∈ items, keyOf item = key ∧ valueOf item = value) ∨ start[key]? = some value := by
  induction items generalizing start with
  | nil => simp
  | cons first rest ih =>
    obtain ⟨firstFresh, restDistinct⟩ := List.nodup_cons.mp distinct
    have startFresh := fresh first List.mem_cons_self
    have restFresh : ∀ item ∈ rest, keyOf item ∉ start.insert (keyOf first) (valueOf first) := by
      intro item member inserted
      rcases mem_insert_key.mp inserted with same | old
      · exact firstFresh (same ▸ List.mem_map_of_mem member)
      · exact fresh item (List.mem_cons_of_mem _ member) old
    rw [List.foldl_cons, ih restDistinct restFresh, lookup_insert]
    by_cases same : key = keyOf first
    · subst same
      have absent : start[keyOf first]? ≠ some value :=
        fun found => startFresh (mem_iff_lookup.mpr ⟨value, found⟩)
      simp only [List.exists_mem_cons_iff, true_and, if_true, Option.some.injEq, absent, or_false]
      exact or_comm
    · simp [same, Ne.symm same]

theorem lookup_collect (distinct : (items.map keyOf).Nodup) {value : β} :
    (collect keyOf valueOf items)[key]? = some value ↔
      ∃ item ∈ items, keyOf item = key ∧ valueOf item = value := by
  rw [collect, lookup_foldl_insert distinct (by simp)]
  simp

theorem lookup_collect_toList (entries : TreeMap κ α) (valueOf : κ × α → β) (key : κ) :
    (collect Prod.fst valueOf entries.toList)[key]? =
      entries[key]?.map fun value => valueOf (key, value) := by
  refine Option.ext fun result => ?_
  rw [lookup_collect (keys_toList_nodup entries), Option.map_eq_some_iff]
  constructor
  · rintro ⟨⟨key, value⟩, member, rfl, rfl⟩
    exact ⟨value, ExtTreeMap.mem_toList_iff_getElem?_eq_some.mp member, rfl⟩
  · rintro ⟨value, found, rfl⟩
    exact ⟨(key, value), ExtTreeMap.mem_toList_iff_getElem?_eq_some.mpr found, rfl, rfl⟩

theorem Keyed.lookup_collect_values (keyed : Keyed keyOf entries) (valueOf : α → β) (key : κ) :
    (collect keyOf valueOf (values entries))[key]? = entries[key]?.map valueOf := by
  refine Option.ext fun result => ?_
  rw [lookup_collect keyed.values_distinct, Option.map_eq_some_iff]
  constructor
  · rintro ⟨value, member, rfl, rfl⟩
    obtain ⟨key, found⟩ := mem_values.mp member
    obtain rfl := keyed key value found
    exact ⟨value, found, rfl⟩
  · rintro ⟨value, found, rfl⟩
    exact ⟨value, mem_values.mpr ⟨key, found⟩, keyed key value found, rfl⟩

theorem Keyed.collect_values (keyed : Keyed keyOf entries) :
    collect keyOf id (values entries) = entries := by
  refine ExtTreeMap.ext_getElem? fun key => ?_
  rw [keyed.lookup_collect_values, Option.map_id_fun, id]

theorem collect_toList (entries : TreeMap κ α) :
    collect Prod.fst Prod.snd entries.toList = entries := by
  refine ExtTreeMap.ext_getElem? fun key => ?_
  rw [lookup_collect_toList, Option.map_id']

theorem keyed_collect (distinct : (items.map keyOf).Nodup) :
    Keyed keyOf (collect keyOf id items) := by
  intro key value found
  obtain ⟨item, -, carries, rfl⟩ := (lookup_collect distinct).mp found
  exact carries

theorem allValues_collect {property : α → Prop} (distinct : (items.map keyOf).Nodup) :
    AllValues property (collect keyOf id items) ↔ ∀ item ∈ items, property item := by
  constructor
  · intro all item member
    exact all (keyOf item) item ((lookup_collect distinct).mpr ⟨item, member, rfl, rfl⟩)
  · intro all key value found
    obtain ⟨item, member, -, rfl⟩ := (lookup_collect distinct).mp found
    exact all item member

/-- The values of a collected map are the collected items, in key order. -/
theorem values_collect_perm (distinct : (items.map keyOf).Nodup) :
    (values (collect keyOf id items)).Perm items := by
  refine (List.perm_ext_iff_of_nodup (keyed_collect distinct).values_distinct.of_map
    distinct.of_map).mpr fun value => ?_
  simp only [mem_values, lookup_collect distinct, id_eq]
  constructor
  · rintro ⟨key, item, member, -, rfl⟩
    exact member
  · intro member
    exact ⟨keyOf value, value, member, rfl, rfl⟩

theorem countValues_collect (property : α → Bool) (distinct : (items.map keyOf).Nodup) :
    countValues property (collect keyOf id items) = items.countP property :=
  (values_collect_perm distinct).countP_eq property

theorem distinctBy_collect {τ : Type} {label : α → τ} (distinct : (items.map keyOf).Nodup) :
    DistinctBy label (collect keyOf id items) ↔ (items.map label).Nodup := by
  rw [List.nodup_map_iff_inj_on distinct.of_map]
  constructor
  · intro apart item member other otherMember same
    have keys := apart (keyOf item) (keyOf other) item other
      ((lookup_collect distinct).mpr ⟨item, member, rfl, rfl⟩)
      ((lookup_collect distinct).mpr ⟨other, otherMember, rfl, rfl⟩) same
    exact List.inj_on_of_nodup_map distinct member otherMember keys
  · intro apart key other value content found otherFound same
    obtain ⟨item, member, rfl, rfl⟩ := (lookup_collect distinct).mp found
    obtain ⟨item', member', rfl, rfl⟩ := (lookup_collect distinct).mp otherFound
    rw [apart item member item' member' same]

end Rebuild

end Dirextalk.Lib
