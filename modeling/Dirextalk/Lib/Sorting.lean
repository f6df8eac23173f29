import Dirextalk.Lib.Bytes

/-!
# Sorting keyed entries

Stable sorting of entries by a lawfully ordered key, and the adjacent-duplicate
test that follows such a sort.  After sorting, the test is exactly a test for
repeated keys, and entries without repeated keys end up strictly increasing.
-/

namespace Dirextalk.Lib

open Std

variable {κ : Type} [Ord κ] {α β : Type}

variable (entries : List (κ × α))

/-- `entries.sort_by(|left, right| left.0.cmp(&right.0))`. -/
def sortByKey : List (κ × α) :=
  entries.insertionSort fun left right => (compare left.1 right.1).isLE = true

/-- `entries.windows(2).any(|pair| pair[0].0 == pair[1].0)`. -/
def hasAdjacentDuplicate [DecidableEq κ] : List (κ × α) → Bool
  | first :: second :: rest =>
      first.1 = second.1 || hasAdjacentDuplicate (second :: rest)
  | _ => false

/-- Entries whose keys strictly increase. -/
def KeysAscend : Prop :=
  entries.Pairwise fun left right => compare left.1 right.1 = .lt

theorem sortByKey_perm : (sortByKey entries).Perm entries :=
  List.perm_insertionSort _ entries

@[simp] theorem length_sortByKey : (sortByKey entries).length = entries.length :=
  (sortByKey_perm entries).length_eq

@[simp] theorem mem_sortByKey {entries : List (κ × α)} {entry : κ × α} :
    entry ∈ sortByKey entries ↔ entry ∈ entries :=
  (sortByKey_perm entries).mem_iff

/-- Sorting looks only at keys, so it commutes with a change of payload. -/
theorem sortByKey_map (image : κ × α → β) :
    sortByKey (entries.map fun entry => (entry.1, image entry)) =
      (sortByKey entries).map fun entry => (entry.1, image entry) := by
  refine (List.map_insertionSort _ _ _ entries ?_).symm
  intro left _ right _
  exact Iff.rfl

theorem KeysAscend.sortByKey_eq {entries : List (κ × α)} (ascend : KeysAscend entries) :
    sortByKey entries = entries := by
  refine List.Pairwise.insertionSort_eq (ascend.imp ?_)
  intro left right below
  rw [below]
  rfl

theorem KeysAscend.keys_nodup [ReflOrd κ] {entries : List (κ × α)} (ascend : KeysAscend entries) :
    (entries.map Prod.fst).Nodup := by
  rw [List.Nodup, List.pairwise_map]
  refine ascend.imp ?_
  intro left right below same
  rw [same, compare_self] at below
  cases below

/-- Items sorted by a lawful comparison never decrease. -/
theorem insertionSort_pairwise_isLE (cmp : α → α → Ordering) [TransCmp cmp] (items : List α) :
    (items.insertionSort fun left right => (cmp left right).isLE = true).Pairwise
      fun left right => (cmp left right).isLE = true := by
  have total : Std.Total fun left right : α => (cmp left right).isLE = true := by
    constructor
    intro left right
    have swapped : cmp right left = (cmp left right).swap := OrientedCmp.eq_swap
    rw [swapped, Ordering.isLE_swap]
    cases cmp left right <;> simp
  have transitive : IsTrans α fun left right => (cmp left right).isLE = true := by
    constructor
    intro first second third below above
    exact TransCmp.isLE_trans below above
  exact List.pairwise_insertionSort _ items

section Lawful

variable [TransOrd κ]

theorem sortByKey_pairwise_isLE (entries : List (κ × α)) :
    (sortByKey entries).Pairwise fun left right => (compare left.1 right.1).isLE = true := by
  have lawful : TransCmp fun left right : κ × α => compare left.1 right.1 :=
    inferInstanceAs (TransCmp (compareOn Prod.fst))
  exact insertionSort_pairwise_isLE (fun left right => compare left.1 right.1) entries

theorem sortByKey_sortByKey (entries : List (κ × α)) :
    sortByKey (sortByKey entries) = sortByKey entries :=
  List.Pairwise.insertionSort_eq (sortByKey_pairwise_isLE entries)

variable [LawfulEqOrd κ]

/-- Without repeated keys the sorted entries strictly increase. -/
theorem sortByKey_ascend {entries : List (κ × α)}
    (distinct : (entries.map Prod.fst).Nodup) : KeysAscend (sortByKey entries) := by
  have sortedDistinct : ((sortByKey entries).map Prod.fst).Nodup :=
    (((sortByKey_perm entries).map Prod.fst).nodup_iff).mpr distinct
  rw [List.Nodup, List.pairwise_map] at sortedDistinct
  refine (sortByKey_pairwise_isLE entries).imp₂ ?_ sortedDistinct
  intro left right below different
  cases order : compare left.1 right.1 with
  | lt => rfl
  | eq => exact absurd (LawfulEqCmp.eq_of_compare order) different
  | gt => simp [order] at below

/-- With distinct keys the order of the entries does not matter. -/
theorem sortByKey_eq_of_perm {entries others : List (κ × α)} (permuted : entries.Perm others)
    (distinct : (entries.map Prod.fst).Nodup) : sortByKey entries = sortByKey others := by
  have otherDistinct : (others.map Prod.fst).Nodup := (permuted.map Prod.fst).nodup_iff.mp distinct
  refine List.Perm.eq_of_pairwise (fun left right _ _ below above => ?_)
    (sortByKey_ascend distinct) (sortByKey_ascend otherDistinct)
    ((sortByKey_perm entries).trans (permuted.trans (sortByKey_perm others).symm))
  rw [OrientedCmp.gt_of_lt below] at above
  cases above

/-- On sorted entries the adjacent test finds every repeated key. -/
theorem hasAdjacentDuplicate_eq_false_iff [DecidableEq κ] {entries : List (κ × α)}
    (sorted : entries.Pairwise fun left right => (compare left.1 right.1).isLE = true) :
    hasAdjacentDuplicate entries = false ↔ (entries.map Prod.fst).Nodup := by
  induction entries with
  | nil => simp [hasAdjacentDuplicate]
  | cons first rest ih =>
    cases rest with
    | nil => simp [hasAdjacentDuplicate]
    | cons second rest =>
      have tail := ih (List.pairwise_cons.mp sorted).2
      simp only [hasAdjacentDuplicate, Bool.or_eq_false_iff, decide_eq_false_iff_not, tail,
        List.map_cons, List.nodup_cons (a := first.1)]
      refine and_congr_left fun _ => ?_
      constructor
      · intro different member
        rcases List.mem_cons.mp member with same | member
        · exact different same
        · -- A later equal key would squeeze the second key between two equal ones.
          obtain ⟨later, laterMem, laterKey⟩ := List.mem_map.mp member
          have below := (List.pairwise_cons.mp sorted).1 second (by simp)
          have above := (List.pairwise_cons.mp (List.pairwise_cons.mp sorted).2).1
            later laterMem
          rw [laterKey] at above
          exact different (LawfulEqCmp.eq_of_compare
            (OrientedCmp.isLE_antisymm below above))
      · intro fresh same
        exact fresh (same ▸ List.mem_cons_self)

end Lawful

end Dirextalk.Lib
