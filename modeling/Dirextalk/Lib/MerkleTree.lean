import Mathlib.Data.List.Infix
import Mathlib.Data.List.Perm.Subperm
import Mathlib.Data.Set.Function

/-!
# Merkle trees with a repeated last node

The nodes of a level are hashed in pairs, a last node without a partner with itself, until
one node is left.  A list and the same list with its end repeated can share a root, and
without a collision among the pairs that are hashed this is all that two lists of leaves
with one root can differ in.
-/

namespace Dirextalk.Lib.MerkleTree

variable {α : Type}

/-! ## Levels and roots -/

/-- The pairs of a level that are hashed together. -/
def pairs : List α → List (α × α)
  | [] => []
  | [single] => [(single, single)]
  | left :: right :: rest => (left, right) :: pairs rest

/-- The level above. -/
def parents (node : α × α → α) (level : List α) : List α := (pairs level).map node

theorem length_pairs (level : List α) : (pairs level).length = (level.length + 1) / 2 := by
  induction level using pairs.induct with
  | case1 => simp [pairs]
  | case2 => simp [pairs]
  | case3 left right rest ih =>
    simp only [pairs, List.length_cons, ih]
    omega

@[simp] theorem length_parents (node : α × α → α) (level : List α) :
    (parents node level).length = (level.length + 1) / 2 := by
  rw [parents, List.length_map, length_pairs]

theorem length_parents_lt (node : α × α → α) {level : List α} (several : 1 < level.length) :
    (parents node level).length < level.length := by
  rw [length_parents]
  omega

/-- The node that is left in the end. -/
def root (node : α × α → α) (level : List α) : Option α :=
  if several : 1 < level.length then
    have := length_parents_lt node several
    root node (parents node level)
  else level.head?
termination_by level.length

/-- All pairs that are hashed on the way to the root. -/
def hashed (node : α × α → α) (level : List α) : List (α × α) :=
  if several : 1 < level.length then
    have := length_parents_lt node several
    pairs level ++ hashed node (parents node level)
  else []
termination_by level.length

variable {node : α × α → α} {level xs ys : List α}

theorem root_of_several (several : 1 < level.length) :
    root node level = root node (parents node level) := by
  rw [root, dif_pos several]

theorem root_of_single (single : ¬1 < level.length) : root node level = level.head? := by
  rw [root, dif_neg single]

theorem hashed_of_several (several : 1 < level.length) :
    hashed node level = pairs level ++ hashed node (parents node level) := by
  rw [hashed, dif_pos several]

theorem eq_toList_of_single (single : ¬1 < level.length) : level = level.head?.toList := by
  match level with
  | [] => rfl
  | [_] => rfl
  | _ :: _ :: _ => simp at single

theorem root_eq_none_iff (node : α × α → α) (level : List α) :
    root node level = none ↔ level = [] := by
  induction level using root.induct node with
  | case1 level several _ ih =>
    rw [root_of_several several, ih, ← List.length_eq_zero_iff, ← List.length_eq_zero_iff,
      length_parents]
    omega
  | case2 level single => rw [root_of_single single, List.head?_eq_none_iff]

theorem exists_root (node : α × α → α) (occupied : level ≠ []) :
    ∃ top, root node level = some top :=
  Option.ne_none_iff_exists'.mp fun absent => occupied ((root_eq_none_iff node level).mp absent)

/-- The levels of the tree over some leaves. -/
inductive Level (node : α × α → α) (leaves : List α) : List α → Prop
  | leaves : Level node leaves leaves
  | above {level : List α} (below : Level node leaves level) (several : 1 < level.length) :
      Level node leaves (parents node level)

theorem Level.of_parents (several : 1 < xs.length) (high : Level node (parents node xs) level) :
    ∃ below, Level node xs below ∧ 1 < below.length ∧ level = parents node below := by
  induction high with
  | leaves => exact ⟨xs, .leaves, several, rfl⟩
  | above _ more ih =>
    obtain ⟨below, lower, wide, rfl⟩ := ih
    exact ⟨_, .above lower wide, more, rfl⟩

theorem Level.pairs_subset (lower : Level node xs level) (several : 1 < level.length) :
    pairs level ⊆ hashed node xs := by
  have kept : hashed node level ⊆ hashed node xs := by
    clear several
    induction lower with
    | leaves => exact List.Subset.refl _
    | above _ more ih =>
      rw [hashed_of_several more] at ih
      exact List.Subset.trans (List.subset_append_right _ _) ih
  rw [hashed_of_several several] at kept
  exact List.Subset.trans (List.subset_append_left _ _) kept

/-- The root is a level of its own. -/
theorem level_root {top : α} (found : root node xs = some top) : Level node xs [top] := by
  have climbs : ∀ level, Level node xs level → root node level = some top →
      Level node xs [top] := by
    intro level
    induction level using root.induct node with
    | case1 level several _ ih =>
      intro lower reached
      rw [root_of_several several] at reached
      exact ih (.above lower several) reached
    | case2 level single =>
      intro lower reached
      rw [root_of_single single] at reached
      rw [eq_toList_of_single single, reached] at lower
      exact lower
  exact climbs xs .leaves found

/-! ## Lists with a repeated end -/

/-- Two lists with the same elements, one of them an initial part of the other. -/
structure Repeats (xs ys : List α) : Prop where
  common : ∃ whole, xs <+: whole ∧ ys <+: whole
  left : xs ⊆ ys
  right : ys ⊆ xs

theorem Repeats.refl (xs : List α) : Repeats xs xs :=
  ⟨⟨xs, List.prefix_rfl, List.prefix_rfl⟩, List.Subset.refl xs, List.Subset.refl xs⟩

theorem Repeats.symm (repeats : Repeats xs ys) : Repeats ys xs := by
  obtain ⟨whole, first, second⟩ := repeats.common
  exact ⟨⟨whole, second, first⟩, repeats.right, repeats.left⟩

theorem Repeats.eq_of_nodup (repeats : Repeats xs ys) (distinctLeft : xs.Nodup)
    (distinctRight : ys.Nodup) : xs = ys := by
  obtain ⟨whole, first, second⟩ := repeats.common
  have shorter := (List.subperm_of_subset distinctLeft repeats.left).length_le
  have longer := (List.subperm_of_subset distinctRight repeats.right).length_le
  exact (List.prefix_of_prefix_length_le first second shorter).eq_of_length_le longer

theorem prefix_of_map {β : Type} {f : α → β}
    (injective : Set.InjOn f {item | item ∈ xs ∨ item ∈ ys})
    (mapped : xs.map f <+: ys.map f) : xs <+: ys := by
  induction xs generalizing ys with
  | nil => exact List.nil_prefix
  | cons first rest ih =>
    cases ys with
    | nil => simp at mapped
    | cons other others =>
      rw [List.map_cons, List.map_cons, List.cons_prefix_cons] at mapped
      have same : first = other :=
        injective (.inl List.mem_cons_self) (.inr List.mem_cons_self) mapped.1
      rw [same, List.cons_prefix_cons]
      refine ⟨rfl, ih (injective.mono ?_) mapped.2⟩
      intro item listed
      exact listed.imp (List.mem_cons_of_mem _) (List.mem_cons_of_mem _)

theorem Repeats.of_map {β : Type} {f : α → β}
    (injective : Set.InjOn f {item | item ∈ xs ∨ item ∈ ys})
    (repeats : Repeats (xs.map f) (ys.map f)) : Repeats xs ys := by
  have swapped : Set.InjOn f {item | item ∈ ys ∨ item ∈ xs} :=
    injective.mono fun _ listed => listed.symm
  have subset : ∀ {first second : List α}, Set.InjOn f {item | item ∈ first ∨ item ∈ second} →
      first.map f ⊆ second.map f → first ⊆ second := by
    intro first second injective images item listed
    obtain ⟨other, found, same⟩ := List.mem_map.mp (images (List.mem_map_of_mem listed))
    exact injective (.inr found) (.inl listed) same ▸ found
  obtain ⟨whole, first, second⟩ := repeats.common
  refine ⟨?_, subset injective repeats.left, subset swapped repeats.right⟩
  cases List.prefix_or_prefix_of_prefix first second with
  | inl shorter => exact ⟨ys, prefix_of_map injective shorter, List.prefix_rfl⟩
  | inr longer => exact ⟨xs, List.prefix_rfl, prefix_of_map swapped longer⟩

/-! ## From pairs to levels -/

/-- The nodes of some pairs in order. -/
def spread (pairs : List (α × α)) : List α := pairs.flatMap fun pair => [pair.1, pair.2]

theorem prefix_spread (level : List α) : level <+: spread (pairs level) := by
  induction level using pairs.induct with
  | case1 => exact List.prefix_rfl
  | case2 single => exact ⟨[single], rfl⟩
  | case3 left right rest ih =>
    simp only [pairs, spread, List.flatMap_cons, List.cons_append, List.nil_append,
      List.cons_prefix_cons, true_and]
    exact ih

theorem spread_subset (level : List α) : spread (pairs level) ⊆ level := by
  induction level using pairs.induct with
  | case1 => exact List.Subset.refl _
  | case2 single => simp [pairs, spread]
  | case3 left right rest ih =>
    simp only [pairs, spread, List.flatMap_cons, List.cons_append, List.nil_append]
    exact List.cons_subset_cons _ (List.cons_subset_cons _ ih)

theorem subset_of_pairs (subset : pairs xs ⊆ pairs ys) : xs ⊆ ys := by
  intro item listed
  obtain ⟨pair, paired, inside⟩ := List.mem_flatMap.mp ((prefix_spread xs).subset listed)
  exact spread_subset ys (List.mem_flatMap.mpr ⟨pair, subset paired, inside⟩)

theorem Repeats.of_pairs (repeats : Repeats (pairs xs) (pairs ys)) : Repeats xs ys := by
  obtain ⟨whole, first, second⟩ := repeats.common
  refine ⟨⟨spread whole, ?_, ?_⟩, ?_, ?_⟩
  · exact (prefix_spread xs).trans (first.flatMap _)
  · exact (prefix_spread ys).trans (second.flatMap _)
  · exact subset_of_pairs repeats.left
  · exact subset_of_pairs repeats.right

/-! ## Equal roots -/

section Binding

variable {known : Set (α × α)} (injective : Set.InjOn node known)
include injective

/-- Two levels of trees whose hashed pairs are known. -/
theorem Repeats.of_known (left : ∀ pair ∈ pairs xs, pair ∈ known)
    (right : ∀ pair ∈ pairs ys, pair ∈ known)
    (repeats : Repeats (parents node xs) (parents node ys)) : Repeats xs ys := by
  apply Repeats.of_pairs
  apply Repeats.of_map _ repeats
  apply injective.mono
  intro pair listed
  exact listed.elim (left pair) (right pair)

/-- Lists of one length with one root are equal. -/
theorem eq_of_root_eq_of_length (left : ∀ pair ∈ hashed node xs, pair ∈ known)
    (right : ∀ pair ∈ hashed node ys, pair ∈ known) (lengths : xs.length = ys.length)
    (same : root node xs = root node ys) : xs = ys := by
  induction xs using root.induct node generalizing ys with
  | case1 xs several _ ih =>
    have wide : 1 < ys.length := lengths ▸ several
    rw [hashed_of_several several, List.forall_mem_append] at left
    rw [hashed_of_several wide, List.forall_mem_append] at right
    rw [root_of_several several, root_of_several wide] at same
    have above : parents node xs = parents node ys := by
      apply ih left.2 right.2 _ same
      rw [length_parents, length_parents, lengths]
    have repeats : Repeats xs ys := .of_known injective left.1 right.1 (above ▸ .refl _)
    obtain ⟨whole, first, second⟩ := repeats.common
    exact (List.prefix_of_prefix_length_le first second lengths.le).eq_of_length lengths
  | case2 xs single =>
    have alone : ¬1 < ys.length := lengths ▸ single
    rw [root_of_single single, root_of_single alone] at same
    rw [eq_toList_of_single single, same, ← eq_toList_of_single alone]

/-- Of two lists with one root, one is like a level of the tree over the other. -/
theorem exists_level_of_root_eq (left : ∀ pair ∈ hashed node xs, pair ∈ known)
    (right : ∀ pair ∈ hashed node ys, pair ∈ known) (occupied : xs ≠ [])
    (same : root node xs = root node ys) :
    (∃ level, Level node ys level ∧ Repeats xs level) ∨
      ∃ level, Level node xs level ∧ Repeats level ys := by
  induction xs using root.induct node generalizing ys with
  | case1 xs several _ ih =>
    by_cases wide : 1 < ys.length
    · -- Both trees have a level above: descend from there.
      have pairsLeft := left
      rw [hashed_of_several several, List.forall_mem_append] at pairsLeft
      have pairsRight := right
      rw [hashed_of_several wide, List.forall_mem_append] at pairsRight
      rw [root_of_several several, root_of_several wide] at same
      have filled : parents node xs ≠ [] := by
        rw [← List.length_pos_iff, length_parents]
        omega
      cases ih pairsLeft.2 pairsRight.2 filled same with
      | inl repeated =>
        obtain ⟨level, high, repeats⟩ := repeated
        obtain ⟨below, lower, more, rfl⟩ := high.of_parents wide
        refine .inl ⟨below, lower, .of_known injective pairsLeft.1 ?_ repeats⟩
        exact fun pair listed => right pair (lower.pairs_subset more listed)
      | inr under =>
        obtain ⟨level, high, repeats⟩ := under
        obtain ⟨below, lower, more, rfl⟩ := high.of_parents several
        refine .inr ⟨below, lower, .of_known injective ?_ pairsRight.1 repeats⟩
        exact fun pair listed => left pair (lower.pairs_subset more listed)
    · obtain ⟨top, found⟩ := exists_root node occupied
      refine .inr ⟨[top], level_root found, ?_⟩
      rw [eq_toList_of_single wide, ← root_of_single wide, ← same, found]
      exact .refl _
  | case2 xs single =>
    obtain ⟨top, found⟩ := exists_root node occupied
    refine .inl ⟨[top], level_root (same ▸ found), ?_⟩
    rw [eq_toList_of_single single, ← root_of_single single, found]
    exact .refl _

omit injective in
/-- A list without node hashes is like no level but the lowest. -/
theorem Repeats.eq_leaves (repeats : Repeats xs level) (lower : Level node ys level)
    (occupied : xs ≠ []) (leaves : ∀ leaf ∈ xs, ∀ pair ∈ hashed node ys, leaf ≠ node pair) :
    level = ys := by
  cases lower with
  | leaves => rfl
  | above below several =>
    obtain ⟨leaf, listed⟩ := List.exists_mem_of_ne_nil xs occupied
    obtain ⟨pair, paired, hashes⟩ := List.mem_map.mp (repeats.left listed)
    exact absurd hashes.symm (leaves leaf listed pair (below.pairs_subset several paired))

/-- Lists without repetitions whose leaves are no node hashes are equal if their roots are. -/
theorem eq_of_root_eq (left : ∀ pair ∈ hashed node xs, pair ∈ known)
    (right : ∀ pair ∈ hashed node ys, pair ∈ known) (distinctLeft : xs.Nodup)
    (distinctRight : ys.Nodup)
    (leavesLeft : ∀ leaf ∈ xs, ∀ pair ∈ hashed node ys, leaf ≠ node pair)
    (leavesRight : ∀ leaf ∈ ys, ∀ pair ∈ hashed node xs, leaf ≠ node pair)
    (same : root node xs = root node ys) : xs = ys := by
  have empty : xs = [] ↔ ys = [] := by
    rw [← root_eq_none_iff node, same, root_eq_none_iff]
  by_cases occupied : xs = []
  · rw [occupied, empty.mp occupied]
  · cases exists_level_of_root_eq injective left right occupied same with
    | inl repeated =>
      obtain ⟨level, lower, repeats⟩ := repeated
      rw [repeats.eq_leaves lower occupied leavesLeft] at repeats
      exact repeats.eq_of_nodup distinctLeft distinctRight
    | inr under =>
      obtain ⟨level, lower, repeats⟩ := under
      rw [repeats.symm.eq_leaves lower (mt empty.mpr occupied) leavesRight] at repeats
      exact repeats.eq_of_nodup distinctLeft distinctRight

end Binding

end Dirextalk.Lib.MerkleTree
