import Dirextalk.Lib.Fallible
import Dirextalk.Lib.TreeMap

/-!
# Append-only histories

Lists that only grow at their end and whose last entry alone may still change.  What
holds of every entry at its index, and between neighbours, is kept by appending and by
changing the last entry; and an audit that restores each entry at its index restores
the whole list.  If every label names the digest of the one before it, the last digest
determines a whole run.
-/

namespace Dirextalk.Lib

variable {α β : Type} {items : List α} {item last : α} {index : Nat}

/-! ## Entries -/

theorem forall_mem_concat {property : α → Prop} :
    (∀ found ∈ items ++ [item], property found) ↔
      (∀ found ∈ items, property found) ∧ property item := by
  rw [List.forall_mem_append, List.forall_mem_singleton]

/-- A label that no earlier entry has. -/
theorem nodup_map_concat {label : α → β} :
    ((items ++ [item]).map label).Nodup ↔
      (items.map label).Nodup ∧ ∀ found ∈ items, label found ≠ label item := by
  rw [List.map_append, List.map_singleton, List.nodup_append]
  simp

theorem getElem?_concat_eq_some {found : α} :
    (items ++ [item])[index]? = some found ↔
      items[index]? = some found ∨ index = items.length ∧ item = found := by
  rw [List.getElem?_append]
  split
  case isTrue within => simp [within.ne]
  case isFalse beyond =>
    rw [Nat.not_lt] at beyond
    rw [List.getElem?_eq_none beyond, List.getElem?_singleton]
    simp only [reduceCtorEq, false_or, Nat.sub_eq_zero_iff_le, Option.ite_none_right_eq_some,
      Option.some.injEq, and_congr_left_iff]
    omega

/-- The first entry with which a list has a property that the empty list lacks. -/
theorem exists_first_prefix (property : List α → Prop) (empty : ¬property [])
    (holds : property items) :
    ∃ before item, before ++ [item] <+: items ∧ ¬property before ∧ property (before ++ [item]) := by
  induction items using List.reverseRecOn with
  | nil => exact absurd holds empty
  | append_singleton before item ih =>
    by_cases earlier : property before
    · obtain ⟨first, last, within, lacks, holds⟩ := ih earlier
      exact ⟨first, last, within.trans (List.prefix_append _ _), lacks, holds⟩
    · exact ⟨before, item, List.prefix_rfl, earlier, holds⟩

/-! ## Neighbours -/

theorem isChain_concat {relation : α → α → Prop} :
    (items ++ [item]).IsChain relation ↔
      items.IsChain relation ∧ ∀ last ∈ items.getLast?, relation last item := by
  simp [List.isChain_append]

theorem isChain_getElem? {relation : α → α → Prop} (chain : items.IsChain relation)
    {previous : α} (before : items[index]? = some previous)
    (found : items[index + 1]? = some item) : relation previous item := by
  obtain ⟨_, rfl⟩ := List.getElem?_eq_some_iff.mp before
  obtain ⟨bound, rfl⟩ := List.getElem?_eq_some_iff.mp found
  exact List.isChain_iff_getElem.mp chain index bound

/-! ## Audits -/

/-- An entry whose key occurs before it is not alone with that key. -/
theorem key_notMem_take {κ : Type} {keyOf : α → κ} (distinct : (items.map keyOf).Nodup)
    (found : items[index]? = some item) : keyOf item ∉ (items.take index).map keyOf := by
  obtain ⟨bound, rfl⟩ := List.getElem?_eq_some_iff.mp found
  intro member
  rw [List.map_take, List.mem_take_iff_getElem] at member
  obtain ⟨position, before, same⟩ := member
  have here : (items.map keyOf)[position]? = (items.map keyOf)[index]? := by
    grind
  exact List.nodup_iff_getElem?_ne_getElem?.mp distinct position index (by omega) (by simpa) here

/-- With distinct keys, a search that fixes the key finds its only match. -/
theorem find?_eq_some_of_key {κ : Type} {keyOf : α → κ} (distinct : (items.map keyOf).Nodup)
    {matches? : α → Bool} (listed : item ∈ items) (matched : matches? item = true)
    (same : ∀ other ∈ items, matches? other = true → keyOf other = keyOf item) :
    items.find? matches? = some item := by
  obtain ⟨other, found⟩ := Option.isSome_iff_exists.mp
    (List.find?_isSome.mpr ⟨item, listed, matched⟩)
  have member := List.mem_of_find?_eq_some found
  rw [found, List.inj_on_of_nodup_map distinct member listed
    (same other member (List.find?_some found))]

/-! ## Hash chains -/

variable {σ ι η : Type}

/-- The states built from a first label and any number of further ones. -/
inductive Built (start : ι → σ → Prop) (step : σ → ι → σ → Prop) : σ → List ι → Prop
  | first {label : ι} {state : σ} (starts : start label state) : Built start step state [label]
  | next {state after : σ} {labels : List ι} {label : ι} (before : Built start step state labels)
      (taken : step state label after) : Built start step after (labels ++ [label])

/-- Deterministic steps that link every label to the digest of the one before it. -/
structure HashLinked (start : ι → σ → Prop) (step : σ → ι → σ → Prop) (head : σ → η)
    (digest : ι → η → Prop) (previous : ι → Option η) : Prop where
  start_unique : ∀ label state other, start label state → start label other → state = other
  start_head : ∀ label state, start label state → digest label (head state)
  start_previous : ∀ label state, start label state → previous label = none
  step_unique : ∀ state label after other,
    step state label after → step state label other → after = other
  step_head : ∀ state label after, step state label after → digest label (head after)
  step_previous : ∀ state label after, step state label after → previous label = some (head state)

section Chains

variable {start : ι → σ → Prop} {step : σ → ι → σ → Prop} {state other : σ}
  {labels others : List ι}

/-- What every admitted label has. -/
theorem Built.forall_labels {property : ι → Prop} (built : Built start step state labels)
    (starts : ∀ label state, start label state → property label)
    (steps : ∀ state label after, step state label after → property label) :
    ∀ label ∈ labels, property label := by
  induction built with
  | first started => exact List.forall_mem_singleton.mpr (starts _ _ started)
  | next before taken ih =>
    exact List.forall_mem_append.mpr ⟨ih, List.forall_mem_singleton.mpr (steps _ _ _ taken)⟩

/-- What holds after the first label and is kept by every step. -/
theorem Built.invariant (built : Built start step state labels) (property : σ → List ι → Prop)
    (starts : ∀ label state, start label state → property state [label])
    (keeps : ∀ state labels label after, property state labels → step state label after →
      property after (labels ++ [label])) : property state labels := by
  induction built with
  | first started => exact starts _ _ started
  | next before taken ih => exact keeps _ _ _ _ ih taken

/-- Runs whose labels the digest tells apart and whose heads agree are the same. -/
theorem HashLinked.agree {head : σ → η} {digest : ι → η → Prop} {previous : ι → Option η}
    (linked : HashLinked start step head digest previous) (built : Built start step state labels)
    (built_other : Built start step other others)
    (injective : ∀ label ∈ labels, ∀ another ∈ others, ∀ value,
      digest label value → digest another value → label = another)
    (same : head state = head other) : labels = others ∧ state = other := by
  -- the last labels have one digest, so they are equal and name the same predecessor
  induction built generalizing other others with
  | first started =>
    have digested := linked.start_head _ _ started
    cases built_other with
    | first startedOther =>
      obtain rfl := injective _ (by simp) _ (by simp) _ digested
        (same ▸ linked.start_head _ _ startedOther)
      exact ⟨rfl, linked.start_unique _ _ _ started startedOther⟩
    | next before taken =>
      obtain rfl := injective _ (by simp) _ (by simp) _ digested
        (same ▸ linked.step_head _ _ _ taken)
      have named := linked.step_previous _ _ _ taken
      rw [linked.start_previous _ _ started] at named
      cases named
  | @next state after labels label before taken ih =>
    have digested := linked.step_head _ _ _ taken
    have named := linked.step_previous _ _ _ taken
    cases built_other with
    | first startedOther =>
      obtain rfl := injective _ (by simp) _ (by simp) _ digested
        (same ▸ linked.start_head _ _ startedOther)
      rw [linked.start_previous _ _ startedOther] at named
      cases named
    | next beforeOther takenOther =>
      obtain rfl := injective _ (by simp) _ (by simp) _ digested
        (same ▸ linked.step_head _ _ _ takenOther)
      rw [linked.step_previous _ _ _ takenOther] at named
      obtain ⟨rfl, rfl⟩ := ih beforeOther
        (fun label member another memberOther => injective label (by simp [member]) another
          (by simp [memberOther])) (Option.some.inj named).symm
      exact ⟨rfl, linked.step_unique _ _ _ _ taken takenOther⟩

end Chains

end Dirextalk.Lib
