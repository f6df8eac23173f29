import Dirextalk.Wire.RoundTrip

/-!
# What the encoder admits

The encoder checks its limits as it goes: keys are written by encoders of their own, their
bytes are held against the limit before anything else is, and values are charged in the order
of the sorted keys.  The values it admits have a description that does not mention the order
of these checks: every node of the value keeps the rules, there are not too many nodes, and
the canonical form is within the limit.
-/

namespace Dirextalk.Wire

open Lib

/-! ## Nodes -/

/-- The value has the node at the depth; the keys of a map are nodes too. -/
inductive NodeAt : CanonicalValue → Nat → CanonicalValue → Prop
  | root (value : CanonicalValue) : NodeAt value 0 value
  | element {values : List CanonicalValue} {element node : CanonicalValue} {depth : Nat}
      (member : element ∈ values) (below : NodeAt element depth node) :
      NodeAt (.array values) (depth + 1) node
  | key {entries : List (CanonicalValue × CanonicalValue)}
      {entry : CanonicalValue × CanonicalValue} {node : CanonicalValue} {depth : Nat}
      (member : entry ∈ entries) (below : NodeAt entry.1 depth node) :
      NodeAt (.map entries) (depth + 1) node
  | value {entries : List (CanonicalValue × CanonicalValue)}
      {entry : CanonicalValue × CanonicalValue} {node : CanonicalValue} {depth : Nat}
      (member : entry ∈ entries) (below : NodeAt entry.2 depth node) :
      NodeAt (.map entries) (depth + 1) node

/-- The rules of a node alone. -/
def NodeRules : CanonicalValue → Prop
  | .negative payload => payload < 0
  | .array values => values.length ≤ maxContainerEntries
  | .map entries => entries.length ≤ maxContainerEntries ∧
      (entries.map fun entry => wire entry.1).Nodup
  | _ => True

/-- The length of a byte or text string is a machine number. -/
def LeafFits : CanonicalValue → Prop
  | .bytes content => content.length < UInt64.size
  | .text content => (textBytes content).length < UInt64.size
  | _ => True

theorem nodes_of_fits {remaining depth : Nat} {value node : CanonicalValue}
    (fits : Fits (remaining + 1) value) (located : NodeAt value depth node) :
    depth ≤ remaining ∧ NodeRules node ∧ LeafFits node := by
  induction located generalizing remaining with
  | root value =>
    refine ⟨Nat.zero_le _, ?_⟩
    cases value with
    | negative payload => exact ⟨fits, trivial⟩
    | bytes content => exact ⟨trivial, fits⟩
    | text content => exact ⟨trivial, fits⟩
    | array values => exact ⟨fits.1, trivial⟩
    | map entries => exact ⟨⟨fits.1, fits.2.2⟩, trivial⟩
    | _ => exact ⟨trivial, trivial⟩
  | element member _ ih =>
    cases remaining with
    | zero => exact (fits.2 _ member).elim
    | succ remaining =>
      obtain ⟨shallow, rules⟩ := ih (fits.2 _ member)
      exact ⟨Nat.succ_le_succ shallow, rules⟩
  | key member _ ih =>
    cases remaining with
    | zero => exact (fits.2.1 _ member).1.elim
    | succ remaining =>
      obtain ⟨shallow, rules⟩ := ih (fits.2.1 _ member).1
      exact ⟨Nat.succ_le_succ shallow, rules⟩
  | value member _ ih =>
    cases remaining with
    | zero => exact (fits.2.1 _ member).2.elim
    | succ remaining =>
      obtain ⟨shallow, rules⟩ := ih (fits.2.1 _ member).2
      exact ⟨Nat.succ_le_succ shallow, rules⟩

variable {value : CanonicalValue}

theorem fits_of_nodes {remaining : Nat} (nodes : ∀ depth node, NodeAt value depth node →
      depth ≤ remaining ∧ NodeRules node ∧ LeafFits node) : Fits (remaining + 1) value := by
  induction remaining generalizing value with
  | zero =>
    obtain ⟨-, rules, leaf⟩ := nodes 0 value (.root value)
    cases value with
    | negative payload => exact rules
    | bytes content => exact leaf
    | text content => exact leaf
    | array values =>
      refine ⟨rules, fun element member => ?_⟩
      cases (nodes 1 element (.element member (.root _))).1
    | map entries =>
      refine ⟨rules.1, fun entry member => ?_, rules.2⟩
      cases (nodes 1 entry.1 (.key member (.root _))).1
    | _ => trivial
  | succ remaining ih =>
    -- a node of a part is a node of the whole, one level deeper
    have part {inner : CanonicalValue} (deeper : ∀ depth node, NodeAt inner depth node →
        NodeAt value (depth + 1) node) : Fits (remaining + 1) inner :=
      ih fun depth node located => by
        obtain ⟨shallow, rules⟩ := nodes (depth + 1) node (deeper depth node located)
        exact ⟨Nat.le_of_succ_le_succ shallow, rules⟩
    obtain ⟨-, rules, leaf⟩ := nodes 0 value (.root value)
    cases value with
    | negative payload => exact rules
    | bytes content => exact leaf
    | text content => exact leaf
    | array values =>
      exact ⟨rules, fun element member => part fun _ _ => .element member⟩
    | map entries =>
      exact ⟨rules.1, fun entry member =>
        ⟨part fun _ _ => .key member, part fun _ _ => .value member⟩, rules.2⟩
    | _ => trivial

/-! ## Lengths -/

theorem length_wire_le_of_nodeAt {value node : CanonicalValue} {depth : Nat}
    (located : NodeAt value depth node) : (wire node).length ≤ (wire value).length := by
  have entry_le {entries : List (CanonicalValue × CanonicalValue)}
      {entry : CanonicalValue × CanonicalValue} (member : entry ∈ entries) :
      (wire entry.1).length + (wire entry.2).length ≤ (wire (.map entries)).length := by
    have listed : (wire entry.1, entry.2) ∈ Encoder.keySorted entries :=
      mem_sortByKey.mpr (List.mem_map_of_mem member)
    have summand := List.le_sum_of_mem (List.mem_map_of_mem
      (f := fun tagged => (tagged.1 ++ wire tagged.2).length) listed)
    rw [Encoder.wire_map, List.length_append, List.length_flatMap]
    simp only [List.length_append] at summand ⊢
    omega
  induction located with
  | root value => exact Nat.le_refl _
  | @element values element _ _ member _ ih =>
    have listed := List.le_sum_of_mem (List.mem_map_of_mem
      (f := fun element => (wire element).length) member)
    have total : (wire (.array values)).length ≥ (values.map fun element =>
        (wire element).length).sum := by
      rw [wire, wireValues_eq_map, List.length_append, List.length_flatten, List.map_map]
      exact Nat.le_add_left _ _
    omega
  | key member _ ih =>
    have within := entry_le member
    omega
  | value member _ ih =>
    have within := entry_le member
    omega

theorem leafFits_of_length {node : CanonicalValue} (short : (wire node).length < UInt64.size) :
    LeafFits node := by
  cases node with
  | bytes content =>
    rw [wire, List.length_append] at short
    exact Nat.lt_of_le_of_lt (Nat.le_add_left _ _) short
  | text content =>
    rw [wire, List.length_append] at short
    exact Nat.lt_of_le_of_lt (Nat.le_add_left _ _) short
  | _ => trivial

/-! ## Other orders of the entries -/

variable {first second : CanonicalValue}

theorem Reordered.itemCount_eq (reordered : Reordered first second) :
    itemCount first = itemCount second := by
  induction reordered with
  | array pairs _ ih =>
    rw [itemCount, itemCount, Encoder.itemCounts_eq_sum, Encoder.itemCounts_eq_sum, List.map_map,
      List.map_map]
    congr 2
    exact List.map_congr_left ih
  | map pairs entries _ _ permuted keys values =>
    have key := permuted.map fun entry => itemCount entry.1
    have value := permuted.map fun entry => itemCount entry.2
    rw [itemCount, itemCount, Encoder.entryItemCounts_eq_sum, Encoder.entryItemCounts_eq_sum,
      ← key.sum_eq, ← value.sum_eq, List.map_map, List.map_map, List.map_map, List.map_map]
    congr 3
    · exact List.map_congr_left keys
    · exact List.map_congr_left values
  | _ => rfl

section Maps

variable {remaining : Nat}
  {pairs : List ((CanonicalValue × CanonicalValue) × (CanonicalValue × CanonicalValue))}
  {entries : List (CanonicalValue × CanonicalValue)}
  (permuted : (pairs.map Prod.snd).Perm entries)
  (keys : ∀ pair ∈ pairs, (Fits remaining pair.1.1 ↔ Fits remaining pair.2.1) ∧
    (Fits remaining pair.1.1 → wire pair.1.1 = wire pair.2.1))
  (values : ∀ pair ∈ pairs, (Fits remaining pair.1.2 ↔ Fits remaining pair.2.2) ∧
    (Fits remaining pair.1.2 → wire pair.1.2 = wire pair.2.2))

include permuted keys in
/-- The keys of the two maps take the same bytes. -/
theorem keyBytes_perm (fit : ∀ pair ∈ pairs, Fits remaining pair.1.1) :
    ((pairs.map Prod.fst).map fun entry => wire entry.1).Perm
      (entries.map fun entry => wire entry.1) := by
  refine List.Perm.trans (List.Perm.of_eq ?_) (permuted.map _)
  rw [List.map_map, List.map_map]
  exact List.map_congr_left fun pair member => (keys pair member).2 (fit pair member)

include permuted keys values in
theorem fits_map_iff :
    Fits (remaining + 1) (.map (pairs.map Prod.fst)) ↔ Fits (remaining + 1) (.map entries) := by
  have sizes : (pairs.map Prod.fst).length = entries.length := by
    rw [← permuted.length_eq, List.length_map, List.length_map]
  have parts : (∀ entry ∈ pairs.map Prod.fst, Fits remaining entry.1 ∧ Fits remaining entry.2) ↔
      ∀ entry ∈ entries, Fits remaining entry.1 ∧ Fits remaining entry.2 := by
    simp only [← permuted.mem_iff, List.forall_mem_map]
    exact forall₂_congr fun pair member => and_congr (keys pair member).1 (values pair member).1
  have distinct (fit : ∀ entry ∈ pairs.map Prod.fst,
      Fits remaining entry.1 ∧ Fits remaining entry.2) :=
    (keyBytes_perm permuted keys fun pair member =>
      (fit pair.1 (List.mem_map_of_mem member)).1).nodup_iff
  constructor
  · rintro ⟨within, fit, nodup⟩
    exact ⟨sizes ▸ within, parts.mp fit, (distinct fit).mp nodup⟩
  · rintro ⟨within, fit, nodup⟩
    have first := parts.mpr fit
    exact ⟨sizes ▸ within, first, (distinct first).mpr nodup⟩

include permuted keys values in
theorem wire_map_eq (fits : Fits (remaining + 1) (.map (pairs.map Prod.fst))) :
    wire (.map (pairs.map Prod.fst)) = wire (.map entries) := by
  obtain ⟨-, fit, nodup⟩ := fits
  have member_fits {pair} (member : pair ∈ pairs) := fit pair.1 (List.mem_map_of_mem member)
  have tagged : ((pairs.map Prod.fst).map fun entry => (wire entry.1, wire entry.2)).Perm
      (entries.map fun entry => (wire entry.1, wire entry.2)) := by
    refine List.Perm.trans (List.Perm.of_eq ?_) (permuted.map _)
    rw [List.map_map, List.map_map]
    refine List.map_congr_left fun pair member => ?_
    simp only [Function.comp_apply]
    rw [(keys pair member).2 (member_fits member).1, (values pair member).2 (member_fits member).2]
  have sorted := sortByKey_eq_of_perm tagged (by rwa [List.map_map])
  rw [wire, wire, wireEntries_eq_map, wireEntries_eq_map, sorted, ← permuted.length_eq,
    List.length_map, List.length_map]

end Maps

/-- An admissible value has the same canonical form in every order. -/
theorem Reordered.agree (reordered : Reordered first second) (remaining : Nat) :
    (Fits remaining first ↔ Fits remaining second) ∧
      (Fits remaining first → wire first = wire second) := by
  induction reordered generalizing remaining with
  | array pairs _ ih =>
    cases remaining with
    | zero => exact ⟨Iff.rfl, False.elim⟩
    | succ remaining =>
      have parts : (∀ value ∈ pairs.map Prod.fst, Fits remaining value) ↔
          ∀ value ∈ pairs.map Prod.snd, Fits remaining value := by
        simp only [List.forall_mem_map]
        exact forall₂_congr fun pair member => (ih pair member remaining).1
      refine ⟨by rw [Fits, Fits, parts, List.length_map, List.length_map], fun fits => ?_⟩
      have same : pairs.map (wire ∘ Prod.fst) = pairs.map (wire ∘ Prod.snd) :=
        List.map_congr_left fun pair member =>
          (ih pair member remaining).2 (fits.2 _ (List.mem_map_of_mem member))
      simp only [wire, wireValues_eq_map, List.length_map, List.map_map, same]
  | map pairs entries _ _ permuted keys values =>
    cases remaining with
    | zero => exact ⟨Iff.rfl, False.elim⟩
    | succ remaining =>
      have key := fun pair member => keys pair member remaining
      have value := fun pair member => values pair member remaining
      exact ⟨fits_map_iff permuted key value, wire_map_eq permuted key value⟩
  | _ => exact ⟨Iff.rfl, fun _ => rfl⟩

/-! ## The values that are encoded -/

/-- Every node keeps the rules, at most 32 levels below the root, and there are not too many. -/
structure Admissible (value : CanonicalValue) : Prop where
  negative : ∀ depth payload, NodeAt value depth (.negative payload) → payload < 0
  shallow : ∀ depth node, NodeAt value depth node → depth ≤ 32
  arrays : ∀ depth values, NodeAt value depth (.array values) → values.length ≤ 4096
  maps : ∀ depth entries, NodeAt value depth (.map entries) → entries.length ≤ 4096
  distinct : ∀ depth entries, NodeAt value depth (.map entries) →
    (entries.map fun entry => wire entry.1).Nodup
  items_le : itemCount value ≤ 65536

theorem admissible_of_encodable {limit : UInt64} (encodable : Encodable limit value) :
    Admissible value where
  negative := fun _ _ located => (nodes_of_fits encodable.fits located).2.1
  shallow := fun _ _ located => (nodes_of_fits encodable.fits located).1
  arrays := fun _ _ located => (nodes_of_fits encodable.fits located).2.1
  maps := fun _ _ located => (nodes_of_fits encodable.fits located).2.1.1
  distinct := fun _ _ located => (nodes_of_fits encodable.fits located).2.1.2
  items_le := encodable.items_le

theorem Admissible.encodable {limit : UInt64} (admissible : Admissible value) (positive : 0 < limit)
    (within : (wire value).length ≤ limit.toNat) : Encodable limit value where
  limit_ne_zero := by
    rintro rfl
    exact absurd positive (by decide)
  fits := by
    refine fits_of_nodes fun depth node located => ⟨admissible.shallow depth node located, ?_, ?_⟩
    · cases node with
      | negative payload => exact admissible.negative depth payload located
      | array values => exact admissible.arrays depth values located
      | map entries =>
        exact ⟨admissible.maps depth entries located, admissible.distinct depth entries located⟩
      | _ => trivial
    · -- a string is no longer than the canonical form around it
      have part := length_wire_le_of_nodeAt located
      have machine : limit.toNat < UInt64.size := limit.toNat_lt
      exact leafFits_of_length (by omega)
  bytes_le := within
  items_le := admissible.items_le

theorem Reordered.encodable_iff (reordered : Reordered first second) (limit : UInt64)
    (bytes : List UInt8) :
    Encodable limit first ∧ wire first = bytes ↔ Encodable limit second ∧ wire second = bytes := by
  have items := reordered.itemCount_eq
  obtain ⟨fits, same⟩ := reordered.agree (maxDepth + 1)
  constructor
  · rintro ⟨⟨positive, fit, within, few⟩, rfl⟩
    have forms := same fit
    exact ⟨⟨positive, fits.mp fit, forms ▸ within, items ▸ few⟩, forms.symm⟩
  · rintro ⟨⟨positive, fit, within, few⟩, rfl⟩
    have forms := same (fits.mpr fit)
    exact ⟨⟨positive, fits.mpr fit, forms ▸ within, items ▸ few⟩, forms⟩

/-- The encoder succeeds on exactly the admissible values whose canonical form is within the
limit.  A larger limit gives the same bytes, and so does any other order of the entries. -/
theorem encode_succeeds_iff (value : CanonicalValue) (limit : UInt64) :
    ((∃ bytes, encodeDeterministicCborWithLimit value limit = .ok bytes) ↔
      0 < limit ∧ Admissible value ∧ (wire value).length ≤ limit.toNat) ∧
    (∀ bytes, encodeDeterministicCborWithLimit value limit = .ok bytes → bytes = wire value ∧
      ∀ larger, limit ≤ larger → encodeDeterministicCborWithLimit value larger = .ok bytes) ∧
    ∀ other, Reordered value other → ∀ bytes,
      encodeDeterministicCborWithLimit value limit = .ok bytes ↔
        encodeDeterministicCborWithLimit other limit = .ok bytes := by
  refine ⟨⟨?_, ?_⟩, ?_, ?_⟩
  · rintro ⟨bytes, encoded⟩
    obtain ⟨encodable, -⟩ := encode_eq_ok_iff.mp encoded
    exact ⟨UInt64.pos_iff_ne_zero.mpr encodable.limit_ne_zero, admissible_of_encodable encodable,
      encodable.bytes_le⟩
  · rintro ⟨positive, admissible, within⟩
    exact ⟨_, encode_eq_ok_iff.mpr ⟨admissible.encodable positive within, rfl⟩⟩
  · intro bytes encoded
    obtain ⟨encodable, rfl⟩ := encode_eq_ok_iff.mp encoded
    refine ⟨rfl, fun larger above => encode_eq_ok_iff.mpr ⟨?_, rfl⟩⟩
    have values : limit.toNat ≤ larger.toNat := UInt64.le_iff_toNat_le.mp above
    have positive : 0 < larger :=
      UInt64.lt_of_lt_of_le (UInt64.pos_iff_ne_zero.mpr encodable.limit_ne_zero) above
    exact (admissible_of_encodable encodable).encodable positive
      (Nat.le_trans encodable.bytes_le values)
  · intro other reordered bytes
    rw [encode_eq_ok_iff, encode_eq_ok_iff]
    exact reordered.encodable_iff limit bytes

end Dirextalk.Wire
