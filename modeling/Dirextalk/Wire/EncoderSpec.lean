import Dirextalk.Wire.CanonicalCbor
import Mathlib.Algebra.Order.BigOperators.Group.List

/-!
# What the bounded encoder writes

The encoder is a sequence of steps that append bytes and charge items against two
budgets.  `Writes` is the exact behaviour of such a step: it succeeds if and only
if its own condition holds and both budgets cover what it adds.  The rules below
compose these descriptions, and the encoder of a whole value is described by its
canonical form: `wire` for the bytes and `itemCount` for the items.
-/

namespace Dirextalk.Wire

open Lib

theorem checkedAddUsize_eq_some {left right sum : Nat} :
    checkedAddUsize left right = some sum ↔ left + right < UInt64.size ∧ left + right = sum := by
  unfold checkedAddUsize
  split <;> simp [*]

namespace Encoder

variable (encoder : Encoder) (bytes : List UInt8) (count : Nat)

/-- The encoder after appending `bytes` and charging `count` items. -/
def extend : Encoder :=
  { encoder with output := encoder.output ++ bytes, items := encoder.items + count }

@[simp] theorem extend_output : (encoder.extend bytes count).output = encoder.output ++ bytes := rfl

@[simp] theorem extend_items : (encoder.extend bytes count).items = encoder.items + count := rfl

@[simp] theorem extend_maxEncodedBytes :
    (encoder.extend bytes count).maxEncodedBytes = encoder.maxEncodedBytes := rfl

theorem extend_extend (first second : List UInt8) (few more : Nat) :
    (encoder.extend first few).extend second more =
      encoder.extend (first ++ second) (few + more) := by
  simp [extend, Nat.add_assoc]

@[simp] theorem extend_nothing : encoder.extend [] 0 = encoder := by
  simp [extend]

/-- Both budgets cover the given bytes and items. -/
def Admits : Prop :=
  encoder.output.length + bytes.length ≤ encoder.maxEncodedBytes.toNat ∧
    encoder.items + count ≤ maxTotalItems

/-- What has been written and charged so far is within both budgets. -/
def Bounded : Prop := encoder.Admits [] 0

variable {encoder bytes count}

theorem Admits.bounded_extend (admits : encoder.Admits bytes count) :
    (encoder.extend bytes count).Bounded := by
  simpa [Bounded, Admits] using admits

theorem admits_append {first second : List UInt8} {few more : Nat} :
    encoder.Admits (first ++ second) (few + more) ↔
      encoder.Admits first few ∧ (encoder.extend first few).Admits second more := by
  simp only [Admits, extend_output, extend_items, extend_maxEncodedBytes, List.length_append]
  omega

theorem new_bounded (limit : UInt64) : (Encoder.new limit).Bounded := by
  simp [Bounded, Admits, Encoder.new]

/-! ## Steps and their composition -/

/-- The step succeeds exactly when `condition` holds and the budgets cover the
bytes and items it adds, and it adds nothing else. -/
def Writes (step : Encoder → Except CanonicalCborError Encoder) (condition : Prop)
    (bytes : List UInt8) (count : Nat) : Prop :=
  ∀ encoder, encoder.Bounded → ∀ result,
    step encoder = .ok result ↔
      condition ∧ encoder.Admits bytes count ∧ result = encoder.extend bytes count

theorem Writes.andThen {first second : Encoder → Except CanonicalCborError Encoder}
    {firstCondition secondCondition : Prop} {firstBytes secondBytes : List UInt8}
    {firstCount secondCount : Nat}
    (one : Writes first firstCondition firstBytes firstCount)
    (two : Writes second secondCondition secondBytes secondCount) :
    Writes (fun encoder => do second (← first encoder)) (firstCondition ∧ secondCondition)
      (firstBytes ++ secondBytes) (firstCount + secondCount) := by
  intro encoder bounded result
  rw [bind_eq_ok, admits_append, ← extend_extend]
  constructor
  · rintro ⟨middle, first, second⟩
    obtain ⟨holds, admits, rfl⟩ := (one encoder bounded middle).mp first
    obtain ⟨holdsToo, admitsToo, same⟩ := (two _ admits.bounded_extend result).mp second
    exact ⟨⟨holds, holdsToo⟩, ⟨admits, admitsToo⟩, same⟩
  · rintro ⟨⟨holds, holdsToo⟩, ⟨admits, admitsToo⟩, same⟩
    exact ⟨_, (one encoder bounded _).mpr ⟨holds, admits, rfl⟩,
      (two _ admits.bounded_extend result).mpr ⟨holdsToo, admitsToo, same⟩⟩

variable {step : Encoder → Except CanonicalCborError Encoder}

/-- A step on a fresh encoder leaves exactly its own bytes and items. -/
theorem Writes.fresh {condition : Prop} (writes : Writes step condition bytes count)
    {limit : UInt64} {result : Encoder} :
    step (Encoder.new limit) = .ok result ↔
      condition ∧ (bytes.length ≤ limit.toNat ∧ count ≤ maxTotalItems) ∧
        result = ⟨bytes, count, limit⟩ := by
  rw [writes _ (new_bounded limit)]
  simp [Admits, extend, Encoder.new]

theorem Writes.guarded {check : Except CanonicalCborError Unit} {passes condition : Prop}
    (checks : check = .ok () ↔ passes) (writes : Writes step condition bytes count) :
    Writes (fun encoder => do check; step encoder) (passes ∧ condition) bytes count := by
  intro encoder bounded result
  simp only [bind_eq_ok, exists_const, checks, writes encoder bounded result, and_assoc]

theorem Writes.congr {condition condition' : Prop} {bytes bytes' : List UInt8} {count count' : Nat}
    (writes : Writes step condition bytes count) (conditions : condition ↔ condition')
    (sameBytes : bytes = bytes') (sameCount : count = count') :
    Writes step condition' bytes' count' := by
  subst sameBytes sameCount
  rwa [← propext conditions]

/-- A loop over a list concatenates the bytes and adds the items of its steps. -/
theorem Writes.foldlM {α : Type} (step : Encoder → α → Except CanonicalCborError Encoder)
    (elements : List α) {condition : α → Prop} {bytes : α → List UInt8} {count : α → Nat}
    (writes : ∀ element ∈ elements,
      Writes (fun encoder => step encoder element) (condition element) (bytes element)
        (count element)) :
    Writes (fun encoder => elements.foldlM step encoder)
      (∀ element ∈ elements, condition element)
      (elements.flatMap bytes) (elements.map count).sum := by
  induction elements with
  | nil =>
    intro encoder bounded result
    simp only [List.foldlM_nil, pure_eq_ok, List.flatMap_nil, List.map_nil, List.sum_nil,
      extend_nothing, List.not_mem_nil, false_imp_iff, implies_true, true_and]
    exact ⟨fun same => ⟨bounded, same.symm⟩, fun same => same.2.symm⟩
  | cons element rest ih =>
    have both := (writes element List.mem_cons_self).andThen
      (ih fun other member => writes other (List.mem_cons_of_mem _ member))
    refine both.congr ?_ (by simp) (by simp)
    simp

/-! ## Primitive steps -/

theorem write_writes (bytes : List UInt8) :
    Writes (fun encoder => encoder.write bytes) True bytes 0 := by
  intro encoder bounded result
  have limit : encoder.maxEncodedBytes.toNat < UInt64.size := encoder.maxEncodedBytes.toNat_lt
  simp only [Bounded, Admits] at bounded
  simp only [write, bind_eq_ok, okOr_eq_ok, checkedAddUsize_eq_some, rejectIf_eq_ok, pure_eq_ok,
    exists_const, Nat.not_lt, true_and, Admits, extend, Nat.add_zero, gt_iff_lt]
  constructor
  · rintro ⟨length, ⟨fits, rfl⟩, within, rfl⟩
    exact ⟨⟨within, bounded.2⟩, rfl⟩
  · rintro ⟨⟨within, charged⟩, rfl⟩
    exact ⟨_, ⟨by omega, rfl⟩, within, rfl⟩

theorem chargeItems_writes (count : Nat) :
    Writes (fun encoder => encoder.chargeItems count) True [] count := by
  intro encoder bounded result
  have limit : maxTotalItems < UInt64.size := by decide
  simp only [Bounded, Admits] at bounded
  simp only [chargeItems, bind_eq_ok, okOr_eq_ok, checkedAddUsize_eq_some, rejectIf_eq_ok,
    pure_eq_ok, exists_const, Nat.not_lt, true_and, Admits, extend, List.append_nil, gt_iff_lt]
  constructor
  · rintro ⟨items, ⟨fits, rfl⟩, within, rfl⟩
    exact ⟨⟨bounded.1, within⟩, rfl⟩
  · rintro ⟨⟨written, within⟩, rfl⟩
    exact ⟨_, ⟨by omega, rfl⟩, within, rfl⟩

theorem writeHead_writes (major : UInt8) (argument : UInt64) :
    Writes (fun encoder => encoder.writeHead major argument) True
      (headBytes major argument) 0 := by
  have wide (marker : UInt8) (bytes : List UInt8) :
      Writes (fun encoder => do (← encoder.write [marker]).write bytes) True
        (marker :: bytes) 0 :=
    ((write_writes [marker]).andThen (write_writes bytes)).congr (by simp) (by simp) rfl
  unfold writeHead headBytes
  dsimp only
  split_ifs
  · exact write_writes _
  · exact write_writes _
  all_goals exact wide _ _

theorem writeLength_writes (major : UInt8) (length : Nat) :
    Writes (fun encoder => encoder.writeLength major length) (length < UInt64.size)
      (lengthBytes major length) 0 := by
  refine (Writes.guarded rejectIf_eq_ok (writeHead_writes major _)).congr ?_ rfl rfl
  simp

theorem checkContainer_eq_ok {entries : Nat} {done : Unit} :
    checkContainer entries = .ok done ↔ entries ≤ maxContainerEntries := by
  simp [checkContainer]

/-! ## Keys of a map -/

variable {entries : List (CanonicalValue × CanonicalValue)}

/-- The key pass only charges items; the bytes of the keys have to fit beside
what is already written. -/
theorem encodeKeys_eq_ok {encodeKey : CanonicalValue → Encoder → Except CanonicalCborError Encoder}
    {admitted : CanonicalValue → Prop} (writes : ∀ entry ∈ entries,
      Writes (encodeKey entry.1) (admitted entry.1) (wire entry.1) (itemCount entry.1))
    {pending : Nat} (bounded : encoder.Bounded)
    (room : encoder.output.length + pending ≤ encoder.maxEncodedBytes.toNat)
    (result : Encoder × List (List UInt8 × CanonicalValue)) :
    encodeKeys encodeKey entries encoder pending = .ok result ↔
      (∀ entry ∈ entries, admitted entry.1) ∧
      encoder.output.length + pending + (entries.map fun entry => (wire entry.1).length).sum ≤
        encoder.maxEncodedBytes.toNat ∧
      encoder.Admits [] (entries.map fun entry => itemCount entry.1).sum ∧
      result = (encoder.extend [] (entries.map fun entry => itemCount entry.1).sum,
        entries.map fun entry => (wire entry.1, entry.2)) := by
  induction entries generalizing encoder pending result with
  | nil =>
    simp only [encodeKeys, List.map_nil, List.sum_nil, extend_nothing, Except.ok.injEq,
      List.not_mem_nil, false_imp_iff, implies_true, true_and, Nat.add_zero]
    exact ⟨fun same => ⟨room, bounded, same.symm⟩, fun holds => holds.2.2.symm⟩
  | cons entry rest ih =>
    obtain ⟨key, value⟩ := entry
    have limit : encoder.maxEncodedBytes.toNat < UInt64.size :=
      encoder.maxEncodedBytes.toNat_lt
    have keyWrites : Writes (encodeKey key) (admitted key) (wire key) (itemCount key) :=
      writes (key, value) List.mem_cons_self
    have restWrites := fun other member => writes other (List.mem_cons_of_mem _ member)
    simp only [encodeKeys, bind_eq_ok, okOr_eq_ok, checkedAddUsize_eq_some, rejectIf_eq_ok,
      pure_eq_ok, exists_const, Nat.not_lt, gt_iff_lt, List.map_cons, List.sum_cons,
      List.forall_mem_cons]
    constructor
    · rintro ⟨keyEncoder, keyed, charged, charge, newPending, ⟨small, rfl⟩, projected,
        ⟨projectedSmall, rfl⟩, within, ⟨restEncoder, restKeyed⟩, continued, rfl⟩
      obtain ⟨keyAdmitted, keyRoom, rfl⟩ := keyWrites.fresh.mp keyed
      obtain ⟨-, chargeRoom, rfl⟩ := (chargeItems_writes _ encoder bounded charged).mp charge
      obtain ⟨restAdmitted, restBytes, restRoom, same⟩ :=
        (ih restWrites chargeRoom.bounded_extend within _).mp continued
      cases same
      simp only [Admits, extend_output, extend_items, extend_maxEncodedBytes,
        List.append_nil] at restBytes restRoom ⊢
      refine ⟨⟨keyAdmitted, restAdmitted⟩, by omega, by omega, ?_⟩
      rw [extend_extend]
      rfl
    · rintro ⟨⟨keyAdmitted, restAdmitted⟩, bytesFit, itemsFit, rfl⟩
      simp only [Admits] at itemsFit
      have chargeRoom : encoder.Admits [] (itemCount key) := by
        simp only [Admits]
        omega
      refine ⟨_, keyWrites.fresh.mpr ⟨keyAdmitted, by omega, rfl⟩, _,
        (chargeItems_writes (itemCount key) encoder bounded _).mpr ⟨trivial, chargeRoom, rfl⟩, _,
        ⟨?_, rfl⟩, _, ⟨?_, rfl⟩, ?_, _,
        (ih restWrites chargeRoom.bounded_extend ?_ _).mpr ⟨restAdmitted, ?_, ?_, rfl⟩, ?_⟩
      case refine_7 => rw [extend_extend]; rfl
      all_goals
        simp only [Admits, extend_output, extend_items, extend_maxEncodedBytes, List.append_nil]
        omega

/-! ## Values -/

theorem itemCounts_eq_sum (values : List CanonicalValue) :
    itemCounts values = (values.map itemCount).sum := by
  induction values with
  | nil => rfl
  | cons value rest ih => simp [itemCounts, ih]

variable (entries)

theorem entryItemCounts_eq_sum :
    entryItemCounts entries = (entries.map fun entry => itemCount entry.1).sum +
      (entries.map fun entry => itemCount entry.2).sum := by
  induction entries with
  | nil => rfl
  | cons entry rest ih =>
    simp only [entryItemCounts, ih, List.map_cons, List.sum_cons]
    omega

/-- Entries of a map as the second pass of the encoder sees them: tagged by
their encoded keys and in key order. -/
def keySorted : List (List UInt8 × CanonicalValue) :=
  sortByKey (entries.map fun entry => (wire entry.1, entry.2))

theorem wire_map :
    wire (.map entries) = lengthBytes 5 entries.length ++
      (keySorted entries).flatMap fun entry => entry.1 ++ wire entry.2 := by
  have tagged : wireEntries entries =
      (entries.map fun entry => (wire entry.1, entry.2)).map
        fun entry => (entry.1, wire entry.2) := by
    simp [wireEntries_eq_map]
  rw [wire, tagged, sortByKey_map _ fun entry => wire entry.2, List.flatMap_map]
  rfl

theorem keySorted_perm :
    (keySorted entries).Perm (entries.map fun entry => (wire entry.1, entry.2)) :=
  sortByKey_perm _

theorem length_keySorted : (keySorted entries).length = entries.length := by
  simp [keySorted]

theorem keySorted_values_sum :
    ((keySorted entries).map fun entry => itemCount entry.2).sum =
      (entries.map fun entry => itemCount entry.2).sum := by
  have permuted := (keySorted_perm entries).map fun entry => itemCount entry.2
  rw [permuted.sum_eq, List.map_map]
  rfl

/-- The bytes of the keys are part of the bytes of the entries. -/
theorem keyBytes_le :
    (entries.map fun entry => (wire entry.1).length).sum ≤
      ((keySorted entries).flatMap fun entry => entry.1 ++ wire entry.2).length := by
  have permuted := (keySorted_perm entries).map fun entry => entry.1.length
  rw [List.map_map] at permuted
  calc (entries.map fun entry => (wire entry.1).length).sum
      = ((keySorted entries).map fun entry => entry.1.length).sum := permuted.sum_eq.symm
    _ ≤ ((keySorted entries).map fun entry => (entry.1 ++ wire entry.2).length).sum := by
        refine List.sum_le_sum fun entry _ => ?_
        simp
    _ = _ := by rw [List.length_flatMap]

variable {entries}

theorem forall_mem_keySorted (property : CanonicalValue → Prop) :
    (∀ entry ∈ keySorted entries, property entry.2) ↔ ∀ entry ∈ entries, property entry.2 := by
  simp only [(keySorted_perm entries).mem_iff, List.forall_mem_map]

theorem keySorted_distinct :
    hasAdjacentDuplicate (keySorted entries) = false ↔
      (entries.map fun entry => wire entry.1).Nodup := by
  rw [keySorted, hasAdjacentDuplicate_eq_false_iff (sortByKey_pairwise_isLE _),
    ((sortByKey_perm _).map Prod.fst).nodup_iff, List.map_map]
  rfl

/-- The second pass over a map: its head, then every key with its value. -/
theorem encodeSorted_writes {remaining : Nat} (writes : ∀ value,
      Writes (encode remaining value) (Fits remaining value) (wire value) (itemCount value))
    (within : entries.length ≤ maxContainerEntries) :
    Writes (fun encoder => do
        rejectIf (hasAdjacentDuplicate (keySorted entries) = true) .duplicateMapKey
        let encoder ← encoder.writeLength 5 (keySorted entries).length
        (keySorted entries).foldlM (fun encoder entry => do
          encode remaining entry.2 (← encoder.write entry.1)) encoder)
      ((entries.map fun entry => wire entry.1).Nodup ∧
        ∀ entry ∈ entries, Fits remaining entry.2)
      (wire (.map entries)) (entries.map fun entry => itemCount entry.2).sum := by
  have pairs := Writes.foldlM _ (keySorted entries) fun entry _ =>
    (write_writes entry.1).andThen (writes entry.2)
  refine (Writes.guarded rejectIf_eq_ok
    ((writeLength_writes 5 (keySorted entries).length).andThen pairs)).congr ?_ ?_ ?_
  · have small : entries.length < UInt64.size := Nat.lt_of_le_of_lt within (by decide)
    simp only [Bool.not_eq_true, keySorted_distinct, true_and, forall_mem_keySorted,
      length_keySorted, small]
  · rw [wire_map, length_keySorted]
  · simp only [Nat.zero_add, keySorted_values_sum]

/-- The step that encodes a map after its own item has been charged. -/
theorem encodeMap_writes {remaining : Nat}
    (writes : ∀ value,
      Writes (encode remaining value) (Fits remaining value) (wire value) (itemCount value))
    (entries : List (CanonicalValue × CanonicalValue)) :
    Writes (fun encoder => do
        checkContainer entries.length
        let (encoder, keyed) ← encodeKeys (encode remaining) entries encoder 0
        let sorted := sortByKey keyed
        rejectIf (hasAdjacentDuplicate sorted = true) .duplicateMapKey
        let encoder ← encoder.writeLength 5 sorted.length
        sorted.foldlM (fun encoder entry => do
          encode remaining entry.2 (← encoder.write entry.1)) encoder)
      (Fits (remaining + 1) (.map entries)) (wire (.map entries)) (entryItemCounts entries) := by
  intro encoder bounded result
  have room : encoder.output.length + 0 ≤ encoder.maxEncodedBytes.toNat := bounded.1
  have keys := encodeKeys_eq_ok (fun entry (_ : entry ∈ entries) => writes entry.1) bounded room
  have total : wire (.map entries) = [] ++ wire (.map entries) := rfl
  rw [entryItemCounts_eq_sum, total, admits_append, ← extend_extend]
  constructor
  · intro run
    obtain ⟨_, checked, run⟩ := bind_eq_ok.mp run
    obtain ⟨keyed, keyPass, run⟩ := bind_eq_ok.mp run
    have within := checkContainer_eq_ok.mp checked
    obtain ⟨keysFit, -, keyRoom, rfl⟩ := (keys keyed).mp keyPass
    obtain ⟨⟨distinct, valuesFit⟩, valueRoom, same⟩ :=
      (encodeSorted_writes writes within _ keyRoom.bounded_extend result).mp run
    exact ⟨⟨within, fun entry member => ⟨keysFit entry member, valuesFit entry member⟩, distinct⟩,
      ⟨keyRoom, valueRoom⟩, same⟩
  · rintro ⟨⟨within, fits, distinct⟩, ⟨keyRoom, valueRoom⟩, same⟩
    refine bind_eq_ok.mpr ⟨(), checkContainer_eq_ok.mpr within, bind_eq_ok.mpr ⟨_,
      (keys _).mpr ⟨fun entry member => (fits entry member).1, ?_, keyRoom, rfl⟩,
      (encodeSorted_writes writes within _ keyRoom.bounded_extend result).mpr
        ⟨⟨distinct, fun entry member => (fits entry member).2⟩, valueRoom, same⟩⟩⟩
    have keyBytes := keyBytes_le entries
    have written := valueRoom.1
    rw [wire_map] at written
    simp only [extend_output, extend_maxEncodedBytes, List.length_append,
      List.length_nil] at written
    omega

/-- The encoder accepts exactly the admissible values whose canonical form the
budgets cover, and writes that form. -/
theorem encode_writes (remaining : Nat) (value : CanonicalValue) :
    Writes (encode remaining value) (Fits remaining value) (wire value) (itemCount value) := by
  induction remaining generalizing value with
  | zero =>
    intro encoder bounded result
    simp [encode, Fits]
  | succ remaining ih =>
    -- Every kind of value charges its own item first.
    have charged {step : Encoder → Except CanonicalCborError Encoder} {condition : Prop}
        {bytes : List UInt8} {count : Nat} (writes : Writes step condition bytes count) :
        Writes (fun encoder => do step (← encoder.chargeItems 1)) condition bytes
          (1 + count) :=
      ((chargeItems_writes 1).andThen writes).congr (by simp) rfl rfl
    have payload (major : UInt8) (bytes : List UInt8) :
        Writes (fun encoder => do (← encoder.writeLength major bytes.length).write bytes)
          (bytes.length < UInt64.size) (lengthBytes major bytes.length ++ bytes) 0 :=
      ((writeLength_writes major _).andThen (write_writes bytes)).congr (by simp) rfl rfl
    cases value with
    | unsigned value => exact (charged (writeHead_writes 0 value)).congr (by simp [Fits]) rfl rfl
    | negative value =>
      refine (charged (Writes.guarded rejectIf_eq_ok
        (Writes.guarded rejectIf_eq_ok (writeHead_writes 1 _)))).congr ?_ rfl rfl
      have low := value.le_toInt
      have sign : value < 0 ↔ value.toInt < 0 := by simp [Int64.lt_iff_toInt_lt]
      have nonneg : value ≥ 0 ↔ 0 ≤ value.toInt := by simp [Int64.le_iff_toInt_le]
      simp only [Fits, sign, nonneg, UInt64.size, Nat.cast_ofNat, and_true]
      omega
    | bytes value => exact charged (payload 2 value)
    | text value => exact charged (payload 3 (textBytes value))
    | array values =>
      have elements := Writes.foldlM (fun encoder value => encode remaining value encoder)
        values fun value _ => ih value
      refine (charged (Writes.guarded checkContainer_eq_ok
        ((writeLength_writes 4 values.length).andThen elements))).congr ?_ ?_ ?_
      · have small : maxContainerEntries < UInt64.size := by decide
        simp only [Fits]
        constructor
        · rintro ⟨within, -, fits⟩
          exact ⟨within, fits⟩
        · rintro ⟨within, fits⟩
          exact ⟨within, by omega, fits⟩
      · rw [wire, wireValues_eq_map, List.flatMap_def]
      · rw [itemCount, itemCounts_eq_sum, Nat.zero_add]
    | map entries => exact charged (encodeMap_writes ih entries)
    | bool value =>
      cases value with
      | false => exact (charged (write_writes _)).congr (by simp [Fits]) rfl rfl
      | true => exact (charged (write_writes _)).congr (by simp [Fits]) rfl rfl
    | null => exact (charged (write_writes _)).congr (by simp [Fits]) rfl rfl

end Encoder

/-- The values the encoder accepts under a byte limit. -/
structure Encodable (limit : UInt64) (value : CanonicalValue) : Prop where
  limit_ne_zero : limit ≠ 0
  fits : Fits (maxDepth + 1) value
  bytes_le : (wire value).length ≤ limit.toNat
  items_le : itemCount value ≤ maxTotalItems

theorem encodeDeterministicCborWithLimit_eq_ok {α : Type} [CanonicalEncode α] {value : α}
    {limit : UInt64} {bytes : List UInt8} :
    encodeDeterministicCborWithLimit value limit = .ok bytes ↔
      Encodable limit (toCanonicalValue value) ∧ wire (toCanonicalValue value) = bytes := by
  simp only [encodeDeterministicCborWithLimit, bind_eq_ok, rejectIf_eq_ok, exists_const,
    (Encoder.encode_writes _ _).fresh, pure_eq_ok]
  constructor
  · rintro ⟨nonzero, encoder, ⟨fits, ⟨bytesFit, itemsFit⟩, rfl⟩, same⟩
    exact ⟨⟨nonzero, fits, bytesFit, itemsFit⟩, same⟩
  · rintro ⟨⟨nonzero, fits, bytesFit, itemsFit⟩, same⟩
    exact ⟨nonzero, _, ⟨fits, ⟨bytesFit, itemsFit⟩, rfl⟩, same⟩

end Dirextalk.Wire
