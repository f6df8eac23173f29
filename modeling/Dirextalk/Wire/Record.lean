import Dirextalk.Wire.RoundTrip

/-!
# Records

Contracts are encoded as maps with the keys `1, 2, …`, one per field.  A record
is in key order, and bounds on its fields bound the record, so a contract whose
fields are bounded is encodable and comes back from its bytes unchanged.
-/

namespace Dirextalk.Wire

open Std Lib

/-! ## The shape -/

/-- Fields under consecutive keys. -/
def numbered : Nat → List CanonicalValue → List (CanonicalValue × CanonicalValue)
  | _, [] => []
  | key, value :: rest => (.unsigned (.ofNat key), value) :: numbered (key + 1) rest

/-- The map with the keys `1, 2, …` for the given fields. -/
def record (fields : List CanonicalValue) : CanonicalValue := .map (numbered 1 fields)

@[simp] theorem length_numbered (key : Nat) (fields : List CanonicalValue) :
    (numbered key fields).length = fields.length := by
  induction fields generalizing key with
  | nil => rfl
  | cons value rest ih => simp [numbered, ih]

variable {fields : List CanonicalValue} {key : Nat}

theorem mem_numbered {entry : CanonicalValue × CanonicalValue}
    (member : entry ∈ numbered key fields) :
    (∃ other, key ≤ other ∧ other < key + fields.length ∧ entry.1 = .unsigned (.ofNat other)) ∧
      entry.2 ∈ fields := by
  induction fields generalizing key with
  | nil => cases member
  | cons value rest ih =>
    rcases List.mem_cons.mp member with rfl | later
    · exact ⟨⟨key, Nat.le_refl _, by simp, rfl⟩, List.mem_cons_self⟩
    · obtain ⟨⟨other, le, lt, same⟩, field⟩ := ih later
      refine ⟨⟨other, by omega, ?_, same⟩, List.mem_cons_of_mem _ field⟩
      simp only [List.length_cons]
      omega

/-- Whether the value is the unsigned integer `key`. -/
def isKey (key : Nat) : CanonicalValue → Bool
  | .unsigned value => value = .ofNat key
  | _ => false

theorem isKey_iff {value : CanonicalValue} :
    isKey key value = true ↔ value = .unsigned (.ofNat key) := by
  cases value <;> simp [isKey]

/-- Whether the entries are under consecutive keys. -/
def hasKeys : Nat → List (CanonicalValue × CanonicalValue) → Bool
  | _, [] => true
  | key, entry :: rest => isKey key entry.1 && hasKeys (key + 1) rest

theorem hasKeys_iff {entries : List (CanonicalValue × CanonicalValue)} :
    hasKeys key entries = true ↔ numbered key (entries.map Prod.snd) = entries := by
  induction entries generalizing key with
  | nil => simp [hasKeys, numbered]
  | cons entry rest ih =>
    simp only [hasKeys, Bool.and_eq_true, isKey_iff, ih, List.map_cons, numbered,
      List.cons.injEq, Prod.ext_iff, and_true]
    exact and_congr_left fun _ => eq_comm

theorem map_snd_numbered (key : Nat) (fields : List CanonicalValue) :
    (numbered key fields).map Prod.snd = fields := by
  induction fields generalizing key with
  | nil => rfl
  | cons value rest ih => simp [numbered, ih]

/-! ## Key order -/

/-- The encoded keys of a record increase. -/
theorem wire_key_step : ∀ key : Fin 255,
    compare (wire (.unsigned (.ofNat key.val))) (wire (.unsigned (.ofNat (key.val + 1)))) =
      .lt := by
  decide +kernel

theorem wire_key_lt {key other : Nat} (below : key < other) (small : other < 256) :
    compare (wire (.unsigned (.ofNat key))) (wire (.unsigned (.ofNat other))) = .lt := by
  induction other with
  | zero => omega
  | succ other ih =>
    have step := wire_key_step ⟨other, by omega⟩
    rcases Nat.lt_succ_iff_lt_or_eq.mp below with less | rfl
    · exact TransCmp.lt_trans (ih less (by omega)) step
    · exact step

theorem numbered_increasing (small : key + fields.length ≤ 256) :
    KeysIncreasing (numbered key fields) := by
  induction fields generalizing key with
  | nil => exact .nil
  | cons value rest ih =>
    simp only [List.length_cons] at small
    refine .cons (fun entry member => ?_) (ih (by omega))
    obtain ⟨⟨other, le, lt, same⟩, -⟩ := mem_numbered member
    rw [same]
    exact wire_key_lt (by omega) (by omega)

theorem keyOrdered_record (small : fields.length ≤ 255)
    (ordered : ∀ field ∈ fields, KeyOrdered field) : KeyOrdered (record fields) := by
  apply KeyOrdered.map
  · exact numbered_increasing (by omega)
  · intro entry member
    obtain ⟨⟨other, -, -, same⟩, -⟩ := mem_numbered member
    rw [same]
    exact .unsigned _
  · intro entry member
    exact ordered _ (mem_numbered member).2

theorem KeyOrdered.field (ordered : KeyOrdered (record fields)) {field : CanonicalValue}
    (member : field ∈ fields) : KeyOrdered field := by
  rw [← map_snd_numbered 1 fields] at member
  obtain ⟨entry, listed, rfl⟩ := List.mem_map.mp member
  cases ordered with
  | map _ _ _ values => exact values entry listed

/-- The normal form of a record is the record of the normal forms. -/
theorem normalize_record (small : fields.length ≤ 255) :
    normalize (record fields) = record (fields.map normalize) := by
  have tagged : ∀ key, (numbered key fields).map (fun entry =>
      (wire entry.1, (normalize entry.1, normalize entry.2))) =
      (numbered key (fields.map normalize)).map fun entry => (wire entry.1, entry) := by
    induction fields with
    | nil => exact fun _ => rfl
    | cons value rest ih =>
      intro key
      simp only [List.length_cons] at small
      simp only [numbered, List.map_cons, ih (by omega)]
      rfl
  have ascend : KeysAscend ((numbered 1 (fields.map normalize)).map fun entry =>
      (wire entry.1, entry)) :=
    List.pairwise_map.mpr (numbered_increasing (by simp; omega))
  rw [record, normalize_map, normalSorted, tagged, ascend.sortByKey_eq, List.map_map]
  simp [record, Function.comp_def]

/-! ## Bounds -/

/-- A value in key order, with bounds on its nesting, its items and its bytes. -/
structure Within (depth items bytes : Nat) (value : CanonicalValue) : Prop where
  fits : Fits depth value
  items_le : itemCount value ≤ items
  bytes_le : (wire value).length ≤ bytes
  ordered : KeyOrdered value

theorem Fits.mono {value : CanonicalValue} {depth more : Nat} (fits : Fits depth value)
    (le : depth ≤ more) : Fits more value := by
  induction depth generalizing more value with
  | zero => cases fits
  | succ depth ih =>
    obtain ⟨more, rfl⟩ : ∃ smaller, more = smaller + 1 := ⟨more - 1, by omega⟩
    have le' : depth ≤ more := by omega
    cases value with
    | array values => exact ⟨fits.1, fun value member => ih (fits.2 value member) le'⟩
    | map entries =>
      refine ⟨fits.1, fun entry member => ?_, fits.2.2⟩
      exact ⟨ih (fits.2.1 entry member).1 le', ih (fits.2.1 entry member).2 le'⟩
    | _ => exact fits

section Bounds

variable {depth items bytes : Nat} {value : CanonicalValue}

theorem Within.mono {moreDepth moreItems moreBytes : Nat} (within : Within depth items bytes value)
    (depths : depth ≤ moreDepth) (counts : items ≤ moreItems) (lengths : bytes ≤ moreBytes) :
    Within moreDepth moreItems moreBytes value where
  fits := within.fits.mono depths
  items_le := within.items_le.trans counts
  bytes_le := within.bytes_le.trans lengths
  ordered := within.ordered

theorem length_headBytes_le (major : UInt8) (argument : UInt64) :
    (headBytes major argument).length ≤ 9 := by
  unfold headBytes
  simp only
  split_ifs <;> simp [toBeBytes]

theorem within_unsigned (value : UInt64) : Within 1 1 9 (.unsigned value) where
  fits := trivial
  items_le := Nat.le_refl _
  bytes_le := length_headBytes_le _ _
  ordered := .unsigned value

theorem within_negative {value : Int64} (below : value < 0) : Within 1 1 9 (.negative value) where
  fits := below
  items_le := Nat.le_refl _
  bytes_le := length_headBytes_le _ _
  ordered := .negative value

theorem within_null : Within 1 1 1 .null where
  fits := trivial
  items_le := Nat.le_refl _
  bytes_le := Nat.le_refl _
  ordered := .null

variable {length : Nat}

theorem within_bytes {content : List UInt8} (le : content.length ≤ length)
    (small : length < UInt64.size) : Within 1 1 (9 + length) (.bytes content) where
  fits := Nat.lt_of_le_of_lt le small
  items_le := Nat.le_refl _
  bytes_le := by
    rw [wire, List.length_append]
    exact Nat.add_le_add (length_headBytes_le _ _) le
  ordered := .bytes content

theorem within_text {content : String} (le : (textBytes content).length ≤ length)
    (small : length < UInt64.size) : Within 1 1 (9 + length) (.text content) where
  fits := Nat.lt_of_le_of_lt le small
  items_le := Nat.le_refl _
  bytes_le := by
    rw [wire, List.length_append]
    exact Nat.add_le_add (length_headBytes_le _ _) le
  ordered := .text content

/-- Room for a number, an identifier, a digest or a signature. -/
abbrev SmallField (value : CanonicalValue) : Prop := Within 1 1 73 value

theorem smallField_unsigned (value : UInt64) : SmallField (.unsigned value) :=
  (within_unsigned value).mono (by decide) (by decide) (by decide)

theorem smallField_bytes (bytes : FixedBytes length) (small : length ≤ 64) :
    SmallField (.bytes bytes.toList) :=
  (within_bytes (bytes.length_eq.trans_le small) (by decide)).mono (by decide) (by decide)
    (by decide)

theorem smallField_text {text : String} (small : text.utf8ByteSize ≤ 64) :
    SmallField (.text text) :=
  (within_text (by simpa [textBytes] using small) (by decide)).mono (by decide) (by decide)
    (by decide)

theorem sum_map_le {α : Type} {measure : α → Nat} {bound : Nat} {elements : List α}
    (le : ∀ element ∈ elements, measure element ≤ bound) :
    (elements.map measure).sum ≤ elements.length * bound := by
  have := List.sum_le_card_nsmul (elements.map measure) bound (by simpa using le)
  simpa using this

/-- An array of at most `count` bounded values. -/
theorem within_array (count : Nat) {values : List CanonicalValue}
    (within : ∀ value ∈ values, Within depth items bytes value) (few : values.length ≤ count)
    (small : count ≤ maxContainerEntries) :
    Within (depth + 1) (1 + count * items) (9 + count * bytes) (.array values) where
  fits := ⟨few.trans small, fun value member => (within value member).fits⟩
  items_le := by
    rw [itemCount, Encoder.itemCounts_eq_sum]
    refine Nat.add_le_add_left ?_ 1
    exact (sum_map_le fun value member => (within value member).items_le).trans
      (Nat.mul_le_mul_right _ few)
  bytes_le := by
    rw [wire, wireValues_eq_map, List.length_append, List.length_flatten, List.map_map]
    refine Nat.add_le_add (length_headBytes_le _ _) ?_
    exact (sum_map_le fun value member => (within value member).bytes_le).trans
      (Nat.mul_le_mul_right _ few)
  ordered := .array values fun value member => (within value member).ordered

theorem length_wire_map_le {entries : List (CanonicalValue × CanonicalValue)} {bound : Nat}
    (le : ∀ entry ∈ entries, (wire entry.1).length + (wire entry.2).length ≤ bound) :
    (wire (.map entries)).length ≤ 9 + entries.length * bound := by
  rw [wire, wireEntries_eq_map, List.length_append, List.length_flatMap]
  refine Nat.add_le_add (length_headBytes_le _ _) ?_
  rw [((sortByKey_perm _).map _).sum_eq, List.map_map]
  exact sum_map_le fun entry member => by simpa using le entry member

/-- A record of at most `count` bounded fields. -/
theorem within_record (count : Nat) {fields : List CanonicalValue}
    (within : ∀ field ∈ fields, Within depth items bytes field) (few : fields.length ≤ count)
    (small : count ≤ 255) :
    Within (depth + 1) (1 + count * (1 + items)) (9 + count * (9 + bytes)) (record fields) := by
  refine Within.mono ?_ (Nat.le_refl _) (Nat.add_le_add_left (Nat.mul_le_mul_right _ few) _)
    (Nat.add_le_add_left (Nat.mul_le_mul_right _ few) _)
  have increasing : KeysIncreasing (numbered 1 fields) := numbered_increasing (by omega)
  have field {entry : CanonicalValue × CanonicalValue} (member : entry ∈ numbered 1 fields) :
      Within depth items bytes entry.2 := within _ (mem_numbered member).2
  have key {entry : CanonicalValue × CanonicalValue} (member : entry ∈ numbered 1 fields) :
      ∃ number, entry.1 = .unsigned number := by
    obtain ⟨⟨other, -, -, same⟩, -⟩ := mem_numbered member
    exact ⟨_, same⟩
  refine ⟨⟨?_, fun entry member => ⟨?_, (field member).fits⟩, ?_⟩, ?_, ?_, ?_⟩
  · rw [length_numbered]
    exact (few.trans small).trans (by decide)
  · obtain ⟨number, same⟩ := key member
    obtain ⟨depth, rfl⟩ : ∃ smaller, depth = smaller + 1 := by
      cases depth with
      | zero => cases (field member).fits
      | succ smaller => exact ⟨smaller, rfl⟩
    rw [same]
    trivial
  · have ascend : KeysAscend ((numbered 1 fields).map fun entry => (wire entry.1, ())) :=
      List.pairwise_map.mpr increasing
    simpa [Function.comp_def] using ascend.keys_nodup
  · rw [record, itemCount, Encoder.entryItemCounts_eq_sum]
    have keys : ((numbered 1 fields).map fun entry => itemCount entry.1).sum ≤
        (numbered 1 fields).length * 1 := by
      refine sum_map_le fun entry member => ?_
      obtain ⟨number, same⟩ := key member
      rw [same]
      exact Nat.le_refl 1
    have values : ((numbered 1 fields).map fun entry => itemCount entry.2).sum ≤
        (numbered 1 fields).length * items :=
      sum_map_le fun entry member => (field member).items_le
    rw [length_numbered] at keys values
    rw [Nat.mul_add]
    omega
  · rw [record, ← length_numbered 1 fields]
    refine length_wire_map_le fun entry member => ?_
    obtain ⟨number, same⟩ := key member
    rw [same]
    exact Nat.add_le_add (length_headBytes_le _ _) (field member).bytes_le
  · exact keyOrdered_record (few.trans small) fun field member => (within field member).ordered

/-- A bounded value is encoded, and its bytes decode to it. -/
theorem Within.roundTrip (within : Within depth items bytes value) (depths : depth ≤ maxDepth + 1)
    (counts : items ≤ maxTotalItems) (lengths : bytes ≤ maxEncodedBytes.toNat) :
    encodeDeterministicCbor value = .ok (wire value) ∧
      decodeDeterministicCbor (wire value) = .ok value := by
  have encodable : Encodable maxEncodedBytes value :=
    ⟨by decide, within.fits.mono depths, within.bytes_le.trans lengths,
      within.items_le.trans counts⟩
  exact ⟨encode_eq_ok_iff.mpr ⟨encodable, rfl⟩,
    decodeDeterministicCborWithLimit_eq_ok.mpr ⟨encodable, within.ordered, rfl⟩⟩

end Bounds

end Dirextalk.Wire
