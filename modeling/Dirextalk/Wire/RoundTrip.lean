import Dirextalk.Wire.ParserSpec

/-!
# Round trips of the canonical codec

Normalizing a value changes the order of map entries and nothing else, and it
leaves the canonical form, the item count and admissibility as they were.  With
the exact descriptions of encoder and parser this gives both round trips: what
the encoder writes decodes to the normal form, and what the decoder accepts is
the one spelling the encoder would produce.
-/

namespace Dirextalk.Wire

open Lib

/-! ## Normal forms -/

/-- The second value is the first with the entries of maps, at any depth and
inside keys too, listed in some other order. -/
inductive Reordered : CanonicalValue → CanonicalValue → Prop where
  | unsigned (value : UInt64) : Reordered (.unsigned value) (.unsigned value)
  | negative (value : Int64) : Reordered (.negative value) (.negative value)
  | bytes (value : List UInt8) : Reordered (.bytes value) (.bytes value)
  | text (value : String) : Reordered (.text value) (.text value)
  | array (pairs : List (CanonicalValue × CanonicalValue)) :
      (∀ pair ∈ pairs, Reordered pair.1 pair.2) →
      Reordered (.array (pairs.map Prod.fst)) (.array (pairs.map Prod.snd))
  | map (pairs : List ((CanonicalValue × CanonicalValue) × (CanonicalValue × CanonicalValue)))
      (entries : List (CanonicalValue × CanonicalValue)) :
      (∀ pair ∈ pairs, Reordered pair.1.1 pair.2.1) →
      (∀ pair ∈ pairs, Reordered pair.1.2 pair.2.2) →
      (pairs.map Prod.snd).Perm entries →
      Reordered (.map (pairs.map Prod.fst)) (.map entries)
  | bool (value : Bool) : Reordered (.bool value) (.bool value)
  | null : Reordered .null .null

variable (entries : List (CanonicalValue × CanonicalValue))

/-- The entries of a map in normal form, before the key tags are dropped. -/
def normalSorted : List (List UInt8 × (CanonicalValue × CanonicalValue)) :=
  sortByKey (entries.map fun entry => (wire entry.1, (normalize entry.1, normalize entry.2)))

theorem normalize_array (values : List CanonicalValue) :
    normalize (.array values) = .array (values.map normalize) := by
  rw [normalize, normalizeValues_eq_map]

theorem normalize_map : normalize (.map entries) = .map ((normalSorted entries).map Prod.snd) := by
  rw [normalize, normalizeEntries_eq_map]
  rfl

theorem normalSorted_perm :
    ((normalSorted entries).map Prod.snd).Perm
      (entries.map fun entry => (normalize entry.1, normalize entry.2)) := by
  have permuted := (sortByKey_perm (entries.map fun entry =>
    (wire entry.1, (normalize entry.1, normalize entry.2)))).map Prod.snd
  rwa [List.map_map] at permuted

variable {entries}

theorem forall_mem_normalSorted {property : List UInt8 × (CanonicalValue × CanonicalValue) → Prop} :
    (∀ tagged ∈ normalSorted entries, property tagged) ↔
      ∀ entry ∈ entries, property (wire entry.1, (normalize entry.1, normalize entry.2)) := by
  simp only [normalSorted, mem_sortByKey, List.forall_mem_map]

theorem reordered_normalize (value : CanonicalValue) : Reordered value (normalize value) := by
  induction value using CanonicalValue.byContainers with
  | unsigned value => exact .unsigned value
  | negative value => exact .negative value
  | bytes value => exact .bytes value
  | text value => exact .text value
  | array values ih =>
    have pairs := Reordered.array (values.map fun value => (value, normalize value))
      (List.forall_mem_map.mpr ih)
    rw [normalize_array]
    simpa [List.map_map, Function.comp_def] using pairs
  | map entries ih =>
    have pairs := Reordered.map
      (entries.map fun entry => (entry, (normalize entry.1, normalize entry.2)))
      ((normalSorted entries).map Prod.snd)
      (List.forall_mem_map.mpr fun entry member => (ih entry member).1)
      (List.forall_mem_map.mpr fun entry member => (ih entry member).2)
      (by
        rw [List.map_map]
        exact (normalSorted_perm entries).symm)
    rw [normalize_map]
    simpa [List.map_map, Function.comp_def] using pairs
  | bool value => exact .bool value
  | null => exact .null

/-- Retagging normalized entries by their own keys gives the tags they had. -/
theorem retag_normalSorted (keys : ∀ entry ∈ entries, wire (normalize entry.1) = wire entry.1) :
    ((normalSorted entries).map Prod.snd).map (fun entry => (wire entry.1, entry.2)) =
      sortByKey (entries.map fun entry => (wire entry.1, normalize entry.2)) := by
  have tags : ∀ tagged ∈ normalSorted entries, wire tagged.2.1 = tagged.1 :=
    forall_mem_normalSorted.mpr keys
  have sorted := sortByKey_map (entries.map fun entry =>
    (wire entry.1, (normalize entry.1, normalize entry.2))) fun tagged => tagged.2.2
  rw [List.map_map] at sorted
  calc ((normalSorted entries).map Prod.snd).map (fun entry => (wire entry.1, entry.2))
      = (normalSorted entries).map fun tagged => (tagged.1, tagged.2.2) := by
        rw [List.map_map]
        refine List.map_congr_left fun tagged member => ?_
        simp [tags tagged member]
    _ = sortByKey (entries.map fun entry => (wire entry.1, normalize entry.2)) := sorted.symm

theorem wire_normalize (value : CanonicalValue) : wire (normalize value) = wire value := by
  induction value using CanonicalValue.byContainers with
  | array values ih =>
    rw [normalize_array]
    simp only [wire, wireValues_eq_map, List.length_map, List.map_map]
    congr 2
    exact List.map_congr_left fun value member => ih value member
  | map entries ih =>
    have keys := fun entry member => (ih entry member).1
    have values : sortByKey (entries.map fun entry => (wire entry.1, normalize entry.2)) =
        (Encoder.keySorted entries).map fun tagged => (tagged.1, normalize tagged.2) := by
      rw [Encoder.keySorted, ← sortByKey_map _ fun tagged => normalize tagged.2, List.map_map]
      rfl
    have unchanged : ∀ tagged ∈ Encoder.keySorted entries,
        wire (normalize tagged.2) = wire tagged.2 :=
      (Encoder.forall_mem_keySorted fun value => wire (normalize value) = wire value).mpr
        fun entry member => (ih entry member).2
    rw [normalize_map, Encoder.wire_map, Encoder.wire_map, Encoder.keySorted,
      retag_normalSorted keys, sortByKey_sortByKey, values, List.flatMap_map]
    congr 1
    · simp [normalSorted]
    · refine List.flatMap_congr fun tagged member => ?_
      rw [unchanged tagged member]
  | _ => rfl

theorem itemCount_normalize (value : CanonicalValue) :
    itemCount (normalize value) = itemCount value := by
  induction value using CanonicalValue.byContainers with
  | array values ih =>
    rw [normalize_array, itemCount, itemCount, Encoder.itemCounts_eq_sum,
      Encoder.itemCounts_eq_sum, List.map_map]
    congr 2
    exact List.map_congr_left fun value member => ih value member
  | map entries ih =>
    have keys := (normalSorted_perm entries).map fun entry => itemCount entry.1
    have values := (normalSorted_perm entries).map fun entry => itemCount entry.2
    rw [normalize_map, itemCount, itemCount, Encoder.entryItemCounts_eq_sum,
      Encoder.entryItemCounts_eq_sum, keys.sum_eq, values.sum_eq, List.map_map, List.map_map]
    congr 3
    · exact List.map_congr_left fun entry member => (ih entry member).1
    · exact List.map_congr_left fun entry member => (ih entry member).2
  | _ => rfl

/-- The keys of a normalized map are those of the map. -/
theorem normalSorted_keys :
    (((normalSorted entries).map Prod.snd).map fun entry => wire entry.1).Perm
      (entries.map fun entry => wire entry.1) := by
  have permuted := (normalSorted_perm entries).map fun entry => wire entry.1
  rw [List.map_map] at permuted
  simpa [Function.comp_def, wire_normalize] using permuted

variable {value : CanonicalValue}

theorem fits_normalize {remaining : Nat} (fits : Fits remaining value) :
    Fits remaining (normalize value) := by
  induction remaining generalizing value with
  | zero => cases fits
  | succ remaining ih =>
    cases value with
    | array values =>
      rw [normalize_array]
      exact ⟨by simpa using fits.1,
        List.forall_mem_map.mpr fun value member => ih (fits.2 value member)⟩
    | map entries =>
      obtain ⟨within, members, distinct⟩ := fits
      rw [normalize_map]
      refine ⟨by simpa [normalSorted] using within, ?_, normalSorted_keys.nodup_iff.mpr distinct⟩
      rw [List.forall_mem_map]
      exact forall_mem_normalSorted.mpr fun entry member =>
        ⟨ih (members entry member).1, ih (members entry member).2⟩
    | _ => exact fits

/-- The normal form of an admissible value is in key order throughout. -/
theorem keyOrdered_normalize {remaining : Nat} (fits : Fits remaining value) :
    KeyOrdered (normalize value) := by
  induction remaining generalizing value with
  | zero => cases fits
  | succ remaining ih =>
    cases value with
    | unsigned value => exact .unsigned value
    | negative value => exact .negative value
    | bytes value => exact .bytes value
    | text value => exact .text value
    | array values =>
      rw [normalize_array]
      exact .array _ (List.forall_mem_map.mpr fun value member => ih (fits.2 value member))
    | map entries =>
      obtain ⟨within, members, distinct⟩ := fits
      have ascend : KeysAscend (normalSorted entries) := by
        refine sortByKey_ascend ?_
        rwa [List.map_map]
      have tags : ∀ tagged ∈ normalSorted entries, wire tagged.2.1 = tagged.1 :=
        forall_mem_normalSorted.mpr fun entry _ => wire_normalize entry.1
      rw [normalize_map]
      refine .map _ ?_ ?_ ?_
      · refine List.pairwise_map.mpr (ascend.imp_of_mem ?_)
        intro left right leftMem rightMem below
        rwa [tags left leftMem, tags right rightMem]
      · rw [List.forall_mem_map]
        exact forall_mem_normalSorted.mpr fun entry member => ih (members entry member).1
      · rw [List.forall_mem_map]
        exact forall_mem_normalSorted.mpr fun entry member => ih (members entry member).2
    | bool value => exact .bool value
    | null => exact .null

theorem KeyOrdered.normalize_eq (ordered : KeyOrdered value) : normalize value = value := by
  induction ordered with
  | array values _ ih =>
    rw [normalize_array, List.map_congr_left ih, List.map_id']
  | map entries increasing _ _ keys values =>
    have unchanged : (entries.map fun entry =>
        (wire entry.1, (normalize entry.1, normalize entry.2))) =
        entries.map fun entry => (wire entry.1, entry) := by
      refine List.map_congr_left fun entry member => ?_
      rw [keys entry member, values entry member]
    have ascend : KeysAscend (entries.map fun entry => (wire entry.1, entry)) :=
      List.pairwise_map.mpr increasing
    rw [normalize_map, normalSorted, unchanged, ascend.sortByKey_eq, List.map_map]
    simp [Function.comp_def]
  | _ => rfl

variable {limit : UInt64}

theorem Encodable.normalize (encodable : Encodable limit value) :
    Encodable limit (normalize value) where
  limit_ne_zero := encodable.limit_ne_zero
  fits := fits_normalize encodable.fits
  bytes_le := by
    rw [wire_normalize]
    exact encodable.bytes_le
  items_le := by
    rw [itemCount_normalize]
    exact encodable.items_le

/-! ## Round trips -/

theorem encode_eq_ok_iff {bytes : List UInt8} :
    encodeDeterministicCborWithLimit value limit = .ok bytes ↔
      Encodable limit value ∧ wire value = bytes :=
  encodeDeterministicCborWithLimit_eq_ok

/-- Whatever the encoder writes decodes, under the same limit, to the normal form:
the value with its maps reordered by encoded keys and otherwise unchanged.  A
value already in that order comes back as it was. -/
theorem decode_of_encode {value : CanonicalValue} {limit : UInt64} {bytes : List UInt8}
    (encoded : encodeDeterministicCborWithLimit value limit = .ok bytes) :
    decodeDeterministicCborWithLimit bytes limit = .ok (normalize value) ∧
      Reordered value (normalize value) ∧ KeyOrdered (normalize value) ∧
      (KeyOrdered value → decodeDeterministicCborWithLimit bytes limit = .ok value) := by
  obtain ⟨encodable, rfl⟩ := encode_eq_ok_iff.mp encoded
  have ordered := keyOrdered_normalize encodable.fits
  have decoded : decodeDeterministicCborWithLimit (wire value) limit = .ok (normalize value) :=
    decodeDeterministicCborWithLimit_eq_ok.mpr
      ⟨encodable.normalize, ordered, wire_normalize value⟩
  refine ⟨decoded, reordered_normalize value, ordered, fun already => ?_⟩
  rwa [already.normalize_eq] at decoded

/-- A map with a map among its keys, both listed against their key order. -/
theorem decode_of_encode_nested_keys :
    decodeDeterministicCborWithLimit
        [0xa2, 0x61, 0x62, 0x01, 0xa2, 0x01, 0xf5, 0x02, 0xf6, 0x24] 10 =
      .ok (.map [(.text "b", .unsigned 1),
        (.map [(.unsigned 1, .bool true), (.unsigned 2, .null)], .negative (-5))]) := by
  have encoded : encodeDeterministicCborWithLimit
      (CanonicalValue.map [(.map [(.unsigned 2, .null), (.unsigned 1, .bool true)],
        .negative (-5)), (.text "b", .unsigned 1)]) 10 =
      .ok [0xa2, 0x61, 0x62, 0x01, 0xa2, 0x01, 0xf5, 0x02, 0xf6, 0x24] := rfl
  exact (decode_of_encode encoded).1

/-- A value whose canonical form starts that of another is the other: both are
what the parser returns on the longer input. -/
theorem eq_of_wire_append {first second : CanonicalValue} (firstFits : Fits (maxDepth + 1) first)
    (firstOrdered : KeyOrdered first) (firstItems : itemCount first ≤ maxTotalItems)
    (secondEncodable : Encodable limit second) (secondOrdered : KeyOrdered second)
    (before : wire first <+: wire second) : first = second := by
  have start : Parser.WellFormed limit ⟨wire second, 0, 0, limit⟩ :=
    ⟨Nat.zero_le _, secondEncodable.bytes_le, rfl, Nat.zero_le _⟩
  have runs := Parser.parseValue_reads limit (maxDepth + 1) _ start
  have one := (runs first _).mpr
    ⟨_, _, ⟨⟨firstFits, firstOrdered⟩, rfl, rfl⟩, before, by simpa using firstItems, rfl⟩
  have two := (runs second _).mpr
    ⟨_, _, ⟨⟨secondEncodable.fits, secondOrdered⟩, rfl, rfl⟩, List.prefix_rfl,
      by simpa using secondEncodable.items_le, rfl⟩
  exact congrArg Prod.fst (Except.ok.inj (one.symm.trans two))

/-- Every accepted byte string is the encoder's own spelling of its value.  So the
decoder accepts exactly what the encoder writes, no value has two accepted
spellings, and no accepted byte string continues another one; the last two hold
across different limits as well. -/
theorem decode_canonical (limit : UInt64) :
    (∀ bytes value, decodeDeterministicCborWithLimit bytes limit = .ok value →
      encodeDeterministicCborWithLimit value limit = .ok bytes) ∧
    (∀ bytes, (∃ value, decodeDeterministicCborWithLimit bytes limit = .ok value) ↔
      ∃ value : CanonicalValue, encodeDeterministicCborWithLimit value limit = .ok bytes) ∧
    (∀ other first second value, decodeDeterministicCborWithLimit first limit = .ok value →
      decodeDeterministicCborWithLimit second other = .ok value → first = second) ∧
    (∀ other first second firstValue secondValue,
      decodeDeterministicCborWithLimit first limit = .ok firstValue →
      decodeDeterministicCborWithLimit second other = .ok secondValue →
      first <+: second → first = second) := by
  refine ⟨?_, ?_, ?_, ?_⟩
  · intro bytes value decoded
    obtain ⟨encodable, -, same⟩ := decodeDeterministicCborWithLimit_eq_ok.mp decoded
    exact encode_eq_ok_iff.mpr ⟨encodable, same⟩
  · intro bytes
    constructor
    · rintro ⟨value, decoded⟩
      obtain ⟨encodable, -, same⟩ := decodeDeterministicCborWithLimit_eq_ok.mp decoded
      exact ⟨value, encode_eq_ok_iff.mpr ⟨encodable, same⟩⟩
    · rintro ⟨value, encoded⟩
      obtain ⟨encodable, same⟩ := encode_eq_ok_iff.mp encoded
      exact ⟨normalize value, decodeDeterministicCborWithLimit_eq_ok.mpr
        ⟨encodable.normalize, keyOrdered_normalize encodable.fits,
          (wire_normalize value).trans same⟩⟩
  · intro other first second value decodedFirst decodedSecond
    obtain ⟨-, -, sameFirst⟩ := decodeDeterministicCborWithLimit_eq_ok.mp decodedFirst
    obtain ⟨-, -, sameSecond⟩ := decodeDeterministicCborWithLimit_eq_ok.mp decodedSecond
    exact sameFirst.symm.trans sameSecond
  · intro other first second firstValue secondValue decodedFirst decodedSecond before
    obtain ⟨firstOk, firstOrdered, rfl⟩ := decodeDeterministicCborWithLimit_eq_ok.mp decodedFirst
    obtain ⟨secondOk, secondOrdered, rfl⟩ :=
      decodeDeterministicCborWithLimit_eq_ok.mp decodedSecond
    exact congrArg wire (eq_of_wire_append firstOk.fits firstOrdered firstOk.items_le secondOk
      secondOrdered before)

/-- An accepted byte string with a nested container. -/
theorem decode_canonical_nested :
    encodeDeterministicCborWithLimit
        (CanonicalValue.array [.map [(.unsigned 24, .bytes [7])], .null]) 8 =
      .ok [0x82, 0xa1, 0x18, 0x18, 0x41, 0x07, 0xf6] :=
  (decode_canonical 8).1 _ _ rfl

end Dirextalk.Wire
