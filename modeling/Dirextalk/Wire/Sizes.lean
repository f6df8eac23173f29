import Dirextalk.Domain.Text
import Dirextalk.Wire.Primitives

/-!
# Sizes of canonical forms

How many bytes a value takes.  A head takes one, two, three, five or nine bytes,
so sizes grow with the numbers and lengths that the heads carry.
-/

namespace Dirextalk.Wire

open Domain Lib

/-! ## Heads -/

/-- The bytes of the shortest head that carries `argument`. -/
def headSize (argument : Nat) : Nat :=
  if argument < 24 then 1
  else if argument < 2 ^ 8 then 2
  else if argument < 2 ^ 16 then 3
  else if argument < 2 ^ 32 then 5
  else 9

theorem headSize_le (argument : Nat) : headSize argument ≤ 9 := by
  unfold headSize
  split_ifs <;> decide

theorem headSize_mono {small large : Nat} (le : small ≤ large) :
    headSize small ≤ headSize large := by
  unfold headSize
  split_ifs <;> omega

theorem length_headBytes (major : UInt8) (argument : UInt64) :
    (headBytes major argument).length = headSize argument.toNat := by
  unfold headBytes headSize
  simp only
  split_ifs <;> simp

theorem length_lengthBytes (major : UInt8) {length : Nat} (small : length < UInt64.size) :
    (lengthBytes major length).length = headSize length := by
  rw [lengthBytes, length_headBytes, UInt64.toNat_ofNat_of_lt' small]

/-! ## Values -/

theorem length_wire_unsigned (value : UInt64) :
    (wire (.unsigned value)).length = headSize value.toNat := by
  rw [wire, length_headBytes]

theorem length_wire_bytes {content : List UInt8} (small : content.length < UInt64.size) :
    (wire (.bytes content)).length = headSize content.length + content.length := by
  rw [wire, List.length_append, length_lengthBytes 2 small]

theorem length_wire_text {content : String} (small : content.utf8ByteSize < UInt64.size) :
    (wire (.text content)).length = headSize content.utf8ByteSize + content.utf8ByteSize := by
  have size : (textBytes content).length = content.utf8ByteSize := by simp [textBytes]
  rw [wire, List.length_append, size, length_lengthBytes 3 small]

theorem length_wire_array {values : List CanonicalValue} (small : values.length < UInt64.size) :
    (wire (.array values)).length =
      headSize values.length + (values.map fun value => (wire value).length).sum := by
  rw [wire, wireValues_eq_map, List.length_append, length_lengthBytes 4 small,
    List.length_flatten, List.map_map]
  rfl

theorem length_wire_map {entries : List (CanonicalValue × CanonicalValue)}
    (small : entries.length < UInt64.size) :
    (wire (.map entries)).length = headSize entries.length +
      (entries.map fun entry => (wire entry.1).length + (wire entry.2).length).sum := by
  rw [wire, wireEntries_eq_map, List.length_append, length_lengthBytes 5 small,
    List.length_flatMap, ((sortByKey_perm _).map _).sum_eq, List.map_map]
  congr 3
  funext entry
  simp

/-- The keys of a record with less than 24 fields take a byte each. -/
theorem sum_numbered {key : Nat} {fields : List CanonicalValue}
    (small : key + fields.length ≤ 24) :
    ((numbered key fields).map fun entry => (wire entry.1).length + (wire entry.2).length).sum =
      (fields.map fun field => 1 + (wire field).length).sum := by
  induction fields generalizing key with
  | nil => rfl
  | cons value rest ih =>
    simp only [List.length_cons] at small
    have oneByte : (wire (.unsigned (.ofNat key))).length = 1 := by
      have lt : key < UInt64.size := Nat.lt_of_lt_of_le (by omega : key < 24) (by decide)
      rw [length_wire_unsigned, UInt64.toNat_ofNat_of_lt' lt, headSize, if_pos (by omega)]
    simp only [numbered, List.map_cons, List.sum_cons, ih (by omega : key + 1 + _ ≤ 24), oneByte]

theorem length_wire_record {fields : List CanonicalValue} (small : fields.length < 24) :
    (wire (record fields)).length = 1 + (fields.map fun field => 1 + (wire field).length).sum := by
  have lt : (numbered 1 fields).length < UInt64.size := by
    rw [length_numbered]
    exact Nat.lt_trans small (by decide)
  rw [record, length_wire_map lt, sum_numbered (by omega), length_numbered, headSize,
    if_pos small]

/-! ## Bounds on the fields of contracts -/

theorem smallField_uuid {kind : UuidKind} (id : UuidV7 kind) : SmallField (.text id.toText) :=
  smallField_text (by rw [UuidV7.toText_size]; decide)

theorem smallField_publicId {kind : PublicIdKind} (id : PublicId kind) :
    SmallField (.text id.toText) :=
  smallField_text (by rw [PublicId.toText_size]; decide)

theorem smallField_digest (digest : Sha256Digest) : SmallField (toCanonicalValue digest) :=
  smallField_bytes digest.bytes (by decide)

theorem smallField_optionalDigestValue (digest : Option Sha256Digest) :
    SmallField (Fields.optionalDigestValue digest) := by
  cases digest with
  | none => exact within_null.mono (by decide) (by decide) (by decide)
  | some digest => exact smallField_digest digest

/-- The number that the head of a time carries. -/
def UtcMillis.headArgument (time : UtcMillis) : Nat :=
  if 0 ≤ time.value then time.value.toUInt64.toNat
  else (UInt64.ofNat (-1 - time.value.toInt).toNat).toNat

theorem length_wire_time (time : UtcMillis) :
    (wire (toCanonicalValue time)).length = headSize time.headArgument := by
  simp only [toCanonicalValue, UtcMillis.headArgument]
  split <;> rw [wire, length_headBytes]

theorem length_wire_uuid {kind : UuidKind} (id : UuidV7 kind) :
    (wire (.text id.toText)).length = 38 := by
  have small : id.toText.utf8ByteSize < UInt64.size := by
    rw [UuidV7.toText_size]
    decide
  rw [length_wire_text small, UuidV7.toText_size]
  rfl

end Dirextalk.Wire
