import Dirextalk.Lib.Fallible
import Mathlib.Tactic.Ring

/-!
# Protocol buffer messages

A message is a list of numbered fields, and its encoding is that of its fields one after
the other.  Numbers are written with base-128 digits, lowest first, without leading zeros.
-/

namespace Dirextalk.Lib

/-! ## Numbers -/

/-- The base-128 digits of a number, lowest first, at most `width` of them. -/
def varintWithin : (width value : Nat) → List UInt8
  | 0, _ => []
  | width + 1, value =>
      if value < 128 then [UInt8.ofNat value]
      else UInt8.ofNat (value % 128 + 128) :: varintWithin width (value / 128)

/-- The shortest encoding of a 64-bit number. -/
def varint (value : Nat) : List UInt8 := varintWithin 10 value

theorem length_varintWithin_of_lt {digits width value : Nat} (fits : value < 128 ^ (digits + 1)) :
    (varintWithin width value).length ≤ digits + 1 := by
  induction digits generalizing width value with
  | zero =>
    rw [zero_add, pow_one] at fits
    cases width with
    | zero => exact Nat.zero_le _
    | succ width => rw [varintWithin, if_pos fits, List.length_singleton]
  | succ digits ih =>
    cases width with
    | zero => exact Nat.zero_le _
    | succ width =>
      have high : value / 128 < 128 ^ (digits + 1) := by
        rw [Nat.div_lt_iff_lt_mul (by decide)]
        rwa [pow_succ] at fits
      rw [varintWithin]
      split
      · exact Nat.succ_le_succ (Nat.zero_le _)
      · rw [List.length_cons]
        exact Nat.succ_le_succ (ih high)

/-- A number of so many digits to the base 128 takes as many bytes. -/
theorem length_varint_of_lt (digits : Nat) {value : Nat} (fits : value < 128 ^ (digits + 1)) :
    (varint value).length ≤ digits + 1 :=
  length_varintWithin_of_lt fits

/-! ## Fields -/

/-- How the content of a field is delimited. -/
inductive WireType where
  | varint
  | fixed64
  | lengthDelimited
  | fixed32
  deriving DecidableEq, Repr

/-- The number of a wire type in the key of a field. -/
def WireType.code : WireType → Nat
  | .varint => 0
  | .fixed64 => 1
  | .lengthDelimited => 2
  | .fixed32 => 5

/-- What follows the key of a field. -/
inductive Content where
  | varint (value : Nat)
  | fixed64 (bytes : List UInt8)
  | delimited (bytes : List UInt8)
  | fixed32 (bytes : List UInt8)
  deriving DecidableEq

namespace Content

def wireType : Content → WireType
  | varint _ => .varint
  | fixed64 _ => .fixed64
  | delimited _ => .lengthDelimited
  | fixed32 _ => .fixed32

def encode : Content → List UInt8
  | varint value => Lib.varint value
  | fixed64 bytes => bytes
  | delimited bytes => Lib.varint bytes.length ++ bytes
  | fixed32 bytes => bytes

end Content

/-- A numbered field of a message. -/
structure Field where
  number : Nat
  content : Content
  deriving DecidableEq

namespace Field

def key (field : Field) : Nat := 8 * field.number + field.content.wireType.code

def encode (field : Field) : List UInt8 := varint field.key ++ field.content.encode

end Field

/-- The encoding of a message. -/
def encodeFields (fields : List Field) : List UInt8 := fields.flatMap Field.encode

/-! ## Typed fields -/

/-- A number, left out where it is the default. -/
def putUint64 (number value : Nat) : List Field :=
  if value = 0 then [] else [⟨number, .varint value⟩]

/-- Bytes, left out where they are the default. -/
def putBytes (number : Nat) (bytes : List UInt8) : List Field :=
  if bytes = [] then [] else [⟨number, .delimited bytes⟩]

/-- A message, which is written also where it is empty. -/
def putMessage (number : Nat) (bytes : List UInt8) : List Field := [⟨number, .delimited bytes⟩]

end Dirextalk.Lib
