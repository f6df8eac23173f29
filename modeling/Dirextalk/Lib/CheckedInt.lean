import Mathlib.Algebra.Group.Int.Defs
import Mathlib.Algebra.Group.Nat.Defs

/-!
# Checked arithmetic and conversions

Checked sums and differences, those of unsigned numbers with the equation over
natural numbers that their result satisfies, and the fallible conversions between
unsigned numbers and the signed columns they are stored in.
-/

namespace Dirextalk.Lib

/-- `u32::checked_add`. -/
def checkedAdd (left right : UInt32) : Option UInt32 :=
  if left.toNat + right.toNat < UInt32.size then some (left + right) else none

/-- `u32::checked_sub`. -/
def checkedSub (left right : UInt32) : Option UInt32 :=
  if right ≤ left then some (left - right) else none

/-- `u64::checked_add`. -/
def checkedAddUInt64 (left right : UInt64) : Option UInt64 :=
  if left.toNat + right.toNat < UInt64.size then some (left + right) else none

/-- `i64::checked_add`. -/
def checkedAddInt64 (left right : Int64) : Option Int64 :=
  let sum := left.toInt + right.toInt
  if -2 ^ 63 ≤ sum ∧ sum < 2 ^ 63 then some (left + right) else none

theorem checkedAdd_eq_some {left right sum : UInt32} :
    checkedAdd left right = some sum ↔ left.toNat + right.toNat = sum.toNat := by
  have bound := sum.toNat_lt
  unfold checkedAdd
  split
  case isTrue fits =>
    rw [Option.some.injEq, ← UInt32.toNat_inj, UInt32.toNat_add, Nat.mod_eq_of_lt fits]
  case isFalse overflow =>
    simp only [UInt32.size, reduceCtorEq, false_iff] at *
    omega

theorem checkedAddUInt64_eq_some {left right sum : UInt64} :
    checkedAddUInt64 left right = some sum ↔ left.toNat + right.toNat = sum.toNat := by
  have bound := sum.toNat_lt
  unfold checkedAddUInt64
  split
  case isTrue fits =>
    rw [Option.some.injEq, ← UInt64.toNat_inj, UInt64.toNat_add, Nat.mod_eq_of_lt fits]
  case isFalse overflow =>
    simp only [UInt64.size, reduceCtorEq, false_iff] at *
    omega

theorem checkedAdd_eq_some_iff_add {left right sum : UInt32} :
    checkedAdd left right = some sum ↔
      left.toNat + right.toNat < UInt32.size ∧ left + right = sum := by
  unfold checkedAdd
  split <;> simp [*]

theorem checkedSub_eq_some {left right difference : UInt32} :
    checkedSub left right = some difference ↔
      difference.toNat + right.toNat = left.toNat := by
  unfold checkedSub
  split
  case isTrue covers =>
    rw [Option.some.injEq, ← UInt32.toNat_inj, UInt32.toNat_sub_of_le _ _ covers]
    rw [UInt32.le_iff_toNat_le] at covers
    omega
  case isFalse short =>
    rw [UInt32.le_iff_toNat_le] at short
    simp only [reduceCtorEq, false_iff]
    omega

/-! ## Signed columns -/

/-- `u64::try_from(i64)`. -/
def toUnsigned? (value : Int64) : Option Nat :=
  if 0 ≤ value.toInt then some value.toInt.toNat else none

end Dirextalk.Lib
