import Mathlib.Data.Nat.Digits.Lemmas
import Mathlib.Tactic.LinearCombination

/-!
# Byte arrays

`[u8; length]` as a list of bytes that carries the proof of its length, ordered
lexicographically, and the transport of an order along an injective projection
that the identifier types use.
-/

namespace Dirextalk.Lib

open Std

/-- `[u8; length]`. -/
structure FixedBytes (length : Nat) where
  toList : List UInt8
  length_eq : toList.length = length
  deriving DecidableEq

namespace FixedBytes

variable {length : Nat}

theorem ext_toList {left right : FixedBytes length} (same : left.toList = right.toList) :
    left = right := by
  cases left
  cases right
  cases same
  rfl

/-- `<[u8; length]>::try_from(slice)`. -/
def ofList? (bytes : List UInt8) : Option (FixedBytes length) :=
  if exactly : bytes.length = length then some ⟨bytes, exactly⟩ else none

theorem ofList?_eq_some {bytes : List UInt8} {result : FixedBytes length} :
    ofList? bytes = some result ↔ result.toList = bytes := by
  unfold ofList?
  split
  case isTrue exactly =>
    constructor
    · rintro ⟨⟩
      rfl
    · rintro rfl
      rfl
  case isFalse other =>
    constructor
    · intro impossible
      cases impossible
    · rintro rfl
      exact absurd result.length_eq other

@[simp] theorem ofList?_toList (bytes : FixedBytes length) :
    ofList? bytes.toList = some bytes :=
  ofList?_eq_some.mpr rfl

end FixedBytes

section Transport

variable {α κ : Type} [Ord κ]

theorem transCmp_of_projection [TransOrd κ] (projection : α → κ) :
    TransCmp fun left right : α => compare (projection left) (projection right) where
  eq_swap := OrientedOrd.eq_swap
  isLE_trans below above := TransCmp.isLE_trans below above

theorem lawfulEqCmp_of_projection [LawfulEqOrd κ] (projection : α → κ)
    (injective : ∀ left right, projection left = projection right → left = right) :
    LawfulEqCmp fun left right : α => compare (projection left) (projection right) where
  compare_self := compare_self
  eq_of_compare equal := injective _ _ (LawfulEqCmp.eq_of_compare equal)

end Transport

instance {length : Nat} : Ord (FixedBytes length) :=
  ⟨fun left right => compare left.toList right.toList⟩

instance {length : Nat} : TransOrd (FixedBytes length) :=
  transCmp_of_projection FixedBytes.toList

instance {length : Nat} : LawfulEqOrd (FixedBytes length) :=
  lawfulEqCmp_of_projection FixedBytes.toList fun _ _ => FixedBytes.ext_toList

/-! ## Big-endian byte strings -/

/-- The `width` base-256 digits of `value`, most significant first.  Digits above
the width are dropped, as by a truncating machine conversion. -/
def toBeBytes : (width value : Nat) → List UInt8
  | 0, _ => []
  | width + 1, value =>
      UInt8.ofNat (value / 256 ^ width) :: toBeBytes width value

/-- The natural number denoted by a big-endian byte string. -/
def ofBeBytes : List UInt8 → Nat
  | [] => 0
  | byte :: rest => byte.toNat * 256 ^ rest.length + ofBeBytes rest

@[simp] theorem length_toBeBytes (width value : Nat) :
    (toBeBytes width value).length = width := by
  induction width with
  | zero => rfl
  | succ width ih => simp [toBeBytes, ih]

theorem ofBeBytes_lt (bytes : List UInt8) :
    ofBeBytes bytes < 256 ^ bytes.length := by
  induction bytes with
  | nil => simp [ofBeBytes]
  | cons byte rest ih =>
    have digit : byte.toNat ≤ 255 := Nat.le_of_lt_succ byte.toNat_lt
    have scaled : byte.toNat * 256 ^ rest.length ≤ 255 * 256 ^ rest.length :=
      Nat.mul_le_mul_right _ digit
    simp only [ofBeBytes, List.length_cons, pow_succ]
    omega

/-- Only the low `width` digits of the number matter to its digit string. -/
theorem toBeBytes_add_mul (width value high : Nat) :
    toBeBytes width (value + high * 256 ^ width) = toBeBytes width value := by
  induction width generalizing high with
  | zero => rfl
  | succ width ih =>
    have shifted : value + high * 256 ^ (width + 1) =
        value + high * 256 * 256 ^ width := by ring
    simp only [toBeBytes]
    rw [shifted, ih, Nat.add_mul_div_right _ _ (Nat.pow_pos (by decide))]
    congr 1
    apply UInt8.toNat_inj.mp
    simp only [UInt8.toNat_ofNat']
    omega

theorem ofBeBytes_toBeBytes {width value : Nat} (fits : value < 256 ^ width) :
    ofBeBytes (toBeBytes width value) = value := by
  induction width generalizing value with
  | zero =>
    rw [pow_zero, Nat.lt_one_iff] at fits
    simp [toBeBytes, ofBeBytes, fits]
  | succ width ih =>
    have top : value / 256 ^ width < 256 := by
      rw [Nat.div_lt_iff_lt_mul (Nat.pow_pos (by decide))]
      rwa [pow_succ, Nat.mul_comm] at fits
    -- Splitting off the leading digit leaves a number that fits the tail.
    have split : value = value % 256 ^ width + value / 256 ^ width * 256 ^ width := by
      rw [Nat.mul_comm]
      exact (Nat.mod_add_div value (256 ^ width)).symm
    have tail : toBeBytes width value = toBeBytes width (value % 256 ^ width) := by
      conv_lhs => rw [split]
      exact toBeBytes_add_mul width _ _
    have low : ofBeBytes (toBeBytes width value) = value % 256 ^ width := by
      rw [tail]
      exact ih (Nat.mod_lt _ (Nat.pow_pos (by decide)))
    simp only [toBeBytes, ofBeBytes, length_toBeBytes, UInt8.toNat_ofNat', low]
    rw [Nat.mod_eq_of_lt top]
    omega

theorem toBeBytes_ofBeBytes (bytes : List UInt8) :
    toBeBytes bytes.length (ofBeBytes bytes) = bytes := by
  induction bytes with
  | nil => rfl
  | cons byte rest ih =>
    have bound := ofBeBytes_lt rest
    have swap : byte.toNat * 256 ^ rest.length + ofBeBytes rest =
        ofBeBytes rest + byte.toNat * 256 ^ rest.length := Nat.add_comm _ _
    simp only [List.length_cons, toBeBytes, ofBeBytes]
    rw [swap, toBeBytes_add_mul, ih, Nat.add_mul_div_right _ _ (Nat.pow_pos (by decide)),
      Nat.div_eq_of_lt bound, Nat.zero_add, UInt8.ofNat_toNat]

/-! ## Regrouping bits -/

/-- The number denoted by groups of `width` bits, most significant first. -/
def groupsValue (width : Nat) (groups : List Nat) : Nat :=
  Nat.ofDigits (2 ^ width) groups.reverse

theorem groupsValue_append (width : Nat) (groups : List Nat) (last : Nat) :
    groupsValue width (groups ++ [last]) = groupsValue width groups * 2 ^ width + last := by
  simp only [groupsValue, List.reverse_append, List.reverse_singleton, List.singleton_append,
    Nat.ofDigits_cons]
  ring

/-- Groups of one width are determined by their number and value. -/
theorem groupsValue_injective {width : Nat} (positive : 0 < width) {groups others : List Nat}
    (length_eq : groups.length = others.length) (fit : ∀ group ∈ groups, group < 2 ^ width)
    (othersFit : ∀ group ∈ others, group < 2 ^ width)
    (same : groupsValue width groups = groupsValue width others) : groups = others := by
  have base : 1 < 2 ^ width := Nat.one_lt_two_pow (Nat.pos_iff_ne_zero.mp positive)
  refine List.reverse_injective (Nat.ofDigits_inj_of_len_eq base (by simpa using length_eq) ?_ ?_
    same)
  · exact fun group member => fit group (List.mem_reverse.mp member)
  · exact fun group member => othersFit group (List.mem_reverse.mp member)

/-- Pending bits and the groups that were cut from them. -/
structure BitBuffer where
  buffer : Nat
  bits : Nat
  groups : List Nat

namespace BitBuffer

def empty : BitBuffer := ⟨0, 0, []⟩

/-- Lets the topmost `width` bits out. -/
def emit (width : Nat) (state : BitBuffer) : BitBuffer :=
  let bits := state.bits - width
  { buffer := state.buffer &&& (2 ^ bits - 1)
    bits
    groups := state.groups ++ [(state.buffer >>> bits) &&& (2 ^ width - 1)] }

/-- `while bits >= width { … }`; each round lets at least one bit out. -/
def drain (width : Nat) : (fuel : Nat) → BitBuffer → BitBuffer
  | 0, state => state
  | fuel + 1, state => if width ≤ state.bits then drain width fuel (state.emit width) else state

/-- Takes one group of `inWidth` bits in. -/
def push (inWidth width : Nat) (state : BitBuffer) (group : Nat) : BitBuffer :=
  let bits := state.bits + inWidth
  drain width bits { state with buffer := (state.buffer <<< inWidth) ||| group, bits }

def regroup (inWidth width : Nat) (groups : List Nat) : BitBuffer :=
  groups.foldl (push inWidth width) empty

/-- The buffer holds `total` bits that denote `value`, with whole groups out. -/
structure Denotes (width : Nat) (state : BitBuffer) (total value : Nat) : Prop where
  value_eq : groupsValue width state.groups * 2 ^ state.bits + state.buffer = value
  buffer_lt : state.buffer < 2 ^ state.bits
  total_eq : state.groups.length * width + state.bits = total
  groups_lt : ∀ group ∈ state.groups, group < 2 ^ width

variable {width : Nat} {state : BitBuffer} {total value : Nat}

theorem Denotes.emit (denotes : Denotes width state total value) (enough : width ≤ state.bits) :
    Denotes width (state.emit width) total value := by
  obtain ⟨bits, bits_eq⟩ := Nat.exists_eq_add_of_le' enough
  have left : state.bits - width = bits := by omega
  have top : state.buffer / 2 ^ bits < 2 ^ width := by
    rw [Nat.div_lt_iff_lt_mul (Nat.two_pow_pos bits), ← pow_add, Nat.add_comm width bits, ← bits_eq]
    exact denotes.buffer_lt
  have out : (state.buffer >>> bits) &&& (2 ^ width - 1) = state.buffer / 2 ^ bits := by
    rw [Nat.and_two_pow_sub_one_eq_mod, Nat.shiftRight_eq_div_pow, Nat.mod_eq_of_lt top]
  refine ⟨?_, ?_, ?_, ?_⟩
  · simp only [BitBuffer.emit, left, out, groupsValue_append, Nat.and_two_pow_sub_one_eq_mod]
    rw [← denotes.value_eq, bits_eq, pow_add]
    have split := Nat.div_add_mod state.buffer (2 ^ bits)
    linear_combination split
  · simp only [BitBuffer.emit, left, Nat.and_two_pow_sub_one_eq_mod]
    exact Nat.mod_lt _ (Nat.two_pow_pos bits)
  · simp only [BitBuffer.emit, left, List.length_append, List.length_singleton]
    have := denotes.total_eq
    rw [bits_eq] at this
    linarith
  · simp only [BitBuffer.emit, left, out, List.mem_append, List.mem_singleton]
    rintro group (old | rfl)
    · exact denotes.groups_lt group old
    · exact top

theorem Denotes.drain (positive : 0 < width) {fuel : Nat} (enough : state.bits ≤ fuel)
    (denotes : Denotes width state total value) :
    Denotes width (state.drain width fuel) total value ∧ (state.drain width fuel).bits < width := by
  induction fuel generalizing state with
  | zero => exact ⟨denotes, by simp only [BitBuffer.drain]; omega⟩
  | succ fuel ih =>
    unfold BitBuffer.drain
    split
    case isTrue more =>
      have fewer : (state.emit width).bits ≤ fuel := by
        simp only [BitBuffer.emit]
        omega
      exact ih fewer (denotes.emit more)
    case isFalse less => exact ⟨denotes, Nat.not_le.mp less⟩

theorem Denotes.push (positive : 0 < width) {inWidth group : Nat} (fits : group < 2 ^ inWidth)
    (denotes : Denotes width state total value) :
    Denotes width (state.push inWidth width group) (total + inWidth)
        (value * 2 ^ inWidth + group) ∧
      (state.push inWidth width group).bits < width := by
  have joined : (state.buffer <<< inWidth) ||| group = state.buffer * 2 ^ inWidth + group := by
    rw [← Nat.shiftLeft_add_eq_or_of_lt fits, Nat.shiftLeft_eq]
  refine Denotes.drain positive (Nat.le_refl _) ⟨?_, ?_, ?_, denotes.groups_lt⟩
  · simp only [joined]
    rw [← denotes.value_eq, pow_add]
    ring
  · simp only [joined]
    have below : state.buffer + 1 ≤ 2 ^ state.bits := denotes.buffer_lt
    calc state.buffer * 2 ^ inWidth + group
        < (state.buffer + 1) * 2 ^ inWidth := by rw [Nat.add_mul, Nat.one_mul]; omega
      _ ≤ 2 ^ state.bits * 2 ^ inWidth := Nat.mul_le_mul_right _ below
      _ = 2 ^ (state.bits + inWidth) := (pow_add 2 _ _).symm
  · have := denotes.total_eq
    simp only
    omega

/-- Regrouping keeps the number denoted and leaves less than one group behind. -/
theorem regroup_denotes (positive : 0 < width) {inWidth : Nat} {groups : List Nat}
    (fit : ∀ group ∈ groups, group < 2 ^ inWidth) :
    Denotes width (regroup inWidth width groups) (groups.length * inWidth)
        (groupsValue inWidth groups) ∧
      (regroup inWidth width groups).bits < width := by
  induction groups using List.reverseRecOn with
  | nil =>
    refine ⟨⟨?_, ?_, ?_, ?_⟩, positive⟩
    all_goals simp [regroup, empty, groupsValue]
  | append_singleton front last ih =>
    have before := (ih fun group member => fit group (List.mem_append_left _ member)).1
    have pushed := before.push positive (fit last (by simp))
    simp only [regroup, List.foldl_append, List.foldl_cons, List.foldl_nil, List.length_append,
      List.length_singleton, groupsValue_append, Nat.add_mul, Nat.one_mul] at pushed ⊢
    exact pushed

end BitBuffer

end Dirextalk.Lib
