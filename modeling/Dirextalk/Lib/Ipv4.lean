import Mathlib.Data.List.Basic

/-!
# Numeric hosts

The parser by which a client that follows the URL standard turns a host into an IPv4
address: at most four parts between dots, each decimal, octal after a leading zero, or
hexadecimal after `0x`, where no digits at all stand for zero.  The last part fills the
bytes that the parts before it leave.
-/

namespace Dirextalk.Lib.Ipv4

/-- The value of a digit. -/
def digitValue (digit : Char) : Option Nat :=
  if digit.isDigit then some (digit.toNat - '0'.toNat)
  else if 'a' ≤ digit ∧ digit ≤ 'f' then some (digit.toNat - 'a'.toNat + 10)
  else if 'A' ≤ digit ∧ digit ≤ 'F' then some (digit.toNat - 'A'.toNat + 10)
  else none

/-- The digits of a radix, the first of them the highest. -/
def digits (radix : Nat) (text : List Char) : Option Nat :=
  text.foldlM (fun number digit =>
    ((digitValue digit).filter (· < radix)).map (radix * number + ·)) 0

/-- One part of a host as a number. -/
def number : List Char → Option Nat
  | [] => none
  | '0' :: 'x' :: rest | '0' :: 'X' :: rest => digits 16 rest
  | '0' :: rest => digits 8 rest
  | text => digits 10 text

variable (host : List Char)

/-- The parts of a host; a last empty one does not count. -/
def parts : List (List Char) :=
  let split := host.splitOn '.'
  if split.getLast? = some [] ∧ 1 < split.length then split.dropLast else split

/-- Numbers that fill four bytes, the last of them all bytes that are left. -/
def Fills (numbers : List Nat) : Prop :=
  numbers.length ≤ 4 ∧ (∀ part ∈ numbers.dropLast, part ≤ 255) ∧
    ∀ last, numbers.getLast? = some last → last < Nat.pow 256 (5 - numbers.length)

instance (numbers : List Nat) : Decidable (Fills numbers) :=
  inferInstanceAs (Decidable (_ ∧ _ ∧ ∀ last, numbers.getLast? = some last → _))

/-- The address that a host is turned into. -/
def parse : Option Nat := do
  let numbers ← (parts host).mapM number
  if Fills numbers then
    some (numbers.dropLast.zipIdx.foldl
      (fun address part => address + part.1 * Nat.pow 256 (3 - part.2))
      (numbers.getLast?.getD 0))
  else none

/-! ## What is read -/

variable {text : List Char} {digit : Char}

theorem of_digits {radix value : Nat} (read : digits radix text = some value)
    (listed : digit ∈ text) : ∃ worth < radix, digitValue digit = some worth := by
  have every : ∀ start, (text.foldlM (fun number digit =>
      ((digitValue digit).filter (· < radix)).map (radix * number + ·)) start) = some value →
      ∀ digit ∈ text, ∃ worth < radix, digitValue digit = some worth := by
    clear read listed
    induction text with
    | nil => exact fun _ _ => List.forall_mem_nil _
    | cons first rest ih =>
      intro start read
      rw [List.foldlM_cons, Option.bind_eq_bind, Option.bind_eq_some_iff] at read
      obtain ⟨_, step, read⟩ := read
      obtain ⟨worth, found, _⟩ := Option.map_eq_some_iff.mp step
      obtain ⟨found, below⟩ := Option.filter_eq_some_iff.mp found
      exact List.forall_mem_cons.mpr ⟨⟨worth, of_decide_eq_true below, found⟩, ih _ read⟩
  exact every 0 read digit listed

/-- A digit below ten is a decimal digit. -/
theorem isDigit_of_digitValue {worth : Nat} (found : digitValue digit = some worth)
    (below : worth < 10) : digit.isDigit = true := by
  unfold digitValue at found
  split at found
  case isTrue decimal => exact decimal
  case isFalse =>
    split at found
    case isTrue =>
      cases found
      omega
    case isFalse =>
      split at found
      case isTrue =>
        cases found
        omega
      case isFalse => cases found

theorem hexDigit_of_digitValue {worth : Nat} (found : digitValue digit = some worth) :
    digit.isDigit = true ∨ ('a' ≤ digit ∧ digit ≤ 'f') ∨ 'A' ≤ digit ∧ digit ≤ 'F' := by
  unfold digitValue at found
  split at found
  case isTrue decimal => exact .inl decimal
  case isFalse =>
    split at found
    case isTrue lower => exact .inr (.inl lower)
    case isFalse =>
      split at found
      case isTrue upper => exact .inr (.inr upper)
      case isFalse => cases found

/-- A part that is a number: decimal digits, or hexadecimal digits after `0x`. -/
theorem of_number {value : Nat} (read : number text = some value) :
    (∀ digit ∈ text, digit.isDigit = true) ∨
      ∃ mark hex, text = '0' :: mark :: hex ∧ (mark = 'x' ∨ mark = 'X') ∧
        ∀ digit ∈ hex, digit.isDigit = true ∨ ('a' ≤ digit ∧ digit ≤ 'f') ∨
          'A' ≤ digit ∧ digit ≤ 'F' := by
  have decimals {radix : Nat} {text : List Char} (small : radix ≤ 10)
      (read : digits radix text = some value) : ∀ digit ∈ text, digit.isDigit = true := by
    intro digit listed
    obtain ⟨worth, below, found⟩ := of_digits read listed
    exact isDigit_of_digitValue found (Nat.lt_of_lt_of_le below small)
  have hexes {text : List Char} (read : digits 16 text = some value) :
      ∀ digit ∈ text, digit.isDigit = true ∨ ('a' ≤ digit ∧ digit ≤ 'f') ∨
        'A' ≤ digit ∧ digit ≤ 'F' := by
    intro digit listed
    obtain ⟨_, _, found⟩ := of_digits read listed
    exact hexDigit_of_digitValue found
  unfold number at read
  split at read
  case h_1 => cases read
  case h_2 hex => exact .inr ⟨'x', hex, rfl, .inl rfl, hexes read⟩
  case h_3 hex => exact .inr ⟨'X', hex, rfl, .inr rfl, hexes read⟩
  case h_4 rest _ _ => exact .inl (List.forall_mem_cons.mpr ⟨rfl, decimals (by decide) read⟩)
  case h_5 => exact .inl (decimals (Nat.le_refl 10) read)

/-- Every part of a list of numbers is one. -/
theorem number_of_mapM {texts : List (List Char)} {numbers : List Nat}
    (read : texts.mapM number = some numbers) (listed : text ∈ texts) :
    ∃ value, number text = some value := by
  induction texts generalizing numbers with
  | nil => cases listed
  | cons first rest ih =>
    rw [List.mapM_cons, Option.bind_eq_bind, Option.bind_eq_some_iff] at read
    obtain ⟨value, found, read⟩ := read
    rw [Option.bind_eq_bind, Option.bind_eq_some_iff] at read
    obtain ⟨_, others, _⟩ := read
    rcases List.mem_cons.mp listed with rfl | later
    · exact ⟨value, found⟩
    · exact ih others later

/-- The hosts that are addresses. -/
theorem parse_ne_none_iff :
    parse host ≠ none ↔ ∃ numbers, (parts host).mapM number = some numbers ∧ Fills numbers := by
  unfold parse
  cases (parts host).mapM number with
  | none =>
    constructor
    · intro found
      exact absurd rfl found
    · rintro ⟨_, read, _⟩
      cases read
  | some numbers =>
    rw [Option.bind_eq_bind, Option.bind_some]
    constructor
    · intro found
      by_contra none
      exact found (if_neg fun fills => none ⟨numbers, rfl, fills⟩)
    · rintro ⟨_, ⟨⟩, fills⟩
      rw [if_pos fills]
      exact Option.some_ne_none _

end Dirextalk.Lib.Ipv4
