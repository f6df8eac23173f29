import Dirextalk.Wire.EncoderSpec

/-!
# Steps of the bounded parser

The mirror image of the encoder's step rules.  A parsing step is described by the
values it can return together with the bytes and the items each of them costs; it
succeeds exactly when those bytes are next in the input and the item budget
covers them.  Below the rules of composition stand the descriptions of the
primitive reads, up to the shortest-form heads.
-/

namespace Dirextalk.Wire

open Lib

/-- Bytes that continue the input after a first part of it. -/
theorem append_prefix_iff {first second input : List UInt8} :
    first ++ second <+: input ↔ first <+: input ∧ second <+: input.drop first.length := by
  constructor
  · rintro ⟨tail, rfl⟩
    refine ⟨⟨second ++ tail, by simp⟩, ⟨tail, ?_⟩⟩
    rw [List.append_assoc, List.drop_left]
  · rintro ⟨⟨tail, rfl⟩, continued⟩
    rw [List.drop_left] at continued
    exact (List.prefix_append_right_inj first).mpr continued

namespace Parser

variable (parser : Parser)

/-- The input not yet consumed. -/
def rest : List UInt8 := parser.input.drop parser.position

/-- The parser after consuming `length` bytes and charging `count` items. -/
def advance (length count : Nat) : Parser :=
  { parser with position := parser.position + length, items := parser.items + count }

@[simp] theorem advance_input (length count : Nat) :
    (parser.advance length count).input = parser.input := rfl

@[simp] theorem advance_items (length count : Nat) :
    (parser.advance length count).items = parser.items + count := rfl

@[simp] theorem advance_position (length count : Nat) :
    (parser.advance length count).position = parser.position + length := rfl

@[simp] theorem advance_maxEncodedBytes (length count : Nat) :
    (parser.advance length count).maxEncodedBytes = parser.maxEncodedBytes := rfl

@[simp] theorem rest_advance (length count : Nat) :
    (parser.advance length count).rest = parser.rest.drop length := by
  simp [rest, List.drop_drop]

theorem advance_advance (first second few more : Nat) :
    (parser.advance first few).advance second more =
      parser.advance (first + second) (few + more) := by
  simp [advance, Nat.add_assoc]

/-- A parser inside an input that the byte limit covers. -/
structure WellFormed (limit : UInt64) (parser : Parser) : Prop where
  position_le : parser.position ≤ parser.input.length
  input_le : parser.input.length ≤ limit.toNat
  limit_eq : parser.maxEncodedBytes = limit
  items_le : parser.items ≤ maxTotalItems

/-- `bytes` are next in the input, the item budget covers `count`, and `after` is
the parser behind them. -/
def Consumes (bytes : List UInt8) (count : Nat) (after : Parser) : Prop :=
  bytes <+: parser.rest ∧ parser.items + count ≤ maxTotalItems ∧
    after = parser.advance bytes.length count

theorem consumes_append {parser after : Parser} {first second : List UInt8} {few more : Nat} :
    parser.Consumes (first ++ second) (few + more) after ↔
      ∃ middle, parser.Consumes first few middle ∧ middle.Consumes second more after := by
  simp only [Consumes, append_prefix_iff, List.length_append, ← advance_advance]
  constructor
  · rintro ⟨⟨firstNext, secondNext⟩, within, rfl⟩
    exact ⟨_, ⟨firstNext, by omega, rfl⟩, by simpa using secondNext,
      by simpa [Nat.add_assoc] using within, rfl⟩
  · rintro ⟨middle, ⟨firstNext, -, rfl⟩, secondNext, within, rfl⟩
    exact ⟨⟨firstNext, by simpa using secondNext⟩, by simpa [Nat.add_assoc] using within, rfl⟩

theorem Consumes.length_le {limit : UInt64} {parser after : Parser} {bytes : List UInt8}
    {count : Nat} (wellFormed : parser.WellFormed limit)
    (consumes : parser.Consumes bytes count after) : bytes.length ≤ limit.toNat := by
  have next := consumes.1.length_le
  have inside := wellFormed.input_le
  simp only [rest, List.length_drop] at next
  omega

theorem Consumes.wellFormed {limit : UInt64} {parser after : Parser} {bytes : List UInt8}
    {count : Nat} (consumes : parser.Consumes bytes count after)
    (wellFormed : parser.WellFormed limit) : after.WellFormed limit := by
  obtain ⟨next, within, rfl⟩ := consumes
  have fits := next.length_le
  have inside := wellFormed.position_le
  simp only [rest, List.length_drop] at fits
  exact ⟨by simp only [advance_input, advance_position]; omega, wellFormed.input_le,
    wellFormed.limit_eq, within⟩

/-! ## Steps and their composition -/

/-- What a step may return: a value, the bytes it stands for, and its items. -/
abbrev Denotes (α : Type) := α → List UInt8 → Nat → Prop

/-- The step returns `value` exactly when bytes denoting it are next in the input
and the item budget covers its items. -/
def Reads {α : Type} (limit : UInt64)
    (step : Parser → Except CanonicalCborError (α × Parser)) (denotes : Denotes α) : Prop :=
  ∀ parser, parser.WellFormed limit → ∀ value after,
    step parser = .ok (value, after) ↔
      ∃ bytes count, denotes value bytes count ∧ parser.Consumes bytes count after

section Composition

variable {α β : Type} {limit : UInt64}

theorem Reads.pure (value : α) :
    Reads limit (fun parser => .ok (value, parser))
      fun result bytes count => value = result ∧ bytes = [] ∧ count = 0 := by
  intro parser wellFormed result after
  constructor
  · rintro ⟨⟩
    exact ⟨[], 0, ⟨rfl, rfl, rfl⟩, List.nil_prefix, wellFormed.items_le, rfl⟩
  · rintro ⟨_, _, ⟨rfl, rfl, rfl⟩, -, -, rfl⟩
    rfl

theorem Reads.fail (error : CanonicalCborError) :
    Reads limit (fun _ => (.error error : Except CanonicalCborError (α × Parser)))
      fun _ _ _ => False := by
  intro parser wellFormed result after
  simp

theorem Reads.andThen {first : Parser → Except CanonicalCborError (α × Parser)}
    {second : α → Parser → Except CanonicalCborError (β × Parser)} {firstDenotes : Denotes α}
    {secondDenotes : α → Denotes β} (one : Reads limit first firstDenotes)
    (two : ∀ value, Reads limit (second value) (secondDenotes value)) :
    Reads limit (fun parser => do let (value, parser) ← first parser; second value parser)
      fun result bytes count => ∃ value head few tail more,
        firstDenotes value head few ∧ secondDenotes value result tail more ∧
          bytes = head ++ tail ∧ count = few + more := by
  intro parser wellFormed result after
  constructor
  · intro run
    obtain ⟨⟨value, middle⟩, firstRun, secondRun⟩ := bind_eq_ok.mp run
    obtain ⟨head, few, meaning, consumed⟩ := (one parser wellFormed value middle).mp firstRun
    obtain ⟨tail, more, meaningToo, consumedToo⟩ :=
      (two value middle (consumed.wellFormed wellFormed) result after).mp secondRun
    exact ⟨_, _, ⟨value, head, few, tail, more, meaning, meaningToo, rfl, rfl⟩,
      consumes_append.mpr ⟨middle, consumed, consumedToo⟩⟩
  · rintro ⟨_, _, ⟨value, head, few, tail, more, meaning, meaningToo, rfl, rfl⟩, consumed⟩
    obtain ⟨middle, consumed, consumedToo⟩ := consumes_append.mp consumed
    exact bind_eq_ok.mpr ⟨(value, middle),
      (one parser wellFormed value middle).mpr ⟨head, few, meaning, consumed⟩,
      (two value middle (consumed.wellFormed wellFormed) result after).mpr
        ⟨tail, more, meaningToo, consumedToo⟩⟩

variable {step : Parser → Except CanonicalCborError (α × Parser)} {denotes : Denotes α}

theorem Reads.guarded {check : Except CanonicalCborError Unit} {passes : Prop}
    (checks : ∀ {done}, check = .ok done ↔ passes) (reads : Reads limit step denotes) :
    Reads limit (fun parser => do check; step parser)
      fun value bytes count => passes ∧ denotes value bytes count := by
  intro parser wellFormed value after
  simp only [bind_eq_ok, checks, exists_const, reads parser wellFormed value after, and_assoc,
    exists_and_left]

theorem Reads.unless (condition : Prop) [Decidable condition] (error : CanonicalCborError)
    (reads : Reads limit step denotes) :
    Reads limit (fun parser => do rejectIf condition error; step parser)
      fun value bytes count => ¬condition ∧ denotes value bytes count :=
  Reads.guarded rejectIf_eq_ok reads

/-- Two descriptions agree when they agree on byte strings within the limit. -/
theorem Reads.congr {denotes denotes' : Denotes α} (reads : Reads limit step denotes)
    (same : ∀ value bytes count, bytes.length ≤ limit.toNat →
      (denotes value bytes count ↔ denotes' value bytes count)) : Reads limit step denotes' := by
  intro parser wellFormed value after
  rw [reads parser wellFormed value after]
  refine exists_congr fun bytes => exists_congr fun count => and_congr_left fun consumed => ?_
  exact same value bytes count (consumed.length_le wellFormed)

theorem Reads.map (reads : Reads limit step denotes) (image : α → β) :
    Reads limit (fun parser => do let (value, parser) ← step parser; return (image value, parser))
      fun result bytes count => ∃ value, image value = result ∧ denotes value bytes count := by
  refine (reads.andThen fun value => Reads.pure (image value)).congr ?_
  intro result bytes count _
  constructor
  · rintro ⟨value, head, few, _, _, meaning, ⟨same, rfl, rfl⟩, rfl, rfl⟩
    exact ⟨value, same, by simpa using meaning⟩
  · rintro ⟨value, same, meaning⟩
    exact ⟨value, bytes, count, [], 0, meaning, ⟨same, rfl, rfl⟩, by simp, rfl⟩

end Composition

/-! ## Primitive steps -/

section Primitive

variable {limit : UInt64}

theorem readByte_reads :
    Reads limit readByte fun byte bytes count => bytes = [byte] ∧ count = 0 := by
  intro parser wellFormed byte after
  have next : parser.input[parser.position]? = some byte ↔ [byte] <+: parser.rest := by
    rw [rest, ← List.head?_drop]
    cases parser.input.drop parser.position with
    | nil => simp
    | cons head tail => simp [eq_comm]
  simp only [readByte, bind_eq_ok, okOr_eq_ok, pure_eq_ok, Prod.mk.injEq]
  constructor
  · rintro ⟨found, read, rfl, rfl⟩
    exact ⟨[found], 0, ⟨rfl, rfl⟩, next.mp read, wellFormed.items_le, rfl⟩
  · rintro ⟨_, _, ⟨rfl, rfl⟩, read, -, rfl⟩
    exact ⟨byte, next.mpr read, rfl, rfl⟩

theorem readExact_reads (length : Nat) :
    Reads limit (fun parser => parser.readExact length)
      fun value bytes count => value.length = length ∧ bytes = value ∧ count = 0 := by
  intro parser wellFormed value after
  have inside := wellFormed.position_le
  have small := limit.toNat_lt
  have covered := wellFormed.input_le
  simp only [readExact, bind_eq_ok, okOr_eq_ok, checkedAddUsize_eq_some, rejectIf_eq_ok,
    exists_const, pure_eq_ok, Prod.mk.injEq, Nat.not_lt, gt_iff_lt, UInt64.size]
  constructor
  · rintro ⟨stop, ⟨-, rfl⟩, within, rfl, rfl⟩
    have taken : ((parser.input.drop parser.position).take length).length = length := by
      simp only [List.length_take, List.length_drop]
      omega
    refine ⟨_, 0, ⟨taken, rfl, rfl⟩, List.take_prefix _ _, wellFormed.items_le, ?_⟩
    rw [taken]
    rfl
  · rintro ⟨_, _, ⟨rfl, rfl, rfl⟩, next, -, rfl⟩
    have fits := next.length_le
    simp only [rest, List.length_drop] at fits
    exact ⟨_, ⟨by omega, rfl⟩, by omega, (List.prefix_iff_eq_take.mp next).symm, rfl⟩

/-- A word read is the shortest one: at least `narrower` and below its width. -/
theorem readWord_reads {width : Nat} (narrower : Nat) (wide : width ≤ 8) :
    Reads limit (fun parser => parser.readWord width narrower)
      fun value bytes count => (narrower ≤ value.toNat ∧ value.toNat < 256 ^ width) ∧
        bytes = toBeBytes width value.toNat ∧ count = 0 := by
  refine ((readExact_reads width).andThen fun word =>
    (Reads.pure (UInt64.ofNat (ofBeBytes word))).unless (ofBeBytes word < narrower)
      .nonPreferredArgument).congr ?_
  intro value bytes count _
  have fits (word : List UInt8) (length : word.length = width) :
      ofBeBytes word < UInt64.size := by
    have bound := ofBeBytes_lt word
    have scaled : 256 ^ word.length ≤ 256 ^ 8 := Nat.pow_le_pow_right (by decide) (by omega)
    have size : 256 ^ 8 = UInt64.size := by decide
    omega
  constructor
  · rintro ⟨word, head, few, tail, more, ⟨length, rfl, rfl⟩, ⟨preferred, rfl, rfl, rfl⟩, rfl, rfl⟩
    have exactly : (UInt64.ofNat (ofBeBytes head)).toNat = ofBeBytes head :=
      UInt64.toNat_ofNat_of_lt (fits head length)
    have bound := ofBeBytes_lt head
    rw [exactly, ← length, toBeBytes_ofBeBytes]
    exact ⟨⟨by omega, bound⟩, by simp, rfl⟩
  · rintro ⟨⟨preferred, bound⟩, rfl, rfl⟩
    have denoted := ofBeBytes_toBeBytes bound
    refine ⟨toBeBytes width value.toNat, _, 0, [], 0, ⟨by simp, rfl, rfl⟩, ⟨?_, ?_, rfl, rfl⟩,
      by simp, rfl⟩
    · rw [denoted]
      omega
    · rw [denoted, UInt64.ofNat_toNat]

/-- The low five bits of a head and the bytes after it. -/
def argumentHead (argument : UInt64) : UInt8 × List UInt8 :=
  if argument.toNat < 24 then (argument.toUInt8, [])
  else if argument.toNat < 2 ^ 8 then (0x18, [argument.toUInt8])
  else if argument.toNat < 2 ^ 16 then (0x19, toBeBytes 2 argument.toNat)
  else if argument.toNat < 2 ^ 32 then (0x1a, toBeBytes 4 argument.toNat)
  else (0x1b, toBeBytes 8 argument.toNat)

theorem headBytes_eq (major : UInt8) (argument : UInt64) :
    headBytes major argument =
      (major <<< 5 ||| (argumentHead argument).1) :: (argumentHead argument).2 := by
  unfold headBytes argumentHead
  dsimp only
  split_ifs <;> rfl

theorem argumentHead_lt (argument : UInt64) : (argumentHead argument).1.toNat < 28 := by
  unfold argumentHead
  split_ifs with direct
  · simp only [UInt64.toNat_toUInt8]
    omega
  all_goals simp

/-- `argumentHead` by the class of the head: which arguments it can carry and
what follows it. -/
theorem argumentHead_eq_iff {argument : UInt64} {additional : UInt8} {bytes : List UInt8} :
    argumentHead argument = (additional, bytes) ↔
      (additional.toNat < 24 ∧ argument = additional.toUInt64 ∧ bytes = []) ∨
      (additional = 24 ∧ ∃ byte : UInt8, 24 ≤ byte.toNat ∧ argument = byte.toUInt64 ∧
        bytes = [byte]) ∨
      (additional = 25 ∧ (2 ^ 8 ≤ argument.toNat ∧ argument.toNat < 256 ^ 2) ∧
        bytes = toBeBytes 2 argument.toNat) ∨
      (additional = 26 ∧ (2 ^ 16 ≤ argument.toNat ∧ argument.toNat < 256 ^ 4) ∧
        bytes = toBeBytes 4 argument.toNat) ∨
      (additional = 27 ∧ (2 ^ 32 ≤ argument.toNat ∧ argument.toNat < 256 ^ 8) ∧
        bytes = toBeBytes 8 argument.toNat) := by
  have low : argument.toUInt8.toNat = argument.toNat % 2 ^ 8 := UInt64.toNat_toUInt8 argument
  have narrow (small : argument.toNat < 2 ^ 8) : argument = argument.toUInt8.toUInt64 := by
    apply UInt64.toNat_inj.mp
    rw [UInt8.toNat_toUInt64]
    omega
  have whole := argument.toNat_lt
  constructor
  · intro same
    unfold argumentHead at same
    split_ifs at same with direct byte half word <;> cases same
    · exact .inl ⟨by omega, narrow (by omega), rfl⟩
    · exact .inr (.inl ⟨rfl, _, by omega, narrow byte, rfl⟩)
    · exact .inr (.inr (.inl ⟨rfl, by omega, rfl⟩))
    · exact .inr (.inr (.inr (.inl ⟨rfl, by omega, rfl⟩)))
    · exact .inr (.inr (.inr (.inr ⟨rfl, by omega, rfl⟩)))
  · rintro (⟨direct, rfl, rfl⟩ | ⟨rfl, byte, large, rfl, rfl⟩ | ⟨rfl, range, rfl⟩ |
      ⟨rfl, range, rfl⟩ | ⟨rfl, range, rfl⟩)
    · simp [argumentHead, direct]
    · have bound := byte.toNat_lt
      rw [argumentHead, if_neg (by rw [UInt8.toNat_toUInt64]; omega),
        if_pos (by rw [UInt8.toNat_toUInt64]; omega), UInt8.toUInt8_toUInt64]
    · rw [argumentHead, if_neg (by omega), if_neg (by omega), if_pos (by omega)]
    · rw [argumentHead, if_neg (by omega), if_neg (by omega), if_neg (by omega),
        if_pos (by omega)]
    · rw [argumentHead, if_neg (by omega), if_neg (by omega), if_neg (by omega),
        if_neg (by omega)]

variable (additional : UInt8)

theorem readArgument_reads :
    Reads limit (fun parser => parser.readArgument additional)
      fun argument bytes count => argumentHead argument = (additional, bytes) ∧ count = 0 := by
  simp only [argumentHead_eq_iff]
  unfold readArgument
  split
  case h_1 code =>
    have class24 : additional = 24 := UInt8.toNat_inj.mp code
    subst class24
    refine (readByte_reads.andThen fun byte =>
      (Reads.pure byte.toUInt64).unless (byte.toNat < 24) .nonPreferredArgument).congr ?_
    intro argument bytes count _
    constructor
    · rintro ⟨byte, _, _, _, _, ⟨rfl, rfl⟩, ⟨large, rfl, rfl, rfl⟩, rfl, rfl⟩
      simpa using large
    · rintro ⟨⟨small, -⟩ | ⟨-, byte, large, rfl, rfl⟩ | ⟨other, -⟩ | ⟨other, -⟩ | ⟨other, -⟩, rfl⟩
      · exact absurd small (by decide)
      · exact ⟨byte, _, _, _, _, ⟨rfl, rfl⟩, ⟨by omega, rfl, rfl, rfl⟩, rfl, rfl⟩
      all_goals exact absurd other (by decide)
  case h_2 code =>
    have class25 : additional = 25 := UInt8.toNat_inj.mp code
    subst class25
    refine (readWord_reads (2 ^ 8) (by decide)).congr ?_
    simp [and_assoc]
  case h_3 code =>
    have class26 : additional = 26 := UInt8.toNat_inj.mp code
    subst class26
    refine (readWord_reads (2 ^ 16) (by decide)).congr ?_
    simp [and_assoc]
  case h_4 code =>
    have class27 : additional = 27 := UInt8.toNat_inj.mp code
    subst class27
    refine (readWord_reads (2 ^ 32) (by decide)).congr ?_
    simp [and_assoc]
  case h_5 code =>
    have class31 : additional = 31 := UInt8.toNat_inj.mp code
    subst class31
    refine (Reads.fail _).congr ?_
    simp
  case h_6 not24 not25 not26 not27 not31 =>
    refine ((Reads.pure additional.toUInt64).unless (additional.toNat ≥ 28)
      .reservedAdditionalInformation).congr ?_
    intro argument bytes count _
    have other (code : UInt8) (differs : additional.toNat ≠ code.toNat) : additional ≠ code :=
      fun same => differs (congrArg UInt8.toNat same)
    have ne24 : additional.toNat ≠ 24 := not24
    have ne25 : additional.toNat ≠ 25 := not25
    have ne26 : additional.toNat ≠ 26 := not26
    have ne27 : additional.toNat ≠ 27 := not27
    simp only [other 24 ne24, other 25 ne25, other 26 ne26, other 27 ne27, false_and, or_false]
    constructor
    · rintro ⟨reserved, rfl, rfl, rfl⟩
      exact ⟨⟨by omega, rfl, rfl⟩, rfl⟩
    · rintro ⟨⟨direct, rfl, rfl⟩, rfl⟩
      exact ⟨by omega, rfl, rfl, rfl⟩

theorem readLength_reads :
    Reads limit (fun parser => parser.readLength additional)
      fun length bytes count => length ≤ limit.toNat ∧
        argumentHead (UInt64.ofNat length) = (additional, bytes) ∧ count = 0 := by
  intro parser wellFormed length after
  have small := limit.toNat_lt
  constructor
  · intro run
    obtain ⟨⟨argument, middle⟩, read, run⟩ := bind_eq_ok.mp run
    obtain ⟨bytes, count, ⟨head, rfl⟩, consumed⟩ :=
      (readArgument_reads additional parser wellFormed argument middle).mp read
    simp only [bind_eq_ok, rejectIf_eq_ok, exists_const, pure_eq_ok, Prod.mk.injEq,
      (consumed.wellFormed wellFormed).limit_eq, Nat.not_lt, gt_iff_lt] at run
    obtain ⟨within, rfl, rfl⟩ := run
    exact ⟨bytes, 0, ⟨within, by rwa [UInt64.ofNat_toNat], rfl⟩, consumed⟩
  · rintro ⟨bytes, count, ⟨within, head, rfl⟩, consumed⟩
    have exactly : (UInt64.ofNat length).toNat = length :=
      UInt64.toNat_ofNat_of_lt (Nat.lt_of_le_of_lt within small)
    refine bind_eq_ok.mpr ⟨(UInt64.ofNat length, after),
      (readArgument_reads additional parser wellFormed _ _).mpr
        ⟨bytes, 0, ⟨head, rfl⟩, consumed⟩, ?_⟩
    simp only [bind_eq_ok, rejectIf_eq_ok, exists_const, pure_eq_ok, exactly,
      (consumed.wellFormed wellFormed).limit_eq, Nat.not_lt, gt_iff_lt]
    exact ⟨within, trivial⟩

theorem readContainerLength_reads :
    Reads limit (fun parser => parser.readContainerLength additional)
      fun length bytes count => length ≤ maxContainerEntries ∧ length ≤ limit.toNat ∧
        argumentHead (UInt64.ofNat length) = (additional, bytes) ∧ count = 0 := by
  refine ((readLength_reads additional).andThen fun length =>
    (Reads.pure length).unless (length > maxContainerEntries) .containerTooLarge).congr ?_
  intro length bytes count _
  constructor
  · rintro ⟨_, _, _, _, _, ⟨covered, head, rfl⟩, ⟨within, rfl, rfl, rfl⟩, rfl, rfl⟩
    exact ⟨Nat.le_of_not_lt within, covered, by simpa using head, rfl⟩
  · rintro ⟨within, covered, head, rfl⟩
    exact ⟨length, bytes, 0, [], 0, ⟨covered, head, rfl⟩,
      ⟨Nat.not_lt.mpr within, rfl, rfl, rfl⟩, by simp, rfl⟩

end Primitive

end Parser

end Dirextalk.Wire
