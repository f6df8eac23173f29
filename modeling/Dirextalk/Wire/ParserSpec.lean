import Dirextalk.Wire.ParserSteps

/-!
# What the bounded parser reads

The parser of a whole value returns precisely the key-ordered admissible values
whose canonical form is next in the input.  The container loops come first, then
what each initial byte can be followed by, and last the recursion over values and
the decoder entry point.
-/

namespace Dirextalk.Wire

open Lib

namespace Parser

/-! ## Containers -/

section Containers

variable {limit : UInt64} {parse : Parser → Except CanonicalCborError (CanonicalValue × Parser)}
variable {admitted : CanonicalValue → Prop}

/-- The meaning of parsing one admitted value: its canonical form and its items. -/
def DenotesValue (admitted : CanonicalValue → Prop) : Denotes CanonicalValue :=
  fun value bytes count => admitted value ∧ bytes = wire value ∧ count = itemCount value

theorem parseValues_reads (reads : Reads limit parse (DenotesValue admitted)) (length : Nat) :
    Reads limit (parseValues parse length) fun values bytes count =>
      values.length = length ∧ (∀ value ∈ values, admitted value) ∧
        bytes = values.flatMap wire ∧ count = (values.map itemCount).sum := by
  induction length with
  | zero =>
    refine (Reads.pure []).congr ?_
    intro values bytes count _
    constructor
    · rintro ⟨rfl, rfl, rfl⟩
      simp
    · rintro ⟨empty, -, rfl, rfl⟩
      obtain rfl := List.length_eq_zero_iff.mp empty
      simp
  | succ length ih =>
    refine (reads.andThen fun value => ih.andThen fun values =>
      Reads.pure (value :: values)).congr ?_
    intro values bytes count _
    constructor
    · rintro ⟨value, _, _, _, _, ⟨holds, rfl, rfl⟩, ⟨rest, _, _, _, _,
        ⟨rfl, allHold, rfl, rfl⟩, ⟨rfl, rfl, rfl⟩, rfl, rfl⟩, rfl, rfl⟩
      simpa using ⟨holds, allHold⟩
    · rintro ⟨count, allHold, rfl, rfl⟩
      obtain ⟨value, rest, rfl⟩ := List.exists_cons_of_length_eq_add_one count
      obtain ⟨holds, allHold⟩ := List.forall_mem_cons.mp allHold
      exact ⟨value, _, _, _, _, ⟨holds, rfl, rfl⟩, ⟨rest, _, _, [], 0,
        ⟨Nat.succ.inj count, allHold, rfl, rfl⟩, ⟨rfl, rfl, rfl⟩, rfl, rfl⟩, by simp, by simp⟩

/-- Consecutive keys, starting from the key before the first entry if any. -/
def KeysFollow (previousKey : Option (List UInt8))
    (entries : List (CanonicalValue × CanonicalValue)) : Prop :=
  List.IsChain (fun left right => compare left right = .lt)
    (previousKey.toList ++ entries.map fun entry => wire entry.1)

theorem checkKeyOrder_eq_ok (previousKey : Option (List UInt8)) (key : List UInt8) {done : Unit} :
    checkKeyOrder previousKey key = .ok done ↔
      ∀ previous ∈ previousKey, compare previous key = .lt := by
  cases previousKey with
  | none => simp [checkKeyOrder]
  | some previous =>
    simp only [checkKeyOrder, Option.mem_some_iff, forall_eq']
    cases compare previous key <;> simp

theorem keysFollow_cons {previousKey : Option (List UInt8)} {key value : CanonicalValue}
    {rest : List (CanonicalValue × CanonicalValue)} :
    KeysFollow previousKey ((key, value) :: rest) ↔
      (∀ previous ∈ previousKey, compare previous (wire key) = .lt) ∧
        KeysFollow (some (wire key)) rest := by
  cases previousKey <;> simp [KeysFollow]

theorem keysFollow_none {entries : List (CanonicalValue × CanonicalValue)} :
    KeysFollow none entries ↔ KeysIncreasing entries := by
  have transitive : IsTrans (List UInt8) fun left right => compare left right = .lt :=
    ⟨fun _ _ _ below above => Std.TransCmp.lt_trans below above⟩
  simp only [KeysFollow, Option.toList_none, List.nil_append, List.isChain_iff_pairwise,
    List.pairwise_map, KeysIncreasing]

/-- The key bytes cut out of the input are the bytes the key parser consumed. -/
theorem Consumes.slice {parser after : Parser} {bytes : List UInt8} {count : Nat}
    (consumed : parser.Consumes bytes count after) :
    (after.input.drop parser.position).take (after.position - parser.position) = bytes := by
  obtain ⟨next, -, rfl⟩ := consumed
  simp only [advance_input, advance_position, Nat.add_sub_cancel_left]
  exact (List.prefix_iff_eq_take.mp next).symm

/-- The entry loop accepts exactly admitted entries whose keys follow in order. -/
theorem parseEntries_reads (reads : Reads limit parse (DenotesValue admitted)) (length : Nat)
    (previousKey : Option (List UInt8)) :
    Reads limit (parseEntries parse length previousKey) fun entries bytes count =>
      entries.length = length ∧ (∀ entry ∈ entries, admitted entry.1 ∧ admitted entry.2) ∧
        KeysFollow previousKey entries ∧
        bytes = (entries.flatMap fun entry => wire entry.1 ++ wire entry.2) ∧
        count = entryItemCounts entries := by
  induction length generalizing previousKey with
  | zero =>
    refine (Reads.pure []).congr ?_
    intro entries bytes count _
    constructor
    · rintro ⟨rfl, rfl, rfl⟩
      cases previousKey <;> simp [KeysFollow, entryItemCounts]
    · rintro ⟨empty, -, -, rfl, rfl⟩
      obtain rfl := List.length_eq_zero_iff.mp empty
      simp [entryItemCounts]
  | succ length ih =>
    -- Behind the key, the order check and the rest of the loop are plain steps.
    have body (keyValue : CanonicalValue) (key : List UInt8) :=
      Reads.guarded (checkKeyOrder_eq_ok previousKey key)
        (reads.andThen fun value => (ih (some key)).andThen fun entries =>
          Reads.pure ((keyValue, value) :: entries))
    intro parser wellFormed entries after
    constructor
    · intro run
      obtain ⟨⟨keyValue, middle⟩, keyRun, run⟩ := bind_eq_ok.mp run
      obtain ⟨_, _, ⟨keyHolds, rfl, rfl⟩, consumed⟩ :=
        (reads parser wellFormed keyValue middle).mp keyRun
      dsimp only at run
      rw [consumed.slice] at run
      obtain ⟨tail, more, ⟨order, value, _, _, _, _, ⟨valueHolds, rfl, rfl⟩, ⟨rest, _, _, _, _,
        ⟨rfl, allHold, follow, rfl, rfl⟩, ⟨rfl, rfl, rfl⟩, rfl, rfl⟩, rfl, rfl⟩, consumedToo⟩ :=
        (body keyValue (wire keyValue) middle (consumed.wellFormed wellFormed) entries after).mp
          run
      refine ⟨_, _, ⟨rfl, ?_, keysFollow_cons.mpr ⟨order, follow⟩, rfl, rfl⟩, ?_⟩
      · exact List.forall_mem_cons.mpr ⟨⟨keyHolds, valueHolds⟩, allHold⟩
      · have joined := consumes_append.mpr ⟨middle, consumed, consumedToo⟩
        simpa [entryItemCounts, Nat.add_assoc] using joined
    · rintro ⟨_, _, ⟨size, allHold, follow, rfl, rfl⟩, consumed⟩
      obtain ⟨⟨keyValue, value⟩, rest, rfl⟩ := List.exists_cons_of_length_eq_add_one size
      obtain ⟨⟨keyHolds, valueHolds⟩, allHold⟩ := List.forall_mem_cons.mp allHold
      obtain ⟨order, follow⟩ := keysFollow_cons.mp follow
      have split : parser.Consumes
          (wire keyValue ++ (wire value ++ ((rest.flatMap fun entry =>
            wire entry.1 ++ wire entry.2) ++ [])))
          (itemCount keyValue + (itemCount value + (entryItemCounts rest + 0))) after := by
        simpa [entryItemCounts, Nat.add_assoc] using consumed
      obtain ⟨middle, consumed, consumedToo⟩ := consumes_append.mp split
      refine bind_eq_ok.mpr ⟨(keyValue, middle), (reads parser wellFormed _ _).mpr
        ⟨_, _, ⟨keyHolds, rfl, rfl⟩, consumed⟩, ?_⟩
      dsimp only
      rw [consumed.slice]
      exact (body keyValue (wire keyValue) middle (consumed.wellFormed wellFormed) _ after).mpr
        ⟨_, _, ⟨order, value, _, _, _, _, ⟨valueHolds, rfl, rfl⟩, ⟨rest, _, _, _, _,
          ⟨Nat.succ.inj size, allHold, follow, rfl, rfl⟩, ⟨rfl, rfl, rfl⟩, rfl, rfl⟩,
          rfl, rfl⟩, consumedToo⟩

end Containers

end Parser

/-! ## Initial bytes -/

theorem initialByte_join {major additional : UInt8} (majorSmall : major.toNat < 8)
    (additionalSmall : additional.toNat < 32) :
    (major <<< 5 ||| additional) >>> 5 = major ∧
      (major <<< 5 ||| additional) &&& 0x1f = additional := by
  have table : ∀ high < 8, ∀ low < 32,
      (UInt8.ofNat high <<< 5 ||| UInt8.ofNat low) >>> 5 = UInt8.ofNat high ∧
        (UInt8.ofNat high <<< 5 ||| UInt8.ofNat low) &&& 0x1f = UInt8.ofNat low := by
    decide
  simpa using table _ majorSmall _ additionalSmall

theorem initialByte_split (initial : UInt8) :
    (initial >>> 5) <<< 5 ||| (initial &&& 0x1f) = initial := by
  have table : ∀ high < 8, ∀ low < 32,
      (UInt8.ofNat (32 * high + low) >>> 5) <<< 5 ||| (UInt8.ofNat (32 * high + low) &&& 0x1f) =
        UInt8.ofNat (32 * high + low) := by
    decide
  have bound := initial.toNat_lt
  have digits : 32 * (initial.toNat / 32) + initial.toNat % 32 = initial.toNat := by omega
  have entry := table (initial.toNat / 32) (by omega) (initial.toNat % 32) (by omega)
  rwa [digits, UInt8.ofNat_toNat] at entry

theorem cons_eq_headBytes {major initial : UInt8} (majorSmall : major.toNat < 8)
    {argument : UInt64} {tail : List UInt8} :
    initial :: tail = headBytes major argument ↔
      initial >>> 5 = major ∧ Parser.argumentHead argument = (initial &&& 0x1f, tail) := by
  have additionalSmall : (Parser.argumentHead argument).1.toNat < 32 :=
    Nat.lt_trans (Parser.argumentHead_lt argument) (by decide)
  obtain ⟨top, low⟩ := initialByte_join majorSmall additionalSmall
  rw [Parser.headBytes_eq, List.cons.injEq]
  constructor
  · rintro ⟨rfl, rfl⟩
    exact ⟨top, Prod.ext low.symm rfl⟩
  · rintro ⟨rfl, head⟩
    rw [head]
    exact ⟨(initialByte_split initial).symm, rfl⟩

/-- A head followed by a payload. -/
theorem cons_eq_headBytes_append {major initial : UInt8} (majorSmall : major.toNat < 8)
    {argument : UInt64} {payload tail : List UInt8} :
    initial :: tail = headBytes major argument ++ payload ↔
      initial >>> 5 = major ∧ ∃ head,
        Parser.argumentHead argument = (initial &&& 0x1f, head) ∧ tail = head ++ payload := by
  constructor
  · intro same
    rw [Parser.headBytes_eq, List.cons_append, List.cons.injEq] at same
    obtain ⟨first, rfl⟩ := same
    have joined : initial :: (Parser.argumentHead argument).2 = headBytes major argument := by
      rw [Parser.headBytes_eq, first]
    obtain ⟨top, head⟩ := (cons_eq_headBytes majorSmall).mp joined
    exact ⟨top, _, head, rfl⟩
  · rintro ⟨top, head, split, rfl⟩
    rw [← (cons_eq_headBytes majorSmall).mpr ⟨top, split⟩]
    rfl

theorem wire_ne_nil (value : CanonicalValue) : wire value ≠ [] := by
  cases value <;> simp [wire, lengthBytes, Parser.headBytes_eq]

/-- The major type that starts the canonical form of a value. -/
def majorType : CanonicalValue → UInt8
  | .unsigned _ => 0
  | .negative _ => 1
  | .bytes _ => 2
  | .text _ => 3
  | .array _ => 4
  | .map _ => 5
  | .bool _ => 7
  | .null => 7

theorem shiftRight_eq_majorType {value : CanonicalValue} {initial : UInt8} {tail : List UInt8}
    (starts : initial :: tail = wire value) : initial >>> 5 = majorType value := by
  cases value with
  | unsigned value => exact ((cons_eq_headBytes (by decide)).mp starts).1
  | negative value => exact ((cons_eq_headBytes (by decide)).mp starts).1
  | bytes value => exact ((cons_eq_headBytes_append (by decide)).mp starts).1
  | text value => exact ((cons_eq_headBytes_append (by decide)).mp starts).1
  | array values => exact ((cons_eq_headBytes_append (by decide)).mp starts).1
  | map entries => exact ((cons_eq_headBytes_append (by decide)).mp starts).1
  | bool value =>
    obtain ⟨rfl, -⟩ := List.cons.inj starts
    cases value <;> rfl
  | null =>
    obtain ⟨rfl, -⟩ := List.cons.inj starts
    rfl

theorem textFromUtf8_eq_some {bytes : List UInt8} {text : String} :
    textFromUtf8 bytes = some text ↔ textBytes text = bytes := by
  have same : textBytes text = bytes ↔ (⟨bytes.toArray⟩ : ByteArray) = text.toByteArray := by
    constructor
    · rintro rfl
      simp [textBytes]
    · intro equal
      simp [textBytes, ← equal]
  rw [same]
  unfold textFromUtf8 String.fromUTF8?
  split
  case isTrue valid =>
    rw [Option.some.injEq, ← String.toByteArray_inj]
    exact Iff.rfl
  case isFalse invalid =>
    constructor
    · intro impossible
      cases impossible
    · intro equal
      exact absurd (equal ▸ text.isValidUTF8) invalid

/-- The canonical form of a map already in key order. -/
theorem wire_map_of_increasing {entries : List (CanonicalValue × CanonicalValue)}
    (increasing : KeysIncreasing entries) :
    wire (.map entries) = lengthBytes 5 entries.length ++
      entries.flatMap fun entry => wire entry.1 ++ wire entry.2 := by
  have ascend : KeysAscend (entries.map fun entry => (wire entry.1, entry.2)) :=
    List.pairwise_map.mpr increasing
  rw [Encoder.wire_map, Encoder.keySorted, ascend.sortByKey_eq, List.flatMap_map]

namespace Parser

/-! ## Values -/

/-- What may follow an initial byte: the rest of an admissible value in key order. -/
def DenotesContent (remaining : Nat) (initial : UInt8) : Denotes CanonicalValue :=
  fun value tail count => Fits (remaining + 1) value ∧ KeyOrdered value ∧
    initial :: tail = wire value ∧ 1 + count = itemCount value

section Content

variable {remaining : Nat} {initial : UInt8} {value : CanonicalValue} {tail : List UInt8}
variable {count : Nat}

theorem denotesContent_unsigned (major : initial >>> 5 = 0) :
    DenotesContent remaining initial value tail count ↔
      ∃ argument, value = .unsigned argument ∧
        argumentHead argument = (initial &&& 0x1f, tail) ∧ count = 0 := by
  constructor
  · rintro ⟨-, -, starts, items⟩
    have kind := (shiftRight_eq_majorType starts).symm.trans major
    cases value with
    | unsigned argument =>
      exact ⟨argument, rfl, ((cons_eq_headBytes (by decide)).mp starts).2,
        Nat.add_left_cancel items⟩
    | _ => cases kind
  · rintro ⟨argument, rfl, head, rfl⟩
    exact ⟨trivial, .unsigned _, (cons_eq_headBytes (by decide)).mpr ⟨major, head⟩, rfl⟩

theorem denotesContent_negative (major : initial >>> 5 = 1) :
    DenotesContent remaining initial value tail count ↔
      ∃ number : Int64, value = .negative number ∧ number < 0 ∧
        argumentHead (UInt64.ofNat (-1 - number.toInt).toNat) = (initial &&& 0x1f, tail) ∧
          count = 0 := by
  constructor
  · rintro ⟨fits, -, starts, items⟩
    have kind := (shiftRight_eq_majorType starts).symm.trans major
    cases value with
    | negative number =>
      exact ⟨number, rfl, fits, ((cons_eq_headBytes (by decide)).mp starts).2,
        Nat.add_left_cancel items⟩
    | _ => cases kind
  · rintro ⟨number, rfl, below, head, rfl⟩
    exact ⟨below, .negative _, (cons_eq_headBytes (by decide)).mpr ⟨major, head⟩, rfl⟩

/-- The two string kinds: a length head and as many payload bytes. -/
def DenotesPayload (initial : UInt8) (payload tail : List UInt8) : Prop :=
  payload.length < UInt64.size ∧ ∃ head,
    argumentHead (UInt64.ofNat payload.length) = (initial &&& 0x1f, head) ∧ tail = head ++ payload

theorem denotesContent_bytes (major : initial >>> 5 = 2) :
    DenotesContent remaining initial value tail count ↔
      ∃ payload, value = .bytes payload ∧ DenotesPayload initial payload tail ∧ count = 0 := by
  constructor
  · rintro ⟨fits, -, starts, items⟩
    have kind := (shiftRight_eq_majorType starts).symm.trans major
    cases value with
    | bytes payload =>
      exact ⟨payload, rfl, ⟨fits, ((cons_eq_headBytes_append (by decide)).mp starts).2⟩,
        Nat.add_left_cancel items⟩
    | _ => cases kind
  · rintro ⟨payload, rfl, ⟨fits, head⟩, rfl⟩
    exact ⟨fits, .bytes _, (cons_eq_headBytes_append (by decide)).mpr ⟨major, head⟩, rfl⟩

theorem denotesContent_text (major : initial >>> 5 = 3) :
    DenotesContent remaining initial value tail count ↔
      ∃ text, value = .text text ∧ DenotesPayload initial (textBytes text) tail ∧
        count = 0 := by
  constructor
  · rintro ⟨fits, -, starts, items⟩
    have kind := (shiftRight_eq_majorType starts).symm.trans major
    cases value with
    | text text =>
      exact ⟨text, rfl, ⟨fits, ((cons_eq_headBytes_append (by decide)).mp starts).2⟩,
        Nat.add_left_cancel items⟩
    | _ => cases kind
  · rintro ⟨text, rfl, ⟨fits, head⟩, rfl⟩
    exact ⟨fits, .text _, (cons_eq_headBytes_append (by decide)).mpr ⟨major, head⟩, rfl⟩

theorem denotesContent_array (major : initial >>> 5 = 4) :
    DenotesContent remaining initial value tail count ↔
      ∃ values, value = .array values ∧ values.length ≤ maxContainerEntries ∧
        (∀ value ∈ values, Fits remaining value ∧ KeyOrdered value) ∧
        (∃ head, argumentHead (UInt64.ofNat values.length) = (initial &&& 0x1f, head) ∧
          tail = head ++ values.flatMap wire) ∧ count = (values.map itemCount).sum := by
  have form (values : List CanonicalValue) :
      wire (.array values) = lengthBytes 4 values.length ++ values.flatMap wire := by
    rw [wire, wireValues_eq_map, List.flatMap_def]
  constructor
  · rintro ⟨fits, ordered, starts, items⟩
    have kind := (shiftRight_eq_majorType starts).symm.trans major
    cases value with
    | array values =>
      cases ordered with
      | array _ ordered =>
        rw [form] at starts
        rw [itemCount, Encoder.itemCounts_eq_sum] at items
        exact ⟨values, rfl, fits.1, fun value member => ⟨fits.2 value member,
          ordered value member⟩, ((cons_eq_headBytes_append (by decide)).mp starts).2,
          Nat.add_left_cancel items⟩
    | _ => cases kind
  · rintro ⟨values, rfl, within, holds, head, rfl⟩
    refine ⟨⟨within, fun value member => (holds value member).1⟩,
      .array _ fun value member => (holds value member).2, ?_, ?_⟩
    · rw [form]
      exact (cons_eq_headBytes_append (by decide)).mpr ⟨major, head⟩
    · rw [itemCount, Encoder.itemCounts_eq_sum]

theorem denotesContent_map (major : initial >>> 5 = 5) :
    DenotesContent remaining initial value tail count ↔
      ∃ entries, value = .map entries ∧ entries.length ≤ maxContainerEntries ∧
        (∀ entry ∈ entries, (Fits remaining entry.1 ∧ KeyOrdered entry.1) ∧
          (Fits remaining entry.2 ∧ KeyOrdered entry.2)) ∧
        KeysIncreasing entries ∧
        (∃ head, argumentHead (UInt64.ofNat entries.length) = (initial &&& 0x1f, head) ∧
          tail = head ++ entries.flatMap fun entry => wire entry.1 ++ wire entry.2) ∧
        count = entryItemCounts entries := by
  constructor
  · rintro ⟨fits, ordered, starts, items⟩
    have kind := (shiftRight_eq_majorType starts).symm.trans major
    cases value with
    | map entries =>
      cases ordered with
      | map _ increasing keys values =>
        rw [wire_map_of_increasing increasing] at starts
        exact ⟨entries, rfl, fits.1, fun entry member =>
          ⟨⟨(fits.2.1 entry member).1, keys entry member⟩,
            (fits.2.1 entry member).2, values entry member⟩, increasing,
          ((cons_eq_headBytes_append (by decide)).mp starts).2, Nat.add_left_cancel items⟩
    | _ => cases kind
  · rintro ⟨entries, rfl, within, holds, increasing, head, rfl⟩
    have ascend : KeysAscend (entries.map fun entry => (wire entry.1, entry.2)) :=
      List.pairwise_map.mpr increasing
    have distinct := ascend.keys_nodup
    rw [List.map_map] at distinct
    refine ⟨⟨within, fun entry member => ⟨(holds entry member).1.1, (holds entry member).2.1⟩,
      distinct⟩, .map _ increasing (fun entry member => (holds entry member).1.2)
      fun entry member => (holds entry member).2.2, ?_, rfl⟩
    rw [wire_map_of_increasing increasing]
    exact (cons_eq_headBytes_append (by decide)).mpr ⟨major, head⟩

theorem denotesContent_simple (major : initial >>> 5 = 7) :
    DenotesContent remaining initial value tail count ↔
      (value = .bool false ∧ initial &&& 0x1f = 20 ∨ value = .bool true ∧ initial &&& 0x1f = 21 ∨
        value = .null ∧ initial &&& 0x1f = 22) ∧ tail = [] ∧ count = 0 := by
  have join {low : UInt8} (code : initial &&& 0x1f = low) :
      initial = (7 : UInt8) <<< 5 ||| low := by
    rw [← code, ← major, initialByte_split]
  constructor
  · rintro ⟨-, -, starts, items⟩
    have kind := (shiftRight_eq_majorType starts).symm.trans major
    cases value with
    | bool value =>
      obtain ⟨rfl, rfl⟩ := List.cons.inj starts
      cases value with
      | false => exact ⟨.inl ⟨rfl, by decide⟩, rfl, Nat.add_left_cancel items⟩
      | true => exact ⟨.inr (.inl ⟨rfl, by decide⟩), rfl, Nat.add_left_cancel items⟩
    | null =>
      obtain ⟨rfl, rfl⟩ := List.cons.inj starts
      exact ⟨.inr (.inr ⟨rfl, by decide⟩), rfl, Nat.add_left_cancel items⟩
    | _ => cases kind
  · rintro ⟨⟨rfl, code⟩ | ⟨rfl, code⟩ | ⟨rfl, code⟩, rfl, rfl⟩
    · exact ⟨trivial, .bool _, by rw [join code]; rfl, rfl⟩
    · exact ⟨trivial, .bool _, by rw [join code]; rfl, rfl⟩
    · exact ⟨trivial, .null, by rw [join code]; rfl, rfl⟩

end Content

section Values

variable {limit : UInt64} {remaining : Nat}
variable {parse : Parser → Except CanonicalCborError (CanonicalValue × Parser)}

/-- A string kind: a length head, that many bytes, and a conversion that reads
nothing more.  The byte limit adds nothing to what the input has to cover. -/
theorem readPayload_reads {γ : Type} (initial : UInt8)
    (convert : List UInt8 → Except CanonicalCborError γ) (image : γ → CanonicalValue) :
    Reads limit (fun parser => do
        let (length, parser) ← parser.readLength (initial &&& 0x1f)
        let (payload, parser) ← parser.readExact length
        let content ← convert payload
        return (image content, parser))
      fun value tail count => ∃ payload content, convert payload = .ok content ∧
        image content = value ∧ DenotesPayload initial payload tail ∧ count = 0 := by
  have converted (payload : List UInt8) :
      Reads limit (fun parser => do let content ← convert payload; return (image content, parser))
        fun value bytes count => ∃ content, convert payload = .ok content ∧
          image content = value ∧ bytes = [] ∧ count = 0 := by
    cases convert payload with
    | error error => exact (Reads.fail error).congr (by simp)
    | ok content => exact (Reads.pure (image content)).congr (by simp)
  refine ((readLength_reads (initial &&& 0x1f)).andThen fun length =>
    (readExact_reads length).andThen converted).congr ?_
  intro value tail count covered
  have small := limit.toNat_lt
  constructor
  · rintro ⟨_, head, _, _, _, ⟨within, split, rfl⟩, ⟨_, payload, _, _, _, ⟨rfl, rfl, rfl⟩,
      ⟨content, converts, same, rfl, rfl⟩, rfl, rfl⟩, rfl, rfl⟩
    exact ⟨payload, content, converts, same,
      ⟨Nat.lt_of_le_of_lt within small, head, split, by simp⟩, rfl⟩
  · rintro ⟨payload, content, converts, same, ⟨-, head, split, rfl⟩, rfl⟩
    rw [List.length_append] at covered
    exact ⟨_, head, 0, _, 0, ⟨by omega, split, rfl⟩, ⟨payload, payload, 0, [], 0,
      ⟨rfl, rfl, rfl⟩, ⟨content, converts, same, rfl, rfl⟩, by simp, rfl⟩, rfl, rfl⟩

/-- A value has at least one byte, so the entries of a container are no more than
its bytes. -/
theorem length_le_length_flatMap {α : Type} (elements : List α) (bytes : α → List UInt8)
    (nonempty : ∀ element, bytes element ≠ []) :
    elements.length ≤ (elements.flatMap bytes).length := by
  induction elements with
  | nil => simp
  | cons element rest ih =>
    have positive := List.length_pos_iff.mpr (nonempty element)
    simp only [List.length_cons, List.flatMap_cons, List.length_append]
    omega

/-- Arguments of the negative kind stay in the signed range. -/
theorem toInt_negative {argument : Nat} (within : argument ≤ 2 ^ 63 - 1) :
    (Int64.ofInt (-1 - argument)).toInt = -1 - argument :=
  Int64.toInt_ofInt_of_le (by omega) (by omega)

theorem ofNat_negativeArgument (argument : UInt64) :
    UInt64.ofNat (-1 - (-1 - (argument.toNat : Int))).toNat = argument := by
  have same : (-1 - (-1 - (argument.toNat : Int))).toNat = argument.toNat := by omega
  rw [same, UInt64.ofNat_toNat]

theorem parseContent_reads
    (reads : Reads limit parse (DenotesValue fun value => Fits remaining value ∧ KeyOrdered value))
    (initial : UInt8) :
    Reads limit (parseContent parse initial) (DenotesContent remaining initial) := by
  have major {code : UInt8} (top : (initial >>> 5).toNat = code.toNat) : initial >>> 5 = code :=
    UInt8.toNat_inj.mp top
  unfold parseContent
  dsimp only
  split
  case h_1 top =>
    refine ((readArgument_reads _).map CanonicalValue.unsigned).congr ?_
    intro value tail count _
    rw [denotesContent_unsigned (major top)]
    simp only [eq_comm]
  case h_2 top =>
    refine ((readArgument_reads _).andThen fun argument =>
      (Reads.pure (CanonicalValue.negative (Int64.ofInt (-1 - argument.toNat)))).unless
        (argument.toNat > 2 ^ 63 - 1) .integerOutOfRange).congr ?_
    intro value tail count _
    rw [denotesContent_negative (major top)]
    constructor
    · rintro ⟨argument, head, _, _, _, ⟨split, rfl⟩, ⟨within, rfl, rfl, rfl⟩, rfl, rfl⟩
      have exactly := toInt_negative (Nat.le_of_not_lt within)
      refine ⟨_, rfl, ?_, ?_, rfl⟩
      · rw [Int64.lt_iff_toInt_lt, exactly, Int64.toInt_zero]
        omega
      · rw [exactly, ofNat_negativeArgument]
        simpa using split
    · rintro ⟨number, rfl, below, split, rfl⟩
      rw [Int64.lt_iff_toInt_lt, Int64.toInt_zero] at below
      have low := number.le_toInt
      have small : (-1 - number.toInt).toNat < UInt64.size := by
        simp only [UInt64.size]
        omega
      have exactly : (UInt64.ofNat (-1 - number.toInt).toNat).toNat = (-1 - number.toInt).toNat :=
        UInt64.toNat_ofNat_of_lt small
      have back : (-1 : Int) - (UInt64.ofNat (-1 - number.toInt).toNat).toNat = number.toInt := by
        rw [exactly]
        omega
      exact ⟨_, tail, 0, [], 0, ⟨split, rfl⟩, ⟨by omega, by rw [back, Int64.ofInt_toInt], rfl, rfl⟩,
        by simp, rfl⟩
  case h_3 top =>
    refine (readPayload_reads initial .ok CanonicalValue.bytes).congr ?_
    intro value tail count _
    rw [denotesContent_bytes (major top)]
    simp [eq_comm]
  case h_4 top =>
    refine (readPayload_reads initial (fun payload => okOr (textFromUtf8 payload) .invalidUtf8)
      CanonicalValue.text).congr ?_
    intro value tail count _
    rw [denotesContent_text (major top)]
    simp only [okOr_eq_ok, textFromUtf8_eq_some]
    constructor
    · rintro ⟨_, text, rfl, rfl, denotes, rfl⟩
      exact ⟨text, rfl, denotes, rfl⟩
    · rintro ⟨text, rfl, denotes, rfl⟩
      exact ⟨_, text, rfl, rfl, denotes, rfl⟩
  case h_5 top =>
    refine ((readContainerLength_reads _).andThen fun length =>
      (parseValues_reads reads length).map CanonicalValue.array).congr ?_
    intro value tail count covered
    rw [denotesContent_array (major top)]
    constructor
    · rintro ⟨_, head, _, _, _, ⟨within, -, split, rfl⟩, ⟨values, rfl, rfl, holds, rfl, rfl⟩,
        rfl, rfl⟩
      exact ⟨values, rfl, within, holds, ⟨head, split, rfl⟩, Nat.zero_add _⟩
    · rintro ⟨values, rfl, within, holds, ⟨head, split, rfl⟩, rfl⟩
      have sized := length_le_length_flatMap values wire wire_ne_nil
      rw [List.length_append] at covered
      exact ⟨_, head, 0, _, _, ⟨within, by omega, split, rfl⟩,
        ⟨values, rfl, rfl, holds, rfl, rfl⟩, rfl, (Nat.zero_add _).symm⟩
  case h_6 top =>
    refine ((readContainerLength_reads _).andThen fun length =>
      (parseEntries_reads reads length none).map CanonicalValue.map).congr ?_
    intro value tail count covered
    rw [denotesContent_map (major top)]
    simp only [keysFollow_none]
    constructor
    · rintro ⟨_, head, _, _, _, ⟨within, -, split, rfl⟩,
        ⟨entries, rfl, rfl, holds, increasing, rfl, rfl⟩, rfl, rfl⟩
      exact ⟨entries, rfl, within, holds, increasing, ⟨head, split, rfl⟩, Nat.zero_add _⟩
    · rintro ⟨entries, rfl, within, holds, increasing, ⟨head, split, rfl⟩, rfl⟩
      have sized := length_le_length_flatMap entries (fun entry => wire entry.1 ++ wire entry.2)
        fun entry => List.append_ne_nil_of_left_ne_nil (wire_ne_nil entry.1) _
      rw [List.length_append] at covered
      exact ⟨_, head, 0, _, _, ⟨within, by omega, split, rfl⟩,
        ⟨entries, rfl, rfl, holds, increasing, rfl, rfl⟩, rfl, (Nat.zero_add _).symm⟩
  case h_7 top =>
    refine (Reads.fail _).congr ?_
    intro value tail count _
    refine ⟨False.elim, fun denotes => ?_⟩
    have tagged : initial >>> 5 = 6 := major top
    have kind := (shiftRight_eq_majorType denotes.2.2.1).symm.trans tagged
    cases value <;> cases kind
  case h_8 not0 not1 not2 not3 not4 not5 not6 =>
    have seven : initial >>> 5 = 7 := by
      have bound := initial.toNat_lt
      have shifted : (initial >>> 5).toNat = initial.toNat / 32 := by
        simp [Nat.shiftRight_eq_div_pow]
      refine major (?_ : _ = 7)
      simp only [imp_false] at not0 not1 not2 not3 not4 not5 not6
      omega
    have simple (code : UInt8) (low : (initial &&& 0x1f).toNat = code.toNat) :
        initial &&& 0x1f = code := UInt8.toNat_inj.mp low
    have rejected (error : CanonicalCborError) (notFalse : initial &&& 0x1f ≠ 20)
        (notTrue : initial &&& 0x1f ≠ 21) (notNull : initial &&& 0x1f ≠ 22) :
        Reads limit (fun _ => .error error) (DenotesContent remaining initial) := by
      refine (Reads.fail error).congr fun value tail count _ => ?_
      rw [denotesContent_simple seven]
      simp [notFalse, notTrue, notNull]
    split
    case h_1 low =>
      refine (Reads.pure (CanonicalValue.bool false)).congr fun value tail count _ => ?_
      rw [denotesContent_simple seven, simple 20 low]
      simp [eq_comm]
    case h_2 low =>
      refine (Reads.pure (CanonicalValue.bool true)).congr fun value tail count _ => ?_
      rw [denotesContent_simple seven, simple 21 low]
      simp [eq_comm]
    case h_3 low =>
      refine (Reads.pure CanonicalValue.null).congr fun value tail count _ => ?_
      rw [denotesContent_simple seven, simple 22 low]
      simp [eq_comm]
    case h_4 low => apply rejected <;> rw [simple 25 low] <;> decide
    case h_5 low => apply rejected <;> rw [simple 26 low] <;> decide
    case h_6 low => apply rejected <;> rw [simple 27 low] <;> decide
    case h_7 low => apply rejected <;> rw [simple 31 low] <;> decide
    case h_8 not20 not21 not22 _ _ _ _ =>
      exact rejected _ (fun same => not20 (congrArg UInt8.toNat same))
        (fun same => not21 (congrArg UInt8.toNat same))
        fun same => not22 (congrArg UInt8.toNat same)

/-- Charging the item of a value before its first byte is read. -/
theorem Reads.charged {α : Type} {step : Parser → Except CanonicalCborError (α × Parser)}
    {denotes : Denotes α} (reads : Reads limit step denotes) :
    Reads limit (fun parser => do
        let items ← okOr (checkedAddUsize parser.items 1) .containerTooLarge
        rejectIf (items > maxTotalItems) .containerTooLarge
        step { parser with items })
      fun value bytes count => ∃ inner, denotes value bytes inner ∧ count = 1 + inner := by
  intro parser wellFormed value after
  have small : maxTotalItems < UInt64.size := by decide
  have step := fun within : parser.items + 1 ≤ maxTotalItems =>
    reads { parser with items := parser.items + 1 }
      ⟨wellFormed.position_le, wellFormed.input_le, wellFormed.limit_eq, within⟩ value after
  simp only [bind_eq_ok, okOr_eq_ok, checkedAddUsize_eq_some, rejectIf_eq_ok, exists_const,
    Nat.not_lt, gt_iff_lt]
  constructor
  · rintro ⟨items, ⟨-, rfl⟩, within, run⟩
    obtain ⟨bytes, inner, meaning, next, budget, rfl⟩ := (step within).mp run
    dsimp only at budget
    exact ⟨bytes, 1 + inner, ⟨inner, meaning, rfl⟩, next, by omega, by
      simp [advance, Nat.add_assoc]⟩
  · rintro ⟨bytes, _, ⟨inner, meaning, rfl⟩, next, budget, rfl⟩
    have within : parser.items + 1 ≤ maxTotalItems := by omega
    refine ⟨_, ⟨by omega, rfl⟩, within, (step within).mpr ⟨bytes, inner, meaning, next, ?_, by
      simp [advance, Nat.add_assoc]⟩⟩
    dsimp only
    omega

/-- The parser returns exactly the key-ordered admissible values whose canonical
form is next in the input, and consumes that form. -/
theorem parseValue_reads (limit : UInt64) (remaining : Nat) :
    Reads limit (parseValue remaining)
      (DenotesValue fun value => Fits remaining value ∧ KeyOrdered value) := by
  induction remaining with
  | zero =>
    refine (Reads.fail .depthLimit).congr ?_
    simp [DenotesValue, Fits]
  | succ remaining ih =>
    refine (readByte_reads.andThen (parseContent_reads ih)).charged.congr ?_
    intro value bytes count _
    constructor
    · rintro ⟨_, ⟨initial, _, _, tail, inner, ⟨rfl, rfl⟩, ⟨fits, ordered, starts, items⟩,
        rfl, rfl⟩, rfl⟩
      exact ⟨⟨fits, ordered⟩, starts, by omega⟩
    · rintro ⟨⟨fits, ordered⟩, rfl, rfl⟩
      obtain ⟨initial, tail, split⟩ := List.exists_cons_of_ne_nil (wire_ne_nil value)
      have positive : 1 + (itemCount value - 1) = itemCount value := by
        cases value <;> simp [itemCount]
      exact ⟨itemCount value - 1, ⟨initial, [initial], 0, tail, _, ⟨rfl, rfl⟩,
        ⟨fits, ordered, split.symm, positive⟩, split, (Nat.zero_add _).symm⟩, positive.symm⟩

end Values

end Parser

theorem decodeDeterministicCborWithLimit_eq_ok {input : List UInt8} {limit : UInt64}
    {value : CanonicalValue} :
    decodeDeterministicCborWithLimit input limit = .ok value ↔
      Encodable limit value ∧ KeyOrdered value ∧ wire value = input := by
  simp only [decodeDeterministicCborWithLimit, bind_eq_ok, rejectIf_eq_ok, exists_const, not_or,
    Nat.not_lt, gt_iff_lt]
  constructor
  · rintro ⟨⟨nonzero, covered⟩, ⟨result, parser⟩, run, stop⟩
    have start : Parser.WellFormed limit ⟨input, 0, 0, limit⟩ :=
      ⟨Nat.zero_le _, covered, rfl, Nat.zero_le _⟩
    obtain ⟨_, _, ⟨⟨fits, ordered⟩, rfl, rfl⟩, next, budget, rfl⟩ :=
      (Parser.parseValue_reads limit _ _ start result parser).mp run
    simp only [Parser.advance, Nat.zero_add, not_not, pure_eq_ok] at stop
    obtain ⟨whole, rfl⟩ := stop
    have same : wire result = input := next.eq_of_length whole
    exact ⟨⟨nonzero, fits, same ▸ covered, by simpa using budget⟩, ordered, same⟩
  · rintro ⟨⟨nonzero, fits, covered, budget⟩, ordered, rfl⟩
    have start : Parser.WellFormed limit ⟨wire value, 0, 0, limit⟩ :=
      ⟨Nat.zero_le _, covered, rfl, Nat.zero_le _⟩
    refine ⟨⟨nonzero, covered⟩, (value, _), (Parser.parseValue_reads limit _ _ start _ _).mpr
      ⟨_, _, ⟨⟨fits, ordered⟩, rfl, rfl⟩, List.prefix_rfl, by simpa using budget, rfl⟩, ?_⟩
    simp [Parser.advance]

end Dirextalk.Wire
