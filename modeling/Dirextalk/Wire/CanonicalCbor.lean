import Dirextalk.Lib.Fallible
import Dirextalk.Lib.Sorting

/-!
# The deterministic CBOR profile

Encoder and parser of the restricted CBOR value set that every signed and hashed
contract uses.  Both are bounded: nesting depth, entries in one container, items
in the whole tree, and encoded bytes.  Recursion is on the number of nesting
levels still allowed, so the depth limit of the source is the termination
argument of both directions.  The canonical form of a value is its meaning without
the limits.
-/

namespace Dirextalk.Wire

open Lib

def maxEncodedBytes : UInt64 := 1024 * 1024
def maxDepth : Nat := 32
def maxContainerEntries : Nat := 4096
def maxTotalItems : Nat := 65536

/-- The restricted CBOR value set supported by signed and hashed v1 contracts. -/
inductive CanonicalValue where
  | unsigned (value : UInt64)
  /-- Non-negative payloads are representable and rejected by the encoder. -/
  | negative (value : Int64)
  | bytes (value : List UInt8)
  | text (value : String)
  | array (values : List CanonicalValue)
  | map (entries : List (CanonicalValue × CanonicalValue))
  | bool (value : Bool)
  | null

/-- Converts a typed contract value into the restricted canonical CBOR model. -/
class CanonicalEncode (α : Type) where
  toCanonicalValue : α → CanonicalValue

export CanonicalEncode (toCanonicalValue)

instance : CanonicalEncode CanonicalValue := ⟨id⟩

/-- Why bytes are not canonical. -/
inductive CanonicalCborError where
  | inputTooLarge
  | depthLimit
  | containerTooLarge
  | unexpectedEnd
  | reservedAdditionalInformation
  | indefiniteLength
  | nonPreferredArgument
  | invalidNegativeValue
  | integerOutOfRange
  | lengthOutOfRange
  | invalidUtf8
  | mapKeyOrder
  | duplicateMapKey
  | tagNotAllowed
  | floatingPointNotAllowed
  | simpleValueNotAllowed
  | trailingBytes
  deriving DecidableEq, Repr

/-- `usize::checked_add` on a 64-bit host. -/
def checkedAddUsize (left right : Nat) : Option Nat :=
  if left + right < UInt64.size then some (left + right) else none

/-- The UTF-8 bytes of a string, `str::as_bytes`. -/
def textBytes (text : String) : List UInt8 :=
  text.toByteArray.data.toList

/-- `std::str::from_utf8`. -/
def textFromUtf8 (bytes : List UInt8) : Option String :=
  String.fromUTF8? ⟨bytes.toArray⟩

/-! ## Encoder -/

/-- The bytes written so far and the budgets. -/
structure Encoder where
  output : List UInt8
  items : Nat
  maxEncodedBytes : UInt64

namespace Encoder

def new (maxEncodedBytes : UInt64) : Encoder := ⟨[], 0, maxEncodedBytes⟩

/-- Containers have a limited number of entries. -/
def checkContainer (entries : Nat) : Except CanonicalCborError Unit :=
  rejectIf (entries > maxContainerEntries) .containerTooLarge

/-- Counts values against their limit. -/
def chargeItems (encoder : Encoder) (count : Nat) : Except CanonicalCborError Encoder := do
  let items ← okOr (checkedAddUsize encoder.items count) .containerTooLarge
  rejectIf (items > maxTotalItems) .containerTooLarge
  return { encoder with items }

/-- Appends bytes within the limit. -/
def write (encoder : Encoder) (bytes : List UInt8) : Except CanonicalCborError Encoder := do
  let newLength ← okOr (checkedAddUsize encoder.output.length bytes.length) .inputTooLarge
  rejectIf (newLength > encoder.maxEncodedBytes.toNat) .inputTooLarge
  return { encoder with output := encoder.output ++ bytes }

/-- Writes the shortest head carrying `argument` for a major type. -/
def writeHead (encoder : Encoder) (major : UInt8) (argument : UInt64) :
    Except CanonicalCborError Encoder :=
  let marker := major <<< 5
  if argument.toNat < 24 then
    encoder.write [marker ||| argument.toUInt8]
  else if argument.toNat < 2 ^ 8 then
    encoder.write [marker ||| 0x18, argument.toUInt8]
  else if argument.toNat < 2 ^ 16 then do
    (← encoder.write [marker ||| 0x19]).write (toBeBytes 2 argument.toNat)
  else if argument.toNat < 2 ^ 32 then do
    (← encoder.write [marker ||| 0x1a]).write (toBeBytes 4 argument.toNat)
  else do
    (← encoder.write [marker ||| 0x1b]).write (toBeBytes 8 argument.toNat)

/-- A head that carries a length. -/
def writeLength (encoder : Encoder) (major : UInt8) (length : Nat) :
    Except CanonicalCborError Encoder := do
  rejectIf (length ≥ UInt64.size) .lengthOutOfRange
  encoder.writeHead major (UInt64.ofNat length)

/-- The first pass over a map's entries.  Each key is encoded by a fresh
encoder, whose items are charged here; the key bytes collected so far are held
against the byte limit together with what is already written. -/
def encodeKeys (encodeKey : CanonicalValue → Encoder → Except CanonicalCborError Encoder) :
    List (CanonicalValue × CanonicalValue) → Encoder → Nat →
      Except CanonicalCborError (Encoder × List (List UInt8 × CanonicalValue))
  | [], encoder, _ => .ok (encoder, [])
  | (key, value) :: rest, encoder, pendingKeyBytes => do
      let keyEncoder ← encodeKey key (Encoder.new encoder.maxEncodedBytes)
      let encoder ← encoder.chargeItems keyEncoder.items
      let pendingKeyBytes ←
        okOr (checkedAddUsize pendingKeyBytes keyEncoder.output.length) .inputTooLarge
      let projectedBytes ←
        okOr (checkedAddUsize encoder.output.length pendingKeyBytes) .inputTooLarge
      rejectIf (projectedBytes > encoder.maxEncodedBytes.toNat) .inputTooLarge
      let (encoder, keyed) ← encodeKeys encodeKey rest encoder pendingKeyBytes
      return (encoder, (keyEncoder.output, value) :: keyed)

/-- Encodes one value with `remaining = maxDepth + 1 - depth` levels left. -/
def encode : (remaining : Nat) → CanonicalValue → Encoder → Except CanonicalCborError Encoder
  | 0, _, _ => .error .depthLimit
  | remaining + 1, value, encoder => do
      let encoder ← encoder.chargeItems 1
      match value with
      | .unsigned value => encoder.writeHead 0 value
      | .negative value => do
          rejectIf (value ≥ 0) .invalidNegativeValue
          let argument := -1 - value.toInt
          rejectIf (argument < 0 ∨ argument ≥ UInt64.size) .integerOutOfRange
          encoder.writeHead 1 (UInt64.ofNat argument.toNat)
      | .bytes value => do
          (← encoder.writeLength 2 value.length).write value
      | .text value => do
          (← encoder.writeLength 3 (textBytes value).length).write (textBytes value)
      | .array values => do
          checkContainer values.length
          let encoder ← encoder.writeLength 4 values.length
          values.foldlM (fun encoder value => encode remaining value encoder) encoder
      | .map entries => do
          checkContainer entries.length
          let (encoder, keyed) ← encodeKeys (encode remaining) entries encoder 0
          let sorted := sortByKey keyed
          rejectIf (hasAdjacentDuplicate sorted = true) .duplicateMapKey
          let encoder ← encoder.writeLength 5 sorted.length
          sorted.foldlM (fun encoder entry => do
            encode remaining entry.2 (← encoder.write entry.1)) encoder
      | .bool false => encoder.write [0xf4]
      | .bool true => encoder.write [0xf5]
      | .null => encoder.write [0xf6]

end Encoder

/-- The canonical encoding, within a limit. -/
def encodeDeterministicCborWithLimit {α : Type} [CanonicalEncode α] (value : α)
    (maxEncodedBytes : UInt64) : Except CanonicalCborError (List UInt8) := do
  rejectIf (maxEncodedBytes = 0) .inputTooLarge
  let encoder ←
    Encoder.encode (maxDepth + 1) (toCanonicalValue value) (Encoder.new maxEncodedBytes)
  return encoder.output

/-- The canonical encoding, within the default limit. -/
def encodeDeterministicCbor {α : Type} [CanonicalEncode α] (value : α) :
    Except CanonicalCborError (List UInt8) :=
  encodeDeterministicCborWithLimit value maxEncodedBytes

/-! ## Parser -/

/-- The input, the position in it and the budgets. -/
structure Parser where
  input : List UInt8
  position : Nat
  items : Nat
  maxEncodedBytes : UInt64

namespace Parser

variable (parser : Parser)

/-- The next byte. -/
def readByte : Except CanonicalCborError (UInt8 × Parser) := do
  let value ← okOr parser.input[parser.position]? .unexpectedEnd
  return (value, { parser with position := parser.position + 1 })

/-- `input.get(position..position + length)`. -/
def readExact (length : Nat) : Except CanonicalCborError (List UInt8 × Parser) := do
  let stop ← okOr (checkedAddUsize parser.position length) .unexpectedEnd
  rejectIf (stop > parser.input.length) .unexpectedEnd
  return ((parser.input.drop parser.position).take length, { parser with position := stop })

/-- Reads a big-endian word of `width` bytes that must not fit below `narrower`,
the range of the next shorter head. -/
def readWord (width narrower : Nat) : Except CanonicalCborError (UInt64 × Parser) := do
  let (bytes, parser) ← parser.readExact width
  let value := ofBeBytes bytes
  rejectIf (value < narrower) .nonPreferredArgument
  return (UInt64.ofNat value, parser)

/-- The argument of a head, which has to be the shortest. -/
def readArgument (additional : UInt8) : Except CanonicalCborError (UInt64 × Parser) :=
  match additional.toNat with
  | 24 => do
      let (value, parser) ← parser.readByte
      rejectIf (value.toNat < 24) .nonPreferredArgument
      return (value.toUInt64, parser)
  | 25 => parser.readWord 2 (2 ^ 8)
  | 26 => parser.readWord 4 (2 ^ 16)
  | 27 => parser.readWord 8 (2 ^ 32)
  | 31 => .error .indefiniteLength
  | small => do
      -- 28 to 30 are reserved; the remaining codes carry the argument itself.
      rejectIf (small ≥ 28) .reservedAdditionalInformation
      return (additional.toUInt64, parser)

/-- A declared length: on a 64-bit host the `usize` conversion cannot fail. -/
def readLength (additional : UInt8) : Except CanonicalCborError (Nat × Parser) := do
  let (length, parser) ← parser.readArgument additional
  rejectIf (length.toNat > parser.maxEncodedBytes.toNat) .inputTooLarge
  return (length.toNat, parser)

/-- The number of entries of a container. -/
def readContainerLength (additional : UInt8) : Except CanonicalCborError (Nat × Parser) := do
  let (length, parser) ← parser.readLength additional
  rejectIf (length > maxContainerEntries) .containerTooLarge
  return (length, parser)

/-- `for _ in 0..length { values.push(parse()?) }`. -/
def parseValues (parse : Parser → Except CanonicalCborError (CanonicalValue × Parser)) :
    Nat → Parser → Except CanonicalCborError (List CanonicalValue × Parser)
  | 0, parser => .ok ([], parser)
  | length + 1, parser => do
      let (value, parser) ← parse parser
      let (values, parser) ← parseValues parse length parser
      return (value :: values, parser)

/-- Each key must be bytewise above the key before it. -/
def checkKeyOrder (previousKey : Option (List UInt8)) (key : List UInt8) :
    Except CanonicalCborError Unit :=
  match previousKey with
  | none => .ok ()
  | some previous =>
      match compare previous key with
      | .eq => .error .duplicateMapKey
      | .gt => .error .mapKeyOrder
      | .lt => .ok ()

/-- The loop over a map's entries, comparing the exact input bytes of the keys. -/
def parseEntries (parse : Parser → Except CanonicalCborError (CanonicalValue × Parser)) :
    Nat → Option (List UInt8) → Parser →
      Except CanonicalCborError (List (CanonicalValue × CanonicalValue) × Parser)
  | 0, _, parser => .ok ([], parser)
  | length + 1, previousKey, parser => do
      let keyStart := parser.position
      let (keyValue, parser) ← parse parser
      let key := (parser.input.drop keyStart).take (parser.position - keyStart)
      checkKeyOrder previousKey key
      let (value, parser) ← parse parser
      let (entries, parser) ← parseEntries parse length (some key) parser
      return ((keyValue, value) :: entries, parser)

/-- What follows the initial byte of a value, by the major type in its top bits;
`parse` reads a value one level deeper. -/
def parseContent (parse : Parser → Except CanonicalCborError (CanonicalValue × Parser))
    (initial : UInt8) (parser : Parser) : Except CanonicalCborError (CanonicalValue × Parser) :=
  let additional := initial &&& 0x1f
  match (initial >>> 5).toNat with
  | 0 => do
      let (value, parser) ← parser.readArgument additional
      return (.unsigned value, parser)
  | 1 => do
      let (argument, parser) ← parser.readArgument additional
      rejectIf (argument.toNat > 2 ^ 63 - 1) .integerOutOfRange
      return (.negative (Int64.ofInt (-1 - argument.toNat)), parser)
  | 2 => do
      let (length, parser) ← parser.readLength additional
      let (bytes, parser) ← parser.readExact length
      return (.bytes bytes, parser)
  | 3 => do
      let (length, parser) ← parser.readLength additional
      let (bytes, parser) ← parser.readExact length
      let text ← okOr (textFromUtf8 bytes) .invalidUtf8
      return (.text text, parser)
  | 4 => do
      let (length, parser) ← parser.readContainerLength additional
      let (values, parser) ← parseValues parse length parser
      return (.array values, parser)
  | 5 => do
      let (length, parser) ← parser.readContainerLength additional
      let (entries, parser) ← parseEntries parse length none parser
      return (.map entries, parser)
  | 6 => .error .tagNotAllowed
  | _ =>
      match additional.toNat with
      | 20 => .ok (.bool false, parser)
      | 21 => .ok (.bool true, parser)
      | 22 => .ok (.null, parser)
      | 25 | 26 | 27 => .error .floatingPointNotAllowed
      | 31 => .error .indefiniteLength
      | _ => .error .simpleValueNotAllowed

/-- Parses one value with `remaining = maxDepth + 1 - depth` levels left. -/
def parseValue : (remaining : Nat) → Parser →
    Except CanonicalCborError (CanonicalValue × Parser)
  | 0, _ => .error .depthLimit
  | remaining + 1, parser => do
      let items ← okOr (checkedAddUsize parser.items 1) .containerTooLarge
      rejectIf (items > maxTotalItems) .containerTooLarge
      let (initial, parser) ← Parser.readByte { parser with items }
      parseContent (parseValue remaining) initial parser

end Parser

/-- Reads one canonical value that takes up the whole input. -/
def decodeDeterministicCborWithLimit (input : List UInt8) (maxEncodedBytes : UInt64) :
    Except CanonicalCborError CanonicalValue := do
  rejectIf (maxEncodedBytes = 0 ∨ input.length > maxEncodedBytes.toNat) .inputTooLarge
  let (value, parser) ← Parser.parseValue (maxDepth + 1) ⟨input, 0, 0, maxEncodedBytes⟩
  rejectIf (parser.position ≠ input.length) .trailingBytes
  return value

/-- Decoding within the default limit. -/
def decodeDeterministicCbor (input : List UInt8) : Except CanonicalCborError CanonicalValue :=
  decodeDeterministicCborWithLimit input maxEncodedBytes

/-! ## Canonical form of a value -/

namespace CanonicalValue

/-- Induction on values with the hypotheses collected per container. -/
@[elab_as_elim]
theorem byContainers {property : CanonicalValue → Prop}
    (unsigned : ∀ value, property (.unsigned value))
    (negative : ∀ value, property (.negative value))
    (bytes : ∀ value, property (.bytes value))
    (text : ∀ value, property (.text value))
    (array : ∀ values, (∀ value ∈ values, property value) → property (.array values))
    (map : ∀ entries, (∀ entry ∈ entries, property entry.1 ∧ property entry.2) →
      property (.map entries))
    (bool : ∀ value, property (.bool value))
    (null : property .null) (value : CanonicalValue) : property value :=
  @CanonicalValue.rec property
    (fun values => ∀ value ∈ values, property value)
    (fun entries => ∀ entry ∈ entries, property entry.1 ∧ property entry.2)
    (fun entry => property entry.1 ∧ property entry.2)
    unsigned negative bytes text array map bool null
    (List.forall_mem_nil _) (fun _ _ head tail => List.forall_mem_cons.mpr ⟨head, tail⟩)
    (List.forall_mem_nil _) (fun _ _ head tail => List.forall_mem_cons.mpr ⟨head, tail⟩)
    (fun _ _ key value => ⟨key, value⟩) value

/-! ## Equality -/

mutual

/-- Equality of values, decided by recursion. -/
def same : CanonicalValue → CanonicalValue → Bool
  | .unsigned left, .unsigned right => left = right
  | .negative left, .negative right => left = right
  | .bytes left, .bytes right => left = right
  | .text left, .text right => left = right
  | .array left, .array right => sameValues left right
  | .map left, .map right => sameEntries left right
  | .bool left, .bool right => left = right
  | .null, .null => true
  | _, _ => false

def sameValues : List CanonicalValue → List CanonicalValue → Bool
  | [], [] => true
  | left :: lefts, right :: rights => same left right && sameValues lefts rights
  | _, _ => false

def sameEntries :
    List (CanonicalValue × CanonicalValue) → List (CanonicalValue × CanonicalValue) → Bool
  | [], [] => true
  | (leftKey, left) :: lefts, (rightKey, right) :: rights =>
      same leftKey rightKey && same left right && sameEntries lefts rights
  | _, _ => false

end

theorem sameValues_iff {lefts rights : List CanonicalValue}
    (each : ∀ left ∈ lefts, ∀ right, same left right = true ↔ left = right) :
    sameValues lefts rights = true ↔ lefts = rights := by
  induction lefts generalizing rights with
  | nil => cases rights <;> simp [sameValues]
  | cons left lefts ih =>
    have rest {others : List CanonicalValue} : sameValues lefts others = true ↔ lefts = others :=
      ih fun other member => each other (List.mem_cons_of_mem _ member)
    cases rights with
    | nil => simp [sameValues]
    | cons right rights => simp [sameValues, each left List.mem_cons_self, rest]

theorem sameEntries_iff {lefts rights : List (CanonicalValue × CanonicalValue)}
    (each : ∀ left ∈ lefts, (∀ right, same left.1 right = true ↔ left.1 = right) ∧
      ∀ right, same left.2 right = true ↔ left.2 = right) :
    sameEntries lefts rights = true ↔ lefts = rights := by
  induction lefts generalizing rights with
  | nil => cases rights <;> simp [sameEntries]
  | cons left lefts ih =>
    have rest {others : List (CanonicalValue × CanonicalValue)} :
        sameEntries lefts others = true ↔ lefts = others :=
      ih fun other member => each other (List.mem_cons_of_mem _ member)
    have first := each left List.mem_cons_self
    cases rights with
    | nil => simp [sameEntries]
    | cons right rights => simp [sameEntries, first, rest, Prod.ext_iff]

theorem same_iff {left right : CanonicalValue} : same left right = true ↔ left = right := by
  induction left using byContainers generalizing right with
  | array values ih =>
    cases right with
    | array others => simpa [same] using sameValues_iff fun value member _ => ih value member
    | _ => simp [same]
  | map entries ih =>
    cases right with
    | map others =>
      simpa [same] using sameEntries_iff fun entry member =>
        ⟨fun _ => (ih entry member).1, fun _ => (ih entry member).2⟩
    | _ => simp [same]
  | _ => cases right <;> simp [same]

instance : DecidableEq CanonicalValue := fun _ _ => decidable_of_iff _ same_iff

end CanonicalValue

/-- The shortest head of a major type carrying `argument`. -/
def headBytes (major : UInt8) (argument : UInt64) : List UInt8 :=
  let marker := major <<< 5
  if argument.toNat < 24 then [marker ||| argument.toUInt8]
  else if argument.toNat < 2 ^ 8 then [marker ||| 0x18, argument.toUInt8]
  else if argument.toNat < 2 ^ 16 then (marker ||| 0x19) :: toBeBytes 2 argument.toNat
  else if argument.toNat < 2 ^ 32 then (marker ||| 0x1a) :: toBeBytes 4 argument.toNat
  else (marker ||| 0x1b) :: toBeBytes 8 argument.toNat

/-- Head of a container or string of the given length. -/
def lengthBytes (major : UInt8) (length : Nat) : List UInt8 :=
  headBytes major (UInt64.ofNat length)

mutual

/-- The bytes denoting a value, with every map in key order. -/
def wire : CanonicalValue → List UInt8
  | .unsigned value => headBytes 0 value
  | .negative value => headBytes 1 (UInt64.ofNat (-1 - value.toInt).toNat)
  | .bytes value => lengthBytes 2 value.length ++ value
  | .text value => lengthBytes 3 (textBytes value).length ++ textBytes value
  | .array values => lengthBytes 4 values.length ++ (wireValues values).flatten
  | .map entries =>
      lengthBytes 5 entries.length ++
        (sortByKey (wireEntries entries)).flatMap fun entry => entry.1 ++ entry.2
  | .bool value => [if value then 0xf5 else 0xf4]
  | .null => [0xf6]

def wireValues : List CanonicalValue → List (List UInt8)
  | [] => []
  | value :: rest => wire value :: wireValues rest

def wireEntries : List (CanonicalValue × CanonicalValue) → List (List UInt8 × List UInt8)
  | [] => []
  | (key, value) :: rest => (wire key, wire value) :: wireEntries rest

end

theorem wireValues_eq_map (values : List CanonicalValue) :
    wireValues values = values.map wire := by
  induction values with
  | nil => rfl
  | cons value rest ih => simp [wireValues, ih]

theorem wireEntries_eq_map (entries : List (CanonicalValue × CanonicalValue)) :
    wireEntries entries = entries.map fun entry => (wire entry.1, wire entry.2) := by
  induction entries with
  | nil => rfl
  | cons entry rest ih => simp [wireEntries, ih]

mutual

/-- Items charged for a value: one for the value and one for every value inside
it, keys included. -/
def itemCount : CanonicalValue → Nat
  | .array values => 1 + itemCounts values
  | .map entries => 1 + entryItemCounts entries
  | _ => 1

def itemCounts : List CanonicalValue → Nat
  | [] => 0
  | value :: rest => itemCount value + itemCounts rest

def entryItemCounts : List (CanonicalValue × CanonicalValue) → Nat
  | [] => 0
  | (key, value) :: rest => itemCount key + itemCount value + entryItemCounts rest

end

mutual

/-- The value with the entries of every map, at any depth and inside keys too,
reordered by their encoded keys. -/
def normalize : CanonicalValue → CanonicalValue
  | .array values => .array (normalizeValues values)
  | .map entries => .map ((sortByKey (normalizeEntries entries)).map Prod.snd)
  | value => value

def normalizeValues : List CanonicalValue → List CanonicalValue
  | [] => []
  | value :: rest => normalize value :: normalizeValues rest

/-- Normalized entries tagged with the bytes of their keys. -/
def normalizeEntries : List (CanonicalValue × CanonicalValue) →
    List (List UInt8 × (CanonicalValue × CanonicalValue))
  | [] => []
  | (key, value) :: rest => (wire key, (normalize key, normalize value)) :: normalizeEntries rest

end

theorem normalizeValues_eq_map (values : List CanonicalValue) :
    normalizeValues values = values.map normalize := by
  induction values with
  | nil => rfl
  | cons value rest ih => simp [normalizeValues, ih]

theorem normalizeEntries_eq_map (entries : List (CanonicalValue × CanonicalValue)) :
    normalizeEntries entries = entries.map fun entry =>
      (wire entry.1, (normalize entry.1, normalize entry.2)) := by
  induction entries with
  | nil => rfl
  | cons entry rest ih => simp [normalizeEntries, ih]

/-- Keys strictly increasing in bytewise order. -/
def KeysIncreasing (entries : List (CanonicalValue × CanonicalValue)) : Prop :=
  entries.Pairwise fun left right => compare (wire left.1) (wire right.1) = .lt

/-- Every map of the value, at any depth and inside keys too, has its keys in
strictly increasing bytewise order of their encodings. -/
inductive KeyOrdered : CanonicalValue → Prop where
  | unsigned (value : UInt64) : KeyOrdered (.unsigned value)
  | negative (value : Int64) : KeyOrdered (.negative value)
  | bytes (value : List UInt8) : KeyOrdered (.bytes value)
  | text (value : String) : KeyOrdered (.text value)
  | array (values : List CanonicalValue) :
      (∀ value ∈ values, KeyOrdered value) → KeyOrdered (.array values)
  | map (entries : List (CanonicalValue × CanonicalValue)) :
      KeysIncreasing entries →
      (∀ entry ∈ entries, KeyOrdered entry.1) →
      (∀ entry ∈ entries, KeyOrdered entry.2) → KeyOrdered (.map entries)
  | bool (value : Bool) : KeyOrdered (.bool value)
  | null : KeyOrdered .null

/-- Structural admission of a value with `remaining` nesting levels left. -/
def Fits : Nat → CanonicalValue → Prop
  | 0, _ => False
  | _ + 1, .negative value => value < 0
  | _ + 1, .bytes value => value.length < UInt64.size
  | _ + 1, .text value => (textBytes value).length < UInt64.size
  | remaining + 1, .array values =>
      values.length ≤ maxContainerEntries ∧ ∀ value ∈ values, Fits remaining value
  | remaining + 1, .map entries =>
      entries.length ≤ maxContainerEntries ∧
        (∀ entry ∈ entries, Fits remaining entry.1 ∧ Fits remaining entry.2) ∧
        (entries.map fun entry => wire entry.1).Nodup
  | _ + 1, _ => True

end Dirextalk.Wire
