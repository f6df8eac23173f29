import Dirextalk.Domain.Identifiers
import Dirextalk.Lib.Fallible
import Mathlib.Logic.Equiv.Fin.Basic
import Mathlib.SetTheory.Cardinal.Finite

/-!
# Identifier texts

UUIDv7 identifiers print as lowercase hyphenated UUID text, public ids as a kind
prefix and the lowercase unpadded base-32 of their digest.  Parsing accepts the
printed texts and no others, so text and identifier determine each other.  The
kind prefix tells a public subject its kind.
-/

namespace Dirextalk.Domain

open Lib

/-! ## Alphabets -/

/-- The character of a digit in an alphabet. -/
def digitChar (alphabet : List Char) (digit : Nat) : Char := alphabet.getD digit 'a'

/-- `alphabet.iter().position(|candidate| candidate == character)`. -/
def charDigit? (alphabet : List Char) (character : Char) : Option Nat :=
  alphabet.findIdx? (· == character)

def hexAlphabet : List Char :=
  ['0', '1', '2', '3', '4', '5', '6', '7', '8', '9', 'a', 'b', 'c', 'd', 'e', 'f']

def base32Alphabet : List Char :=
  ['a', 'b', 'c', 'd', 'e', 'f', 'g', 'h', 'i', 'j', 'k', 'l', 'm', 'n', 'o', 'p', 'q', 'r', 's',
    't', 'u', 'v', 'w', 'x', 'y', 'z', '2', '3', '4', '5', '6', '7']

theorem charDigit?_eq_some {alphabet : List Char} (distinct : alphabet.Nodup) {character : Char}
    {digit : Nat} :
    charDigit? alphabet character = some digit ↔
      digit < alphabet.length ∧ digitChar alphabet digit = character := by
  unfold charDigit? digitChar
  rw [List.findIdx?_eq_some_iff_getElem]
  constructor
  · rintro ⟨inside, found, -⟩
    exact ⟨inside, by simpa [inside] using found⟩
  · rintro ⟨inside, found⟩
    replace found : alphabet[digit] = character := by simpa [inside] using found
    refine ⟨inside, by simpa using found, fun earlier before => ?_⟩
    have other := List.pairwise_iff_getElem.mp distinct earlier digit (by omega) inside before
    simpa [← found] using other

/-! ## UUID text -/

def hexByte (byte : UInt8) : List Char :=
  [digitChar hexAlphabet (byte.toNat / 16), digitChar hexAlphabet (byte.toNat % 16)]

variable (bytes : FixedBytes 16)

/-- `uuid.hyphenated().to_string()`. -/
def hyphenated : List Char :=
  let hex := bytes.toList.flatMap hexByte
  hex.take 8 ++ '-' :: ((hex.drop 8).take 4 ++ '-' :: ((hex.drop 12).take 4 ++ '-' ::
    ((hex.drop 16).take 4 ++ '-' :: hex.drop 20)))

def UuidV7.toText {kind : UuidKind} (id : UuidV7 kind) : String := .ofList (hyphenated id.bytes)

/-- Why a text is not the canonical text of a UUIDv7. -/
inductive IdParseError where
  /-- No UUID, or a UUID in another spelling. -/
  | nonCanonicalText
  | unsupportedVariant
  | unsupportedVersion
  deriving DecidableEq, Repr

/-- The bytes of a string of hexadecimal digits. -/
def hexBytes? : List Char → Option (List UInt8)
  | [] => some []
  | [_] => none
  | high :: low :: rest => do
      let high ← charDigit? hexAlphabet high
      let low ← charDigit? hexAlphabet low
      let rest ← hexBytes? rest
      return UInt8.ofNat (16 * high + low) :: rest

/-- `parse_uuid_v7`.  The UUID parser also reads other spellings, which the
comparison with the hyphenated text turns down. -/
def UuidV7.parse {kind : UuidKind} (text : String) : Except IdParseError (UuidV7 kind) := do
  let bytes ← okOr ((hexBytes? (text.toList.filter (· ≠ '-'))).bind FixedBytes.ofList?)
    IdParseError.nonCanonicalText
  rejectIf (String.ofList (hyphenated bytes) ≠ text) .nonCanonicalText
  if variant : bytes.toList[8]?.map (fun byte : UInt8 => byte >>> 6) = some 2 then
    if version : bytes.toList[6]?.map (fun byte : UInt8 => byte >>> 4) = some 7 then
      return ⟨bytes, version, variant⟩
    else .error .unsupportedVersion
  else .error .unsupportedVariant

/-! ## Public id text -/

def PublicIdKind.textPrefix : PublicIdKind → List Char
  | .identity => ['d', 't', 'x', 'i', '1']
  | .channel => ['d', 't', 'x', 'c', '1']
  | .agent => ['d', 't', 'x', 'a', '1']

/-- Bytes as groups of eight bits. -/
def byteGroups (bytes : List UInt8) : List Nat := bytes.map UInt8.toNat

variable (digest : FixedBytes 32)

/-- Groups of five bits, the last one filled with zero bits. -/
def base32Groups : List Nat :=
  let state := BitBuffer.regroup 8 5 (byteGroups digest.toList)
  if 0 < state.bits then
    state.groups ++ [(state.buffer <<< (5 - state.bits)) &&& 0x1f]
  else state.groups

def encodeBase32 : List Char :=
  (base32Groups digest).map (digitChar base32Alphabet)

def PublicId.toText {kind : PublicIdKind} (id : PublicId kind) : String :=
  .ofList (kind.textPrefix ++ encodeBase32 id.digest)

/-- Why a text is not a public id. -/
inductive PublicIdParseError where
  | invalidLength (actual : Nat)
  | invalidPrefix (expected : String)
  | invalidCharacter
  | nonCanonicalTrailingBits
  deriving DecidableEq, Repr

def decodeBase32 (value : List Char) : Except PublicIdParseError (FixedBytes 32) := do
  let groups ← okOr (value.mapM (charDigit? base32Alphabet)) .invalidCharacter
  let state := BitBuffer.regroup 5 8 groups
  rejectIf (state.bits ≠ 4 ∨ state.buffer ≠ 0) .nonCanonicalTrailingBits
  okOr (FixedBytes.ofList? (state.groups.map UInt8.ofNat)) .nonCanonicalTrailingBits

/-- `parse_public_id`. -/
def PublicId.parse {kind : PublicIdKind} (text : String) :
    Except PublicIdParseError (PublicId kind) := do
  rejectIf (text.utf8ByteSize ≠ 57) (.invalidLength text.utf8ByteSize)
  let encoded ← okOr (text.toList.dropPrefix? kind.textPrefix)
    (.invalidPrefix (.ofList kind.textPrefix))
  return ⟨← decodeBase32 encoded⟩

/-! ## UUID text and bytes -/

theorem utf8ByteSize_ofList {characters : List Char}
    (ascii : ∀ character ∈ characters, character.utf8Size = 1) :
    (String.ofList characters).utf8ByteSize = characters.length := by
  induction characters with
  | nil => rfl
  | cons first rest ih =>
    rw [String.ofList_cons, String.utf8ByteSize_append, String.utf8ByteSize_singleton,
      ascii first List.mem_cons_self,
      ih fun character member => ascii character (List.mem_cons_of_mem _ member),
      List.length_cons, Nat.add_comm]

theorem hexByte_hyphenless (byte : UInt8) : '-' ∉ hexByte byte := by
  have digits : ∀ digit < 16, digitChar hexAlphabet digit ≠ '-' := by decide
  have high := digits (byte.toNat / 16) (by have := byte.toNat_lt; omega)
  have low := digits (byte.toNat % 16) (by omega)
  simp only [hexByte, List.mem_cons, List.not_mem_nil, or_false, not_or]
  exact ⟨high.symm, low.symm⟩

theorem hexBytes?_flatMap (bytes : List UInt8) :
    hexBytes? (bytes.flatMap hexByte) = some bytes := by
  induction bytes with
  | nil => rfl
  | cons byte rest ih =>
    have reads (digit : Nat) (small : digit < 16) :
        charDigit? hexAlphabet (digitChar hexAlphabet digit) = some digit :=
      (charDigit?_eq_some (by decide)).mpr ⟨small, rfl⟩
    have bound := byte.toNat_lt
    have joined : 16 * (byte.toNat / 16) + byte.toNat % 16 = byte.toNat :=
      Nat.div_add_mod byte.toNat 16
    simp only [List.flatMap_cons, hexByte, List.cons_append, List.nil_append, hexBytes?]
    rw [reads _ (by omega), reads _ (by omega), ih]
    simp only [Option.bind_eq_bind, Option.bind_some, joined, UInt8.ofNat_toNat]
    rfl

/-- The hyphens aside, the text is the hexadecimal digits. -/
theorem hyphenated_digits : (hyphenated bytes).filter (· ≠ '-') = bytes.toList.flatMap hexByte := by
  have hyphenless : ∀ character ∈ bytes.toList.flatMap hexByte, character ≠ '-' := by
    rintro character member rfl
    obtain ⟨byte, -, printed⟩ := List.mem_flatMap.mp member
    exact hexByte_hyphenless byte printed
  unfold hyphenated
  generalize bytes.toList.flatMap hexByte = hex at hyphenless
  have keep (part : List Char) (within : part ⊆ hex) : part.filter (· ≠ '-') = part :=
    List.filter_eq_self.mpr fun character member => by simpa using hyphenless _ (within member)
  have inside (skipped taken : Nat) : (hex.drop skipped).take taken ⊆ hex :=
    fun _ member => List.mem_of_mem_drop (List.mem_of_mem_take member)
  have first : hex.take 8 ⊆ hex := fun _ member => List.mem_of_mem_take member
  have last : hex.drop 20 ⊆ hex := fun _ member => List.mem_of_mem_drop member
  have cut (skipped taken : Nat) (rest : List Char)
      (tail : rest = hex.drop (skipped + taken)) :
      (hex.drop skipped).take taken ++ rest = hex.drop skipped := by
    rw [tail, ← List.drop_drop, List.take_append_drop]
  simp only [List.filter_append, List.filter_cons, keep _ first, keep _ (inside _ _), keep _ last,
    ne_eq, not_true_eq_false, decide_false, Bool.false_eq_true, ↓reduceIte]
  rw [cut 16 4 _ rfl, cut 12 4 _ rfl, cut 8 4 _ rfl, List.take_append_drop]

theorem length_hyphenated : (hyphenated bytes).length = 36 := by
  have digits : (bytes.toList.flatMap hexByte).length = 32 := by
    rw [List.length_flatMap]
    simp [hexByte, bytes.length_eq]
  simp only [hyphenated, List.length_append, List.length_cons, List.length_take, List.length_drop,
    digits]
  rfl

theorem hyphenated_ascii : ∀ character ∈ hyphenated bytes, character.utf8Size = 1 := by
  have digits : ∀ digit < 16, (digitChar hexAlphabet digit).utf8Size = 1 := by decide
  intro character member
  by_cases hyphen : character = '-'
  · rw [hyphen]
    rfl
  · have printed : character ∈ (hyphenated bytes).filter (· ≠ '-') := by simp [member, hyphen]
    rw [hyphenated_digits] at printed
    obtain ⟨byte, -, digit⟩ := List.mem_flatMap.mp printed
    have bound := byte.toNat_lt
    simp only [hexByte, List.mem_cons, List.not_mem_nil, or_false] at digit
    rcases digit with rfl | rfl
    · exact digits _ (by omega)
    · exact digits _ (by omega)

namespace UuidV7

variable {kind : UuidKind}

theorem toText_size (id : UuidV7 kind) : id.toText.utf8ByteSize = 36 := by
  rw [toText, utf8ByteSize_ofList (hyphenated_ascii id.bytes), length_hyphenated]

theorem parse_toText (id : UuidV7 kind) : UuidV7.parse id.toText = .ok id := by
  have digits : hexBytes? ((hyphenated id.bytes).filter (· ≠ '-')) = some id.bytes.toList := by
    rw [hyphenated_digits, hexBytes?_flatMap]
  unfold UuidV7.parse
  rw [toText, String.toList_ofList, digits, Option.bind_some, FixedBytes.ofList?_toList,
    okOr_some, ok_bind, rejectIf_neg _ (not_not.mpr rfl), ok_bind, dif_pos id.variant_eq,
    dif_pos id.version_eq]
  rfl

end UuidV7

/-! ## Public id text and digest -/

theorem mapM_charDigit?_eq_some {alphabet : List Char} (distinct : alphabet.Nodup)
    {value : List Char} {digits : List Nat} :
    value.mapM (charDigit? alphabet) = some digits ↔
      (∀ digit ∈ digits, digit < alphabet.length) ∧ digits.map (digitChar alphabet) = value := by
  induction value generalizing digits with
  | nil =>
    cases digits <;> simp
  | cons first rest ih =>
    rw [List.mapM_cons]
    simp only [Option.bind_eq_bind, Option.bind_eq_some_iff, charDigit?_eq_some distinct, ih]
    constructor
    · rintro ⟨digit, ⟨small, rfl⟩, tail, ⟨smalls, rfl⟩, returned⟩
      cases returned
      simpa using ⟨small, smalls⟩
    · rintro ⟨smalls, printed⟩
      cases digits with
      | nil => cases printed
      | cons digit tail =>
        cases printed
        exact ⟨digit, ⟨smalls digit (by simp), rfl⟩, tail,
          ⟨fun other member => smalls other (List.mem_cons_of_mem _ member), rfl⟩, rfl⟩

theorem byteGroups_lt (bytes : List UInt8) : ∀ group ∈ byteGroups bytes, group < 2 ^ 8 := by
  intro group member
  obtain ⟨byte, -, rfl⟩ := List.mem_map.mp member
  exact byte.toNat_lt

/-- The groups of a digest denote it with four zero bits behind. -/
theorem base32Groups_spec :
    (base32Groups digest).length = 52 ∧ (∀ group ∈ base32Groups digest, group < 2 ^ 5) ∧
      groupsValue 5 (base32Groups digest) = groupsValue 8 (byteGroups digest.toList) * 2 ^ 4 := by
  obtain ⟨denotes, less⟩ := BitBuffer.regroup_denotes (by decide : 0 < 5)
    (byteGroups_lt digest.toList)
  have total := denotes.total_eq
  rw [byteGroups, List.length_map, digest.length_eq, ← byteGroups] at total
  unfold base32Groups
  generalize BitBuffer.regroup 8 5 (byteGroups digest.toList) = state at denotes less total
  have bits : state.bits = 1 := by omega
  have small := denotes.buffer_lt
  have value := denotes.value_eq
  rw [bits] at small value
  have padded : (state.buffer <<< (5 - 1)) &&& 0x1f = state.buffer * 2 ^ 4 := by
    have mask := Nat.and_two_pow_sub_one_eq_mod (state.buffer <<< 4) 5
    rw [Nat.shiftLeft_eq, Nat.mod_eq_of_lt (by omega)] at mask
    exact (congrArg (· &&& 0x1f) (Nat.shiftLeft_eq state.buffer 4)).trans mask
  simp only [bits, Nat.one_pos, if_true, padded]
  refine ⟨?_, ?_, ?_⟩
  · rw [List.length_append, List.length_singleton]
    omega
  · intro group member
    rcases List.mem_append.mp member with old | last
    · exact denotes.groups_lt group old
    · rw [List.mem_singleton.mp last]
      omega
  · rw [groupsValue_append, ← value]
    ring

variable {groups : List Nat}

theorem byteGroups_ofNat (fit : ∀ group ∈ groups, group < 2 ^ 8) :
    byteGroups (groups.map UInt8.ofNat) = groups := by
  rw [byteGroups, List.map_map]
  refine (List.map_congr_left fun group member => ?_).trans (List.map_id groups)
  exact UInt8.toNat_ofNat_of_lt' (fit group member)

theorem ofNat_byteGroups (bytes : List UInt8) : (byteGroups bytes).map UInt8.ofNat = bytes := by
  simp [byteGroups, Function.comp_def]

/-- Fifty-two groups of five bits regroup to thirty-two bytes and four bits. -/
theorem regroup_bytes (length_eq : groups.length = 52) (fit : ∀ group ∈ groups, group < 2 ^ 5) :
    let state := BitBuffer.regroup 5 8 groups
    state.bits = 4 ∧ state.groups.length = 32 ∧ (∀ group ∈ state.groups, group < 2 ^ 8) ∧
      state.buffer < 2 ^ 4 ∧
      groupsValue 8 state.groups * 2 ^ 4 + state.buffer = groupsValue 5 groups := by
  obtain ⟨denotes, less⟩ := BitBuffer.regroup_denotes (by decide : 0 < 8) fit
  have total := denotes.total_eq
  rw [length_eq] at total
  have bits : (BitBuffer.regroup 5 8 groups).bits = 4 := by omega
  have value := denotes.value_eq
  have small := denotes.buffer_lt
  rw [bits] at value small
  exact ⟨bits, by omega, denotes.groups_lt, small, value⟩

theorem decodeBase32_eq_ok {value : List Char} (length_eq : value.length = 52)
    {digest : FixedBytes 32} : decodeBase32 value = .ok digest ↔ encodeBase32 digest = value := by
  obtain ⟨encoded_length, encoded_lt, encoded_value⟩ := base32Groups_spec digest
  simp only [decodeBase32, bind_eq_ok, okOr_eq_ok, rejectIf_eq_ok, exists_const, not_or, ne_eq,
    not_not, FixedBytes.ofList?_eq_some, mapM_charDigit?_eq_some (by decide : base32Alphabet.Nodup)]
  constructor
  · rintro ⟨groups, ⟨fit, rfl⟩, ⟨-, empty⟩, read⟩
    rw [List.length_map] at length_eq
    obtain ⟨-, -, byte_lt, -, value⟩ := regroup_bytes length_eq fit
    have bytes : byteGroups digest.toList = (BitBuffer.regroup 5 8 groups).groups := by
      rw [read, byteGroups_ofNat byte_lt]
    rw [empty, Nat.add_zero, ← bytes, ← encoded_value] at value
    rw [encodeBase32, groupsValue_injective (by decide) (encoded_length.trans length_eq.symm)
      encoded_lt fit value]
  · rintro rfl
    obtain ⟨bits, byte_length, byte_lt, small, value⟩ := regroup_bytes encoded_length encoded_lt
    rw [encoded_value] at value
    have same : groupsValue 8 (BitBuffer.regroup 5 8 (base32Groups digest)).groups =
        groupsValue 8 (byteGroups digest.toList) := by omega
    have bytes := groupsValue_injective (by decide)
      (byte_length.trans (by rw [byteGroups, List.length_map, digest.length_eq])) byte_lt
      (byteGroups_lt _) same
    refine ⟨base32Groups digest, ⟨encoded_lt, rfl⟩, ⟨bits, by omega⟩, ?_⟩
    rw [bytes, ofNat_byteGroups]

/-- The characters of a prefix and of base-32 digits are one byte each. -/
theorem publicId_ascii (kind : PublicIdKind) (fit : ∀ group ∈ groups, group < base32Alphabet.length)
    :
    ∀ character ∈ kind.textPrefix ++ groups.map (digitChar base32Alphabet),
      character.utf8Size = 1 := by
  have digits : ∀ group < base32Alphabet.length,
      (digitChar base32Alphabet group).utf8Size = 1 := by decide
  have tags : kind.textPrefix.all (fun character => character.utf8Size = 1) = true := by
    cases kind <;> decide
  intro character member
  rcases List.mem_append.mp member with tag | printed
  · exact of_decide_eq_true (List.all_eq_true.mp tags character tag)
  · obtain ⟨group, listed, rfl⟩ := List.mem_map.mp printed
    exact digits group (fit group listed)

namespace PublicId

variable {kind : PublicIdKind}

theorem encoded_length (digest : FixedBytes 32) : (encodeBase32 digest).length = 52 := by
  rw [encodeBase32, List.length_map, (base32Groups_spec digest).1]

theorem textPrefix_length : kind.textPrefix.length = 5 := by
  cases kind <;> rfl

variable (id : PublicId kind)

theorem toText_size : id.toText.utf8ByteSize = 57 := by
  rw [toText, encodeBase32,
    utf8ByteSize_ofList (publicId_ascii kind (base32Groups_spec id.digest).2.1), ← encodeBase32,
    List.length_append, textPrefix_length, encoded_length]

theorem parse_toText : PublicId.parse id.toText = .ok id := by
  have stripped : id.toText.toList.dropPrefix? kind.textPrefix =
      some (encodeBase32 id.digest) := by
    rw [List.dropPrefix?_eq_some_iff]
    exact ⟨kind.textPrefix, String.toList_ofList, by simp⟩
  have decoded := (decodeBase32_eq_ok (encoded_length id.digest)).mpr rfl
  simp [PublicId.parse, id.toText_size, stripped, decoded]

theorem toText_of_parse {text : String} {id : PublicId kind}
    (parsed : PublicId.parse text = .ok id) : id.toText = text := by
  simp only [PublicId.parse, bind_eq_ok, rejectIf_eq_ok, exists_const, okOr_eq_ok, pure_eq_ok,
    ne_eq, not_not, List.dropPrefix?_eq_some_iff] at parsed
  obtain ⟨size, encoded, ⟨tag, characters, sameTag⟩, digest, decoded, rfl⟩ := parsed
  obtain rfl := eq_of_beq sameTag
  have text_eq : text = String.ofList (kind.textPrefix ++ encoded) := by
    rw [← characters, String.ofList_toList]
  have length_eq : encoded.length = 52 := by
    have read := decoded
    simp only [decodeBase32, bind_eq_ok, okOr_eq_ok,
      mapM_charDigit?_eq_some (by decide : base32Alphabet.Nodup)] at read
    obtain ⟨groups, ⟨fit, rfl⟩, -⟩ := read
    rw [text_eq, utf8ByteSize_ofList (publicId_ascii kind fit), List.length_append,
      textPrefix_length] at size
    omega
  rw [toText, (decodeBase32_eq_ok length_eq).mp decoded, text_eq]

/-- The texts `from_str` takes for an id of a kind. -/
abbrev AcceptedText (kind : PublicIdKind) : Type :=
  { text : String // ∃ id : PublicId kind, PublicId.parse text = .ok id }

/-- The displayed text of an id, as a text that is accepted. -/
def accepted : AcceptedText kind := ⟨id.toText, id, id.parse_toText⟩

theorem accepted_bijective : Function.Bijective (@accepted kind) := by
  constructor
  · intro first second same
    have texts : first.toText = second.toText := congrArg Subtype.val same
    have parsed := first.parse_toText
    rw [texts, second.parse_toText] at parsed
    exact (Except.ok.inj parsed).symm
  · rintro ⟨text, id, parsed⟩
    exact ⟨id, Subtype.ext (toText_of_parse parsed)⟩

/-- An id is its thirty-two bytes. -/
def equivBytes : PublicId kind ≃ (Fin 32 → Fin 256) :=
  calc PublicId kind
    _ ≃ List.Vector UInt8 32 :=
      ⟨fun id => ⟨id.digest.toList, id.digest.length_eq⟩, fun bytes => ⟨⟨bytes.1, bytes.2⟩⟩,
        fun _ => rfl, fun _ => rfl⟩
    _ ≃ (Fin 32 → UInt8) := Equiv.vectorEquivFin UInt8 32
    _ ≃ (Fin 32 → Fin 256) :=
      Equiv.arrowCongr (Equiv.refl _) ⟨UInt8.toFin, UInt8.ofFin, fun _ => rfl, fun _ => rfl⟩

theorem card_accepted : Nat.card (AcceptedText kind) = 2 ^ 256 := by
  rw [← Nat.card_congr (Equiv.ofBijective accepted accepted_bijective),
    Nat.card_congr equivBytes, Nat.card_fun, Nat.card_fin, Nat.card_fin]
  norm_num

end PublicId

/-! ## Public subjects -/

/-- A validated public subject id of any supported kind. -/
inductive PublicSubjectId where
  | identity (id : IdentityId)
  | channel (id : ChannelId)
  | agent (id : AgentId)
  deriving DecidableEq

namespace PublicSubjectId

def toText : PublicSubjectId → String
  | .identity id => id.toText
  | .channel id => id.toText
  | .agent id => id.toText

/-- `text.starts_with(prefix)` for the prefix of a kind. -/
def startsAs (kind : PublicIdKind) (text : String) : Bool :=
  kind.textPrefix.isPrefixOf text.toList

def parse (text : String) : Except PublicIdParseError PublicSubjectId :=
  if startsAs .identity text then (PublicId.parse text).map .identity
  else if startsAs .channel text then (PublicId.parse text).map .channel
  else if startsAs .agent text then (PublicId.parse text).map .agent
  else .error (.invalidPrefix "dtxi1, dtxc1, or dtxa1")

theorem startsAs_toText (kind : PublicIdKind) {other : PublicIdKind} (id : PublicId other) :
    startsAs kind id.toText = decide (kind = other) := by
  have tags : ∀ rest, kind.textPrefix.isPrefixOf (other.textPrefix ++ rest) =
      decide (kind = other) := by
    cases kind <;> cases other <;> exact fun _ => rfl
  rw [startsAs, PublicId.toText, String.toList_ofList, tags]

theorem parse_toText (subject : PublicSubjectId) : parse subject.toText = .ok subject := by
  cases subject with
  | identity id => simp [parse, toText, startsAs_toText, PublicId.parse_toText, Except.map]
  | channel id => simp [parse, toText, startsAs_toText, PublicId.parse_toText, Except.map]
  | agent id => simp [parse, toText, startsAs_toText, PublicId.parse_toText, Except.map]

theorem toText_of_parse {text : String} {subject : PublicSubjectId}
    (parsed : parse text = .ok subject) : subject.toText = text := by
  have read {kind : PublicIdKind} {wrap : PublicId kind → PublicSubjectId}
      (printed : ∀ id, (wrap id).toText = id.toText)
      (accepted : (PublicId.parse text).map wrap = .ok subject) : subject.toText = text := by
    obtain ⟨id, found, rfl⟩ := map_eq_ok.mp accepted
    rw [printed, PublicId.toText_of_parse found]
  unfold parse at parsed
  split at parsed
  · exact read (fun _ => rfl) parsed
  · split at parsed
    · exact read (fun _ => rfl) parsed
    · split at parsed
      · exact read (fun _ => rfl) parsed
      · cases parsed

/-- The kind of a public subject. -/
def kind : PublicSubjectId → PublicIdKind
  | .identity _ => .identity
  | .channel _ => .channel
  | .agent _ => .agent

/-- The prefixes of the kinds differ, so a text is the text of one kind only. -/
theorem kind_eq_of_toText {first second : PublicIdKind} {id : PublicId first}
    {other : PublicId second} (same : id.toText = other.toText) : first = second := by
  have starts := startsAs_toText first id
  rw [same, startsAs_toText] at starts
  simpa using starts

end PublicSubjectId

/-- Display and `from_str` are inverse to each other for every kind of public id: there
are as many accepted texts as digests, and no text is accepted for two kinds. -/
theorem publicId_texts (kind : PublicIdKind) :
    (∀ digest : FixedBytes 32, PublicId.parse (PublicId.toText (⟨digest⟩ : PublicId kind)) =
      .ok (⟨digest⟩ : PublicId kind)) ∧
    (∀ text (id : PublicId kind), PublicId.parse text = .ok id → id.toText = text) ∧
    Function.Bijective (fun digest : FixedBytes 32 =>
      PublicId.accepted (⟨digest⟩ : PublicId kind)) ∧
    Nat.card (PublicId.AcceptedText kind) = 2 ^ 256 ∧
    (∀ text (id : PublicId kind) subject, PublicId.parse text = .ok id →
      PublicSubjectId.parse text = .ok subject → subject.kind = kind) ∧
    (∀ text other (id : PublicId kind) (second : PublicId other), PublicId.parse text = .ok id →
      PublicId.parse text = .ok second → kind = other) ∧
    (∀ subject : PublicSubjectId, PublicSubjectId.parse subject.toText = .ok subject) ∧
    (∀ text subject, PublicSubjectId.parse text = .ok subject → subject.toText = text) := by
  refine ⟨fun digest => PublicId.parse_toText ⟨digest⟩, fun text id => PublicId.toText_of_parse,
    ?_, PublicId.card_accepted, ?_, ?_, PublicSubjectId.parse_toText,
    fun text subject => PublicSubjectId.toText_of_parse⟩
  · have wraps : Function.Bijective (@PublicId.mk kind) := by
      constructor
      · intro first second same
        exact congrArg PublicId.digest same
      · intro id
        exact ⟨id.digest, rfl⟩
    exact PublicId.accepted_bijective.comp wraps
  · intro text id subject parsed taken
    have texts := (PublicSubjectId.toText_of_parse taken).trans
      (PublicId.toText_of_parse parsed).symm
    cases subject with
    | identity other => exact PublicSubjectId.kind_eq_of_toText texts
    | channel other => exact PublicSubjectId.kind_eq_of_toText texts
    | agent other => exact PublicSubjectId.kind_eq_of_toText texts
  · intro text other id second parsed taken
    exact PublicSubjectId.kind_eq_of_toText
      ((PublicId.toText_of_parse parsed).trans (PublicId.toText_of_parse taken).symm)

end Dirextalk.Domain
