import Dirextalk.Domain.PublicKey
import Dirextalk.Lib.CheckedInt
import Dirextalk.Wire.Record

/-!
# Wire primitives

Version numbers, exact integers, timestamps, keys and signatures, each with its
canonical value.  A primitive that is restricted to a range carries the proof.
-/

namespace Dirextalk.Wire

open Domain Lib

/-! ## Versions -/

/-- A protocol version with a compatibility-breaking major and additive minor. -/
structure ProtocolVersion where
  major : UInt16
  minor : UInt16
  deriving DecidableEq, Repr

instance : CanonicalEncode ProtocolVersion where
  toCanonicalValue version :=
    record [.unsigned version.major.toUInt64, .unsigned version.minor.toUInt64]

/-- Version metadata carried by every durable wire message. -/
structure WireVersion where
  protocol : ProtocolVersion
  minimumReader : ProtocolVersion
  deriving DecidableEq, Repr

instance : CanonicalEncode WireVersion where
  toCanonicalValue version :=
    record [toCanonicalValue version.protocol, toCanonicalValue version.minimumReader]

instance : LT ProtocolVersion where
  lt left right := left.major < right.major ∨ left.major = right.major ∧ left.minor < right.minor

instance (left right : ProtocolVersion) : Decidable (left < right) :=
  inferInstanceAs
    (Decidable (left.major < right.major ∨ left.major = right.major ∧ left.minor < right.minor))

/-- A wire message cannot be safely interpreted by the current reader. -/
inductive VersionError where
  | invalidVersionRange (protocol minimum : ProtocolVersion)
  | unsupportedMajor (readerMajor messageMajor : UInt16)
  | readerTooOld (reader minimum : ProtocolVersion)
  deriving DecidableEq, Repr

/-- Verifies that `reader` can safely interpret a message with `wire` metadata. -/
def ensureReadable (reader : ProtocolVersion) (wire : WireVersion) : Except VersionError Unit := do
  rejectIf (wire.protocol.major ≠ wire.minimumReader.major ∨ wire.protocol < wire.minimumReader)
    (.invalidVersionRange wire.protocol wire.minimumReader)
  rejectIf (reader.major ≠ wire.protocol.major)
    (.unsupportedMajor reader.major wire.protocol.major)
  rejectIf (reader < wire.minimumReader) (.readerTooOld reader wire.minimumReader)

/-! ## Numbers -/

/-- Largest unsigned integer that every client represents exactly. -/
def maxSafeUint : UInt64 := ((1 : UInt64) <<< 53) - 1

/-- An unsigned integer that is exact on every platform. -/
structure SafeUint where
  value : UInt64
  le_max : value ≤ maxSafeUint
  deriving DecidableEq

/-- Why an integer is refused. -/
inductive SafeUintError where
  | outOfRange (actual : UInt64)
  deriving DecidableEq, Repr

def SafeUint.new (value : UInt64) : Except SafeUintError SafeUint :=
  if within : value ≤ maxSafeUint then .ok ⟨value, within⟩ else .error (.outOfRange value)

theorem SafeUint.new_eq_ok {value : UInt64} {result : SafeUint} :
    SafeUint.new value = .ok result ↔ result.value = value := by
  unfold new
  constructor
  · intro valid
    split at valid
    · cases valid
      rfl
    · cases valid
  · rintro rfl
    rw [dif_pos result.le_max]

instance : CanonicalEncode SafeUint where
  toCanonicalValue number := .unsigned number.value

def minUtcMillis : Int64 := -62135596800000
def maxUtcMillis : Int64 := 253402300799999

/-- A UTC timestamp in milliseconds, of the years 1 to 9999. -/
structure UtcMillis where
  value : Int64
  ge_min : minUtcMillis ≤ value
  le_max : value ≤ maxUtcMillis
  deriving DecidableEq

instance : LE UtcMillis := ⟨fun left right => left.value ≤ right.value⟩
instance : LT UtcMillis := ⟨fun left right => left.value < right.value⟩

instance (left right : UtcMillis) : Decidable (left ≤ right) :=
  inferInstanceAs (Decidable (left.value ≤ right.value))

instance (left right : UtcMillis) : Decidable (left < right) :=
  inferInstanceAs (Decidable (left.value < right.value))

/-- Why a time is refused. -/
inductive UtcMillisError where
  | outOfRange (actual : Int64)
  deriving DecidableEq

def UtcMillis.new (value : Int64) : Except UtcMillisError UtcMillis :=
  if range : minUtcMillis ≤ value ∧ value ≤ maxUtcMillis then .ok ⟨value, range.1, range.2⟩
  else .error (.outOfRange value)

theorem UtcMillis.new_eq_ok {value : Int64} {result : UtcMillis} :
    UtcMillis.new value = .ok result ↔ result.value = value := by
  unfold new
  constructor
  · intro valid
    split at valid
    · cases valid
      rfl
    · cases valid
  · rintro rfl
    rw [dif_pos ⟨result.ge_min, result.le_max⟩]

instance : CanonicalEncode UtcMillis where
  toCanonicalValue time :=
    if 0 ≤ time.value then .unsigned time.value.toUInt64 else .negative time.value

/-! ## Stable codes -/

def maxStableCodeBytes : Nat := 128

/-- Whether two underscores stand side by side. -/
def hasDoubleUnderscore : List Char → Bool
  | '_' :: '_' :: _ => true
  | _ :: rest => hasDoubleUnderscore rest
  | [] => false

def isLowerSnakeSegment (segment : List Char) : Bool :=
  segment.head?.any Char.isLower &&
    segment.all (fun character =>
      character.isLower || character.isDigit || character = '_') &&
    segment.getLast? ≠ some '_' && !hasDoubleUnderscore segment

/-- Bounded text of dotted lower-snake segments. -/
def isStableCode (text : String) : Bool :=
  !text.isEmpty && text.utf8ByteSize ≤ maxStableCodeBytes &&
    (text.toList.splitOn '.').all isLowerSnakeSegment

/-- A stable machine-readable code. -/
structure StableCode where
  asStr : String
  valid : isStableCode asStr = true
  deriving DecidableEq

/-- Why a text is refused. -/
inductive TextPrimitiveError where
  | invalidStableCode
  deriving DecidableEq, Repr

def StableCode.parse (text : String) : Except TextPrimitiveError StableCode :=
  if valid : isStableCode text = true then .ok ⟨text, valid⟩ else .error .invalidStableCode

theorem StableCode.parse_asStr (code : StableCode) : StableCode.parse code.asStr = .ok code :=
  dif_pos code.valid

instance : CanonicalEncode StableCode where
  toCanonicalValue code := .text code.asStr

/-! ## Keys, digests and signatures -/

instance : CanonicalEncode Sha256Digest where
  toCanonicalValue digest := .bytes digest.bytes.toList

/-- A validated Ed25519 public key. -/
structure SigningPublicKey [Ed25519] where
  key : Ed25519PublicKey
  deriving DecidableEq

/-- An Ed25519 signature. -/
structure Ed25519Signature where
  bytes : FixedBytes 64
  deriving DecidableEq

instance : CanonicalEncode Ed25519Signature where
  toCanonicalValue signature := .bytes signature.bytes.toList

namespace SigningPublicKey

variable [Ed25519]

def asBytes (key : SigningPublicKey) : FixedBytes 32 := key.key.bytes

def tryFrom (value : FixedBytes 32) : Except PublicKeyError SigningPublicKey :=
  (Ed25519PublicKey.tryFrom value).map .mk

theorem tryFrom_eq_ok {value : FixedBytes 32} {key : SigningPublicKey} :
    tryFrom value = .ok key ↔ key.asBytes = value := by
  simp only [tryFrom, map_eq_ok]
  constructor
  · rintro ⟨inner, valid, rfl⟩
    exact Ed25519PublicKey.bytes_of_tryFrom valid
  · rintro rfl
    exact ⟨key.key, Ed25519PublicKey.tryFrom_bytes key.key, rfl⟩

instance : CanonicalEncode SigningPublicKey where
  toCanonicalValue key := .bytes key.asBytes.toList

end SigningPublicKey

/-! ## Reading the fields of a record -/

namespace Fields

-- Every crate writes these readers again, with an error of its own.
variable {ε : Type} (error : ε)

/-- The entries of a map of the given size. -/
def exactMap (value : CanonicalValue) (count : Nat) :
    Except ε (List (CanonicalValue × CanonicalValue)) :=
  match value with
  | .map entries => if entries.length = count then .ok entries else .error error
  | _ => .error error

/-- The value of the first entry under a key. -/
def keyed (entries : List (CanonicalValue × CanonicalValue)) (key : Nat) :
    Except ε CanonicalValue :=
  okOr (entries.findSome? fun entry => if isKey key entry.1 then some entry.2 else none) error

/-! ### Values -/

def unsigned : CanonicalValue → Except ε UInt64
  | .unsigned value => .ok value
  | _ => .error error

def text : CanonicalValue → Except ε String
  | .text value => .ok value
  | _ => .error error

def fixedBytes (length : Nat) : CanonicalValue → Except ε (FixedBytes length)
  | .bytes bytes => okOr (FixedBytes.ofList? bytes) error
  | _ => .error error

def digest (value : CanonicalValue) : Except ε Sha256Digest := do
  return ⟨← fixedBytes error 32 value⟩

def optionalDigest : CanonicalValue → Except ε (Option Sha256Digest)
  | .null => .ok none
  | value => (digest error value).map some

def signedInt : CanonicalValue → Except ε Int64
  | .unsigned value => if value.toNat < 2 ^ 63 then .ok value.toInt64 else .error error
  | .negative value => .ok value
  | _ => .error error

/-- The canonical value of a digest that may be absent. -/
def optionalDigestValue (digest : Option Sha256Digest) : CanonicalValue :=
  digest.elim .null toCanonicalValue

/-! ### Records -/

section Records

variable {fields : List CanonicalValue}

@[simp] theorem exactMap_record {count : Nat} (length_eq : fields.length = count) :
    exactMap error (record fields) count = .ok (numbered 1 fields) := by
  simp [exactMap, record, length_eq]

theorem findSome?_numbered {start index : Nat} (small : start + fields.length ≤ 256)
    (inside : index < fields.length) :
    ((numbered start fields).findSome? fun entry =>
      if isKey (start + index) entry.1 then some entry.2 else none) = fields[index]? := by
  induction fields generalizing start index with
  | nil => cases inside
  | cons first rest ih =>
    simp only [List.length_cons] at small inside
    cases index with
    | zero => simp [numbered, isKey]
    | succ index =>
      have apart : isKey (start + (index + 1)) (.unsigned (.ofNat start)) = false := by
        have bound : UInt64.size = 2 ^ 64 := rfl
        simp only [isKey, decide_eq_false_iff_not]
        intro same
        have numbers := congrArg UInt64.toNat same
        rw [UInt64.toNat_ofNat_of_lt' (by omega), UInt64.toNat_ofNat_of_lt' (by omega)]
          at numbers
        omega
      have later : start + (index + 1) = start + 1 + index := by omega
      rw [numbered, List.findSome?_cons, if_neg (by simp [apart]), later,
        ih (by omega) (by omega), List.getElem?_cons_succ]

@[simp] theorem keyed_numbered {index : Nat} (inside : index < fields.length)
    (small : fields.length ≤ 255) :
    keyed error (numbered 1 fields) (index + 1) = .ok fields[index] := by
  rw [keyed, Nat.add_comm index 1, findSome?_numbered (by omega) inside,
    List.getElem?_eq_getElem inside, okOr_some]

end Records

@[simp] theorem fixedBytes_bytes {length : Nat} (bytes : FixedBytes length) :
    fixedBytes error length (.bytes bytes.toList) = .ok bytes := by
  simp [fixedBytes]

@[simp] theorem digest_value (value : Sha256Digest) :
    digest error (toCanonicalValue value) = .ok value := by
  simp [digest, toCanonicalValue]

@[simp] theorem optionalDigest_value (value : Option Sha256Digest) :
    optionalDigest error (optionalDigestValue value) = .ok value := by
  cases value with
  | none => rfl
  | some value =>
    have read := digest_value error value
    simp only [toCanonicalValue] at read
    simp [optionalDigestValue, toCanonicalValue, optionalDigest, read, Except.map]

end Fields

end Dirextalk.Wire
