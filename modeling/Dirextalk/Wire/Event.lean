import Dirextalk.Domain.Text
import Dirextalk.Wire.Primitives

/-!
# Durable event envelopes

An envelope carries a registered payload with its metadata and the integrity of
both.  It is checked on two paths: `verify` rebuilds the unsigned value from the
typed fields, and `decodeAndVerify` validates the generic map that the bytes
decode to, re-encodes its first thirteen entries, and types the payload last.  A
generated payload is a record of its fields, decoded field by field.
-/

namespace Dirextalk.Wire

open Domain Lib

def eventHashDomain : List UInt8 := textBytes "dirextalk.event.v1\x00"
def eventSignatureDomain : List UInt8 := textBytes "dirextalk.event-signature.v1\x00"
def eventProtocolMajor : UInt16 := 1

/-- A deterministic CBOR value did not match its typed wire contract. -/
inductive CanonicalDecodeError where
  | invalidMapFields
  | typeMismatch
  | invalidPrimitive
  | integerOutOfRange
  | roundTripMismatch
  deriving DecidableEq, Repr

/-- Event construction or integrity verification failed. -/
inductive EventIntegrityError where
  | contractMismatch
  | version (error : VersionError)
  | canonicalCbor (error : CanonicalCborError)
  | payloadDecode (error : CanonicalDecodeError)
  | digestMismatch
  | invalidSignature
  deriving DecidableEq

open EventIntegrityError

/-- Decodes one typed value from the already validated deterministic CBOR model. -/
class CanonicalDecode (α : Type) where
  decodeCanonical : CanonicalValue → Except CanonicalDecodeError α

export CanonicalDecode (decodeCanonical)

/-- Registry policy for a client that does not understand an event version. -/
inductive UnknownVersionPolicy where
  | preserveAndSkip
  | stopCursor
  deriving DecidableEq, Repr

/-- A generated event payload's immutable registry metadata. -/
class RegisteredEventPayload (T : Type) extends CanonicalEncode T, CanonicalDecode T where
  eventType : String
  schemaVersion : UInt16
  aggregateType : String
  requiredReaderCapability : Option String
  unknownVersionPolicy : UnknownVersionPolicy

/-! ## Envelopes -/

/-- The unsigned fields whose deterministic bytes participate in event integrity. -/
structure UnsignedEventEnvelopeV1 (T : Type) where
  protocolVersion : ProtocolVersion
  minimumReaderVersion : ProtocolVersion
  eventId : EventId
  tenantId : TenantId
  aggregateType : StableCode
  aggregateId : AggregateId
  aggregateRevision : SafeUint
  streamSequence : SafeUint
  occurredAt : UtcMillis
  schemaVersion : UInt16
  eventType : StableCode
  requiredReaderCapability : Option StableCode
  payload : T
  deriving DecidableEq

/-- Whether the metadata differs from the registered constants of the payload, or
makes an event required that unknowing readers may skip. -/
def mismatchesRegistry (T : Type) [RegisteredEventPayload T] {α : Type}
    (envelope : UnsignedEventEnvelopeV1 α) : Prop :=
  envelope.schemaVersion ≠ RegisteredEventPayload.schemaVersion T ∨
  envelope.eventType.asStr ≠ RegisteredEventPayload.eventType T ∨
  envelope.aggregateType.asStr ≠ RegisteredEventPayload.aggregateType T ∨
  envelope.requiredReaderCapability.map StableCode.asStr ≠
    RegisteredEventPayload.requiredReaderCapability T ∨
  (RegisteredEventPayload.unknownVersionPolicy T = .preserveAndSkip ∧
    envelope.requiredReaderCapability.isSome = true)

instance (T : Type) [RegisteredEventPayload T] {α : Type} (envelope : UnsignedEventEnvelopeV1 α) :
    Decidable (mismatchesRegistry T envelope) :=
  inferInstanceAs (Decidable (_ ∨ _ ∨ _ ∨ _ ∨ (_ ∧ _)))

/-- `code.map_or(CanonicalValue::Null, CanonicalEncode::to_canonical_value)`. -/
def optionalCode (code : Option StableCode) : CanonicalValue := code.elim .null toCanonicalValue

/-- The thirteen fields, in the order of their keys. -/
def unsignedFields {T : Type} [CanonicalEncode T] (envelope : UnsignedEventEnvelopeV1 T) :
    List CanonicalValue :=
  [toCanonicalValue envelope.protocolVersion, toCanonicalValue envelope.minimumReaderVersion,
    .text envelope.eventId.toText, .text envelope.tenantId.toText,
    toCanonicalValue envelope.aggregateType, .text envelope.aggregateId.toText,
    toCanonicalValue envelope.aggregateRevision, toCanonicalValue envelope.streamSequence,
    toCanonicalValue envelope.occurredAt, .unsigned envelope.schemaVersion.toUInt64,
    toCanonicalValue envelope.eventType, optionalCode envelope.requiredReaderCapability,
    toCanonicalValue envelope.payload]

/-- The map that the digest is taken over. -/
def unsignedValue {T : Type} [CanonicalEncode T] (envelope : UnsignedEventEnvelopeV1 T) :
    CanonicalValue :=
  record (unsignedFields envelope)

instance {T : Type} [CanonicalEncode T] : CanonicalEncode (UnsignedEventEnvelopeV1 T) :=
  ⟨unsignedValue⟩

section Integrity

variable [Ed25519]

/-- Integrity metadata appended after the unsigned event fields. -/
inductive EventIntegrityV1 where
  | sha256 (digest : Sha256Digest)
  | ed25519 (digest : Sha256Digest) (signer : SigningPublicKey) (signature : Ed25519Signature)
  deriving DecidableEq

/-- The digest that an event claims. -/
def EventIntegrityV1.digest : EventIntegrityV1 → Sha256Digest
  | .sha256 digest | .ed25519 digest _ _ => digest

instance : CanonicalEncode EventIntegrityV1 where
  toCanonicalValue
    | .sha256 digest => record [.text "sha256", toCanonicalValue digest]
    | .ed25519 digest signer signature =>
        record [.text "ed25519", toCanonicalValue digest, toCanonicalValue signer,
          toCanonicalValue signature]

/-- A complete durable envelope awaiting explicit verification. -/
structure EventEnvelopeV1 (T : Type) extends UnsignedEventEnvelopeV1 T where
  integrity : EventIntegrityV1
  deriving DecidableEq

instance {T : Type} [CanonicalEncode T] : CanonicalEncode (EventEnvelopeV1 T) where
  toCanonicalValue envelope :=
    record (unsignedFields envelope.toUnsignedEventEnvelopeV1 ++
      [toCanonicalValue envelope.integrity])

def EventEnvelopeV1.toDeterministicCbor {T : Type} [CanonicalEncode T]
    (envelope : EventEnvelopeV1 T) : Except CanonicalCborError (List UInt8) :=
  encodeDeterministicCbor envelope

/-- Result of successful event integrity verification. -/
inductive IntegrityVerification where
  | hashOnly
  | signed (signer : SigningPublicKey)
  deriving DecidableEq

/-- An event that passed version, contract, digest, and optional signature checks. -/
structure VerifiedEventEnvelope (T : Type) where
  envelope : EventEnvelopeV1 T
  verification : IntegrityVerification
  deriving DecidableEq

variable [Sha256]

/-- The digest of an event without its integrity. -/
def eventDigest {α : Type} [CanonicalEncode α] (event : α) :
    Except EventIntegrityError Sha256Digest := do
  let bytes ← (encodeDeterministicCbor event).mapError canonicalCbor
  return .hashDomain eventHashDomain bytes

/-- What the signer signs. -/
def eventSignatureInput (digest : Sha256Digest) : List UInt8 :=
  eventSignatureDomain ++ digest.bytes.toList

/-- The strict check under the signer's key. -/
def verifyEventSignature (digest : Sha256Digest) (signer : SigningPublicKey)
    (signature : Ed25519Signature) : Except EventIntegrityError Unit :=
  match Ed25519.point signer.asBytes with
  | none => .error invalidSignature
  | some _ =>
      rejectIf (Ed25519.verifyStrict signer.asBytes (eventSignatureInput digest)
        signature.bytes = false) invalidSignature

/-- Compares the digest and checks the signature, if there is one. -/
def verifyIntegrity (digest : Sha256Digest) (integrity : EventIntegrityV1) :
    Except EventIntegrityError IntegrityVerification := do
  rejectIf (digest ≠ integrity.digest) digestMismatch
  match integrity with
  | .sha256 _ => return .hashOnly
  | .ed25519 _ signer signature =>
      verifyEventSignature digest signer signature
      return .signed signer

variable {T : Type} [RegisteredEventPayload T]

namespace EventEnvelopeV1

/-! ## Verification of typed envelopes -/

/-- The reader can read the event, and it is as registered. -/
def validateContract (envelope : EventEnvelopeV1 T) (reader : ProtocolVersion) :
    Except EventIntegrityError Unit := do
  rejectIf (envelope.protocolVersion.major ≠ eventProtocolMajor) contractMismatch
  (ensureReadable reader
    { protocol := envelope.protocolVersion
      minimumReader := envelope.minimumReaderVersion }).mapError version
  rejectIf (envelope.aggregateRevision.value = 0 ∨ envelope.streamSequence.value = 0 ∨
    mismatchesRegistry T envelope.toUnsignedEventEnvelopeV1) contractMismatch

/-- Recomputes and validates version, registry metadata, digest, and signature. -/
def verify (envelope : EventEnvelopeV1 T) (reader : ProtocolVersion) :
    Except EventIntegrityError (VerifiedEventEnvelope T) := do
  envelope.validateContract reader
  let digest ← eventDigest envelope.toUnsignedEventEnvelopeV1
  let verification ← verifyIntegrity digest envelope.integrity
  return { envelope, verification }

end EventEnvelopeV1

end Integrity

/-! ## Parsing of canonical events -/

/-- Splits at the last `.v`. -/
def rsplitVersion : List Char → Option (List Char × List Char)
  | [] => none
  | character :: rest =>
      match rsplitVersion rest with
      | some (family, digits) => some (character :: family, digits)
      | none =>
          match character, rest with
          | '.', 'v' :: digits => some ([], digits)
          | _, _ => none

/-- The number that decimal digits spell, if it fits sixteen bits. -/
def parseU16Digits (digits : List Char) : Option UInt16 :=
  let value := digits.foldl (fun value digit => value * 10 + (digit.toNat - '0'.toNat)) 0
  if value < UInt16.size then some (.ofNat value) else none

/-- The positive version at the end of an event type. -/
def eventTypeVersion (eventType : String) : Option UInt16 := do
  let (family, digits) ← rsplitVersion eventType.toList
  if family = [] ∨ digits = [] ∨ (digits.length > 1 ∧ digits.head? = some '0') ∨
    digits.all Char.isDigit = false then none
  else
    let number ← parseU16Digits digits
    if number > 0 then some number else none

/-- The fourteen fields of an envelope. -/
def validateEnvelopeKeys (entries : List (CanonicalValue × CanonicalValue)) :
    Except EventIntegrityError Unit :=
  rejectIf (entries.length ≠ 14 ∨ hasKeys 1 entries = false) contractMismatch

def parseU16 : CanonicalValue → Except EventIntegrityError UInt16
  | .unsigned value =>
      if value.toNat < UInt16.size then .ok value.toUInt16 else .error contractMismatch
  | _ => .error contractMismatch

def parseProtocolVersion : CanonicalValue → Except EventIntegrityError ProtocolVersion
  | .map [major, minor] => do
      rejectIf (hasKeys 1 [major, minor] = false) contractMismatch
      return { major := ← parseU16 major.2, minor := ← parseU16 minor.2 }
  | _ => .error contractMismatch

variable (value : CanonicalValue)

def parsePositiveU16 : Except EventIntegrityError UInt16 := do
  let value ← parseU16 value
  rejectIf (value = 0) contractMismatch
  return value

def parsePositiveSafeUint : CanonicalValue → Except EventIntegrityError SafeUint
  | .unsigned value => do
      rejectIf (value = 0) contractMismatch
      (SafeUint.new value).mapError fun _ => contractMismatch
  | _ => .error contractMismatch

/-- Text that the parser of a primitive accepts. -/
def parseTextPrimitive {ε α : Type} (parse : String → Except ε α) :
    CanonicalValue → Except EventIntegrityError α
  | .text value => (parse value).mapError fun _ => contractMismatch
  | _ => .error contractMismatch

def parseStableCode : CanonicalValue → Except EventIntegrityError StableCode :=
  parseTextPrimitive StableCode.parse

def parseOptionalStableCode : CanonicalValue → Except EventIntegrityError (Option StableCode)
  | .null => .ok none
  | .text value => (parseStableCode (.text value)).map some
  | _ => .error contractMismatch

def parseUtcMillis : Except EventIntegrityError UtcMillis := do
  let millis : Int64 ← match value with
    | .unsigned value =>
        if value.toNat < 2 ^ 63 then .ok value.toInt64 else .error contractMismatch
    | .negative value => .ok value
    | _ => .error contractMismatch
  (UtcMillis.new millis).mapError fun _ => contractMismatch

def parseFixedBytes (length : Nat) : CanonicalValue → Except EventIntegrityError (FixedBytes length)
  | .bytes bytes => okOr (FixedBytes.ofList? bytes) contractMismatch
  | _ => .error contractMismatch

section Parsing

variable [Ed25519]

/-- A digest, with or without a signature. -/
def parseIntegrity : CanonicalValue → Except EventIntegrityError EventIntegrityV1
  | .map (first :: second :: rest) => do
      rejectIf (hasKeys 1 [first, second] = false) contractMismatch
      match first.2 with
      | .text algorithm =>
          let digest : Sha256Digest := ⟨← parseFixedBytes 32 second.2⟩
          match algorithm, rest with
          | "sha256", [] => return .sha256 digest
          | "ed25519", [third, fourth] =>
              rejectIf (hasKeys 3 [third, fourth] = false) contractMismatch
              let signer ← (SigningPublicKey.tryFrom (← parseFixedBytes 32 third.2)).mapError
                fun _ => invalidSignature
              return .ed25519 digest signer ⟨← parseFixedBytes 64 fourth.2⟩
          | _, _ => .error contractMismatch
      | _ => .error contractMismatch
  | _ => .error contractMismatch

/-- An envelope with its payload still untyped, and the integrity level it reached. -/
structure ParsedCanonicalEvent extends EventEnvelopeV1 CanonicalValue where
  verification : IntegrityVerification

variable [Sha256]

/-- Parses the values of the fourteen entries and checks the integrity. -/
def parseEntries (entries : List (CanonicalValue × CanonicalValue)) (reader : ProtocolVersion) :
    Except EventIntegrityError ParsedCanonicalEvent := do
  match entries.map Prod.snd with
  | [protocolVersion, minimumReaderVersion, eventId, tenantId, aggregateType, aggregateId,
      aggregateRevision, streamSequence, occurredAt, schemaVersion, eventType,
      requiredReaderCapability, payload, integrity] =>
      let protocolVersion ← parseProtocolVersion protocolVersion
      let minimumReaderVersion ← parseProtocolVersion minimumReaderVersion
      rejectIf (protocolVersion.major ≠ eventProtocolMajor) contractMismatch
      (ensureReadable reader
        { protocol := protocolVersion, minimumReader := minimumReaderVersion }).mapError version
      let eventId ← parseTextPrimitive UuidV7.parse eventId
      let tenantId ← parseTextPrimitive UuidV7.parse tenantId
      let aggregateType ← parseStableCode aggregateType
      let aggregateId ← parseTextPrimitive UuidV7.parse aggregateId
      let aggregateRevision ← parsePositiveSafeUint aggregateRevision
      let streamSequence ← parsePositiveSafeUint streamSequence
      let occurredAt ← parseUtcMillis occurredAt
      let schemaVersion ← parsePositiveU16 schemaVersion
      let eventType ← parseStableCode eventType
      rejectIf (eventTypeVersion eventType.asStr ≠ some schemaVersion) contractMismatch
      let requiredReaderCapability ← parseOptionalStableCode requiredReaderCapability
      let digest ← eventDigest (CanonicalValue.map (entries.take 13))
      let integrity ← parseIntegrity integrity
      let verification ← verifyIntegrity digest integrity
      return {
        protocolVersion, minimumReaderVersion, eventId, tenantId, aggregateType, aggregateId
        aggregateRevision, streamSequence, occurredAt, schemaVersion, eventType
        requiredReaderCapability, payload, integrity, verification }
  | _ => .error contractMismatch

/-- Reads an event of any type and verifies it. -/
def parseAndVerifyEvent (bytes : List UInt8) (reader : ProtocolVersion) :
    Except EventIntegrityError ParsedCanonicalEvent := do
  match ← (decodeDeterministicCbor bytes).mapError canonicalCbor with
  | .map entries =>
      validateEnvelopeKeys entries
      parseEntries entries reader
  | _ => .error contractMismatch

/-- Decodes exact deterministic bytes and verifies the typed event before use. -/
def EventEnvelopeV1.decodeAndVerify {T : Type} [RegisteredEventPayload T] (bytes : List UInt8)
    (reader : ProtocolVersion) : Except EventIntegrityError (VerifiedEventEnvelope T) := do
  let parsed ← parseAndVerifyEvent bytes reader
  rejectIf (mismatchesRegistry T parsed.toUnsignedEventEnvelopeV1) contractMismatch
  let payload : T ← (decodeCanonical parsed.payload).mapError payloadDecode
  rejectIf (toCanonicalValue payload ≠ parsed.payload) (payloadDecode .roundTripMismatch)
  return {
    envelope := { parsed.toUnsignedEventEnvelopeV1 with payload, integrity := parsed.integrity }
    verification := parsed.verification }

end Parsing

/-! ## Typed fields -/

open CanonicalDecodeError

/-- Validates a generated payload map with contiguous positive keys `1..=fieldCount`. -/
def decodeStructMap (fieldCount : Nat) :
    Except CanonicalDecodeError (List (CanonicalValue × CanonicalValue)) :=
  match value with
  | .map entries =>
      if entries.length ≠ fieldCount ∨ hasKeys 1 entries = false then .error invalidMapFields
      else .ok entries
  | _ => .error invalidMapFields

/-- Decodes one generated payload field. -/
def decodeStructField {α : Type} [CanonicalDecode α]
    (entries : List (CanonicalValue × CanonicalValue)) (key : Nat) :
    Except CanonicalDecodeError α := do
  rejectIf (key = 0) invalidMapFields
  let entry ← okOr entries[key - 1]? invalidMapFields
  rejectIf (isKey key entry.1 = false) invalidMapFields
  decodeCanonical entry.2

/-- Text that the parser of a primitive accepts. -/
def decodeText {ε α : Type} (parse : String → Except ε α) :
    CanonicalValue → Except CanonicalDecodeError α
  | .text value => (parse value).mapError fun _ => invalidPrimitive
  | _ => .error typeMismatch

instance {kind : UuidKind} : CanonicalDecode (UuidV7 kind) := ⟨decodeText UuidV7.parse⟩

instance : CanonicalDecode StableCode := ⟨decodeText StableCode.parse⟩

instance : CanonicalDecode SafeUint where
  decodeCanonical
    | .unsigned value => (SafeUint.new value).mapError fun _ => integerOutOfRange
    | _ => .error typeMismatch

instance : CanonicalDecode Sha256Digest where
  decodeCanonical
    | .bytes bytes => (okOr (FixedBytes.ofList? bytes) invalidPrimitive).map .mk
    | _ => .error typeMismatch

section Fields

variable {fields : List CanonicalValue}

@[simp] theorem decodeStructMap_record {count : Nat} (length_eq : fields.length = count) :
    decodeStructMap (record fields) count = .ok (numbered 1 fields) := by
  have keys : hasKeys 1 (numbered 1 fields) = true := by
    rw [hasKeys_iff, map_snd_numbered]
  simp [decodeStructMap, record, length_eq, keys]

theorem getElem?_numbered (key index : Nat) :
    (numbered key fields)[index]? =
      fields[index]?.map fun value => (.unsigned (.ofNat (key + index)), value) := by
  induction fields generalizing key index with
  | nil => rfl
  | cons value rest ih =>
    cases index with
    | zero => rfl
    | succ index =>
      rw [numbered, List.getElem?_cons_succ, List.getElem?_cons_succ, ih, Nat.add_assoc,
        Nat.add_comm 1]

@[simp] theorem decodeStructField_numbered {α : Type} [CanonicalDecode α] (index : Nat) :
    (decodeStructField (numbered 1 fields) (index + 1) : Except CanonicalDecodeError α) =
      okOr fields[index]? invalidMapFields >>= decodeCanonical := by
  rw [decodeStructField, rejectIf_neg _ (Nat.succ_ne_zero index), ok_bind, Nat.add_sub_cancel,
    getElem?_numbered]
  cases fields[index]? with
  | none => rfl
  | some value =>
    have key : isKey (index + 1) (.unsigned (.ofNat (1 + index))) = true := by
      rw [isKey_iff, Nat.add_comm]
    rw [Option.map_some, okOr_some, ok_bind, rejectIf_neg _ (by rw [key]; decide), ok_bind,
      okOr_some, ok_bind]

@[simp] theorem decodeCanonical_uuid {kind : UuidKind} (id : UuidV7 kind) :
    decodeCanonical (CanonicalValue.text id.toText) = .ok id :=
  mapError_eq_ok.mpr (UuidV7.parse_toText id)

@[simp] theorem decodeCanonical_stableCode (code : StableCode) :
    decodeCanonical (toCanonicalValue code) = .ok code :=
  mapError_eq_ok.mpr code.parse_asStr

@[simp] theorem decodeCanonical_safeUint (number : SafeUint) :
    decodeCanonical (CanonicalValue.unsigned number.value) = .ok number :=
  mapError_eq_ok.mpr (SafeUint.new_eq_ok.mpr rfl)

@[simp] theorem decodeCanonical_digest (digest : Sha256Digest) :
    decodeCanonical (toCanonicalValue digest) = .ok digest := by
  simp [toCanonicalValue, decodeCanonical, Except.map]

end Fields

/-! ## Payloads -/

/-- Decoding a canonical value gives back the payload it was taken from. -/
def Inverts (T : Type) [RegisteredEventPayload T] : Prop :=
  ∀ payload : T, decodeCanonical (toCanonicalValue payload) = .ok payload

/-- The payload of an event about an installation. -/
structure AgentInstallationChangedV1 where
  installationId : InstallationId
  descriptorHash : Sha256Digest
  state : StableCode
  policyRevision : SafeUint
  deriving DecidableEq

namespace AgentInstallationChangedV1

def fields (payload : AgentInstallationChangedV1) : List CanonicalValue :=
  [.text payload.installationId.toText, toCanonicalValue payload.descriptorHash,
    toCanonicalValue payload.state, .unsigned payload.policyRevision.value]

def decode (value : CanonicalValue) : Except CanonicalDecodeError AgentInstallationChangedV1 := do
  let fields ← decodeStructMap value 4
  return {
    installationId := ← decodeStructField fields 1
    descriptorHash := ← decodeStructField fields 2
    state := ← decodeStructField fields 3
    policyRevision := ← decodeStructField fields 4 }

instance : RegisteredEventPayload AgentInstallationChangedV1 where
  eventType := "agent.installation.changed.v1"
  schemaVersion := 1
  aggregateType := "agent_installation"
  requiredReaderCapability := some "agent_installation.v1"
  unknownVersionPolicy := .stopCursor
  toCanonicalValue payload := record payload.fields
  decodeCanonical := decode

theorem inverts : Inverts AgentInstallationChangedV1 := by
  intro payload
  change decode (record payload.fields) = .ok payload
  have count : payload.fields.length = 4 := rfl
  rw [decode, decodeStructMap_record count]
  simp [fields]

theorem keyOrdered (payload : AgentInstallationChangedV1) :
    KeyOrdered (toCanonicalValue payload) := by
  change KeyOrdered (record payload.fields)
  apply keyOrdered_record (by simp [fields])
  simp [fields, KeyOrdered.text, KeyOrdered.bytes, KeyOrdered.unsigned, toCanonicalValue]

end AgentInstallationChangedV1

end Dirextalk.Wire
