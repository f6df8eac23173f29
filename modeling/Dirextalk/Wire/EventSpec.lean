import Dirextalk.Wire.Event

/-!
# The two verification paths agree

Every typed field of an envelope is parsed back from its canonical value, so the
bytes of an envelope parse to the envelope with its payload untyped.  Then both
paths check the same conditions on the same values, as long as the payload lists
its map entries in the order in which the decoder returns them.
-/

namespace Dirextalk.Wire

open Domain Lib

open EventIntegrityError

/-! ## Fields -/

section Fields

@[simp] theorem parseU16_value (value : UInt16) :
    parseU16 (.unsigned value.toUInt64) = .ok value := by
  have bound : value.toUInt64.toNat < UInt16.size := by simpa using value.toNat_lt
  rw [parseU16, if_pos bound, UInt16.toUInt16_toUInt64]

@[simp] theorem parseProtocolVersion_value (version : ProtocolVersion) :
    parseProtocolVersion (toCanonicalValue version) = .ok version := by
  simp only [toCanonicalValue, record, numbered, parseProtocolVersion, parseU16_value]
  rfl

@[simp] theorem parseTextPrimitive_uuid {kind : UuidKind} (id : UuidV7 kind) :
    parseTextPrimitive UuidV7.parse (.text id.toText) = .ok id :=
  mapError_eq_ok.mpr (UuidV7.parse_toText id)

@[simp] theorem parseStableCode_value (code : StableCode) :
    parseStableCode (toCanonicalValue code) = .ok code :=
  mapError_eq_ok.mpr code.parse_asStr

@[simp] theorem parseOptionalStableCode_value (code : Option StableCode) :
    parseOptionalStableCode (optionalCode code) = .ok code := by
  cases code with
  | none => rfl
  | some code => exact map_eq_ok.mpr ⟨code, parseStableCode_value code, rfl⟩

theorem parsePositiveSafeUint_value (number : SafeUint) :
    parsePositiveSafeUint (toCanonicalValue number) =
      (rejectIf (number.value = 0) contractMismatch >>= fun _ => .ok number) := by
  have valid : SafeUint.new number.value = .ok number := SafeUint.new_eq_ok.mpr rfl
  simp only [toCanonicalValue, parsePositiveSafeUint, valid]
  rfl

@[simp] theorem parseUtcMillis_value (time : UtcMillis) :
    parseUtcMillis (toCanonicalValue time) = .ok time := by
  have valid : UtcMillis.new time.value = .ok time := UtcMillis.new_eq_ok.mpr rfl
  simp only [toCanonicalValue]
  split
  next nonnegative =>
    have bound : time.value.toUInt64.toNat < 2 ^ 63 := by
      rw [Int64.toNat_toUInt64_of_le nonnegative]
      exact Int64.toNatClampNeg_lt _
    simp only [parseUtcMillis, if_pos bound, Int64.toInt64_toUInt64, ok_bind, valid]
    rfl
  next =>
    simp only [parseUtcMillis, ok_bind, valid]
    rfl

@[simp] theorem parseFixedBytes_value {length : Nat} (bytes : FixedBytes length) :
    parseFixedBytes length (.bytes bytes.toList) = .ok bytes := by
  simp [parseFixedBytes]

@[simp] theorem parseIntegrity_value [Ed25519] (integrity : EventIntegrityV1) :
    parseIntegrity (toCanonicalValue integrity) = .ok integrity := by
  cases integrity with
  | sha256 digest =>
    simp only [toCanonicalValue, record, numbered, parseIntegrity, parseFixedBytes_value]
    rfl
  | ed25519 digest signer signature =>
    have valid : SigningPublicKey.tryFrom signer.asBytes = .ok signer :=
      SigningPublicKey.tryFrom_eq_ok.mpr rfl
    simp only [toCanonicalValue, record, numbered, parseIntegrity, parseFixedBytes_value,
      ok_bind, valid]
    rfl

theorem keyOrdered_protocolVersion (version : ProtocolVersion) :
    KeyOrdered (toCanonicalValue version) := by
  apply keyOrdered_record (by simp)
  simp [KeyOrdered.unsigned]

theorem keyOrdered_time (time : UtcMillis) : KeyOrdered (toCanonicalValue time) := by
  simp only [toCanonicalValue]
  split
  · exact .unsigned _
  · exact .negative _

theorem keyOrdered_optionalCode (code : Option StableCode) : KeyOrdered (optionalCode code) := by
  cases code with
  | none => exact .null
  | some code => exact .text _

theorem keyOrdered_integrity [Ed25519] (integrity : EventIntegrityV1) :
    KeyOrdered (toCanonicalValue integrity) := by
  cases integrity with
  | sha256 digest =>
    apply keyOrdered_record (by simp)
    simp [KeyOrdered.text, KeyOrdered.bytes, toCanonicalValue]
  | ed25519 digest signer signature =>
    apply keyOrdered_record (by simp)
    simp [KeyOrdered.text, KeyOrdered.bytes, toCanonicalValue]

end Fields

theorem eventTypeVersion_ne_zero {eventType : String} {number : UInt16}
    (versioned : eventTypeVersion eventType = some number) : number ≠ 0 := by
  simp only [eventTypeVersion, Option.bind_eq_bind, Option.bind_eq_some_iff] at versioned
  obtain ⟨parts, -, versioned⟩ := versioned
  split at versioned
  · cases versioned
  · obtain ⟨parsed, -, positive⟩ := Option.bind_eq_some_iff.mp versioned
    split at positive
    · cases positive
      rintro rfl
      contradiction
    · cases positive

theorem eventDigest_congr [Sha256] {α β : Type} [CanonicalEncode α] [CanonicalEncode β] {left : α}
    {right : β} (same : toCanonicalValue left = toCanonicalValue right) :
    eventDigest left = eventDigest right := by
  simp only [eventDigest, encodeDeterministicCbor, encodeDeterministicCborWithLimit, same]

/-- Registered metadata carries the version that its event type ends in. -/
theorem versioned_of_registered {T α : Type} [RegisteredEventPayload T]
    (versioned : eventTypeVersion (RegisteredEventPayload.eventType T) =
      some (RegisteredEventPayload.schemaVersion T))
    {envelope : UnsignedEventEnvelopeV1 α} (registered : ¬mismatchesRegistry T envelope) :
    eventTypeVersion envelope.eventType.asStr = some envelope.schemaVersion := by
  simp only [mismatchesRegistry, not_or, not_not, ne_eq] at registered
  rw [registered.1, registered.2.1, versioned]

/-! ## Envelopes -/

section Envelopes

variable [Ed25519] {T : Type} (envelope : EventEnvelopeV1 T)

/-- The envelope as the decoder sees it: the payload untyped and in key order. -/
def EventEnvelopeV1.untyped [CanonicalEncode T] : EventEnvelopeV1 CanonicalValue :=
  { envelope.toUnsignedEventEnvelopeV1 with
    payload := normalize (toCanonicalValue envelope.payload)
    integrity := envelope.integrity }

/-- The values of the fourteen entries. -/
def EventEnvelopeV1.fields [CanonicalEncode T] : List CanonicalValue :=
  unsignedFields envelope.toUnsignedEventEnvelopeV1 ++ [toCanonicalValue envelope.integrity]

theorem normalize_fields [CanonicalEncode T] :
    envelope.fields.map normalize = envelope.untyped.fields := by
  have versions := fun version => (keyOrdered_protocolVersion version).normalize_eq
  simp only [EventEnvelopeV1.fields, unsignedFields, List.cons_append, List.nil_append,
    List.map_cons, List.map_nil, versions, (keyOrdered_time _).normalize_eq,
    (keyOrdered_optionalCode _).normalize_eq, (keyOrdered_integrity _).normalize_eq,
    EventEnvelopeV1.untyped]
  rfl

theorem normalize_envelope [CanonicalEncode T] :
    normalize (toCanonicalValue envelope) = record envelope.untyped.fields := by
  rw [← normalize_fields]
  exact normalize_record (by simp [unsignedFields])

variable {bytes : List UInt8}

/-- The bytes of an envelope decode to the entries of the untyped one. -/
theorem decode_envelope [CanonicalEncode T] {envelope : EventEnvelopeV1 T}
    (encoded : envelope.toDeterministicCbor = .ok bytes) :
    decodeDeterministicCbor bytes = .ok (record envelope.untyped.fields) :=
  (decode_of_encode encoded).1.trans (congrArg Except.ok (normalize_envelope envelope))

theorem keyOrdered_untyped [CanonicalEncode T] {envelope : EventEnvelopeV1 T}
    (encoded : envelope.toDeterministicCbor = .ok bytes) : KeyOrdered envelope.untyped.payload := by
  have whole : KeyOrdered (normalize (toCanonicalValue envelope)) :=
    (decode_of_encode encoded).2.2.1
  rw [normalize_envelope] at whole
  exact whole.field (by simp [EventEnvelopeV1.fields, unsignedFields, toCanonicalValue])

variable [Sha256]

/-- What both paths require of the versions and the counters. -/
def EventEnvelopeV1.Readable (reader : ProtocolVersion) : Prop :=
  envelope.protocolVersion.major = eventProtocolMajor ∧
  ensureReadable reader
    { protocol := envelope.protocolVersion
      minimumReader := envelope.minimumReaderVersion } = .ok () ∧
  envelope.aggregateRevision.value ≠ 0 ∧ envelope.streamSequence.value ≠ 0

/-- The integrity of the unsigned value, at the given level. -/
def EventEnvelopeV1.Intact [CanonicalEncode T] (verification : IntegrityVerification) : Prop :=
  ∃ digest, eventDigest envelope.toUnsignedEventEnvelopeV1 = .ok digest ∧
    verifyIntegrity digest envelope.integrity = .ok verification

variable {reader : ProtocolVersion}

theorem verify_eq_ok [RegisteredEventPayload T] {envelope : EventEnvelopeV1 T}
    {verified : VerifiedEventEnvelope T} :
    envelope.verify reader = .ok verified ↔
      envelope.Readable reader ∧ ¬mismatchesRegistry T envelope.toUnsignedEventEnvelopeV1 ∧
        envelope.Intact verified.verification ∧ verified.envelope = envelope := by
  simp only [EventEnvelopeV1.verify, EventEnvelopeV1.validateContract, bind_eq_ok, rejectIf_eq_ok,
    mapError_eq_ok, pure_eq_ok, Unique.exists_iff, PUnit.default_eq_unit, not_or, ne_eq, not_not,
    EventEnvelopeV1.Readable, EventEnvelopeV1.Intact]
  constructor
  · rintro ⟨⟨major, readable, revision, sequence, registered⟩, digest, digested, level, intact, rfl⟩
    exact ⟨⟨major, readable, revision, sequence⟩, registered, ⟨digest, digested, intact⟩, rfl⟩
  · rintro ⟨⟨major, readable, revision, sequence⟩, registered, ⟨digest, digested, intact⟩, rfl⟩
    exact ⟨⟨major, readable, revision, sequence, registered⟩, digest, digested, _, intact, rfl⟩

theorem parseEntries_fields {envelope : EventEnvelopeV1 CanonicalValue}
    {parsed : ParsedCanonicalEvent} :
    parseEntries (numbered 1 envelope.fields) reader = .ok parsed ↔
      envelope.Readable reader ∧ envelope.schemaVersion ≠ 0 ∧
        eventTypeVersion envelope.eventType.asStr = some envelope.schemaVersion ∧
        envelope.Intact parsed.verification ∧ parsed.toEventEnvelopeV1 = envelope := by
  have unsigned : CanonicalValue.map ((numbered 1 envelope.fields).take 13) =
      unsignedValue envelope.toUnsignedEventEnvelopeV1 := rfl
  rw [parseEntries, map_snd_numbered, unsigned]
  simp only [EventEnvelopeV1.fields, unsignedFields, List.cons_append, List.nil_append,
    parseProtocolVersion_value, ok_bind, parseTextPrimitive_uuid, parseStableCode_value,
    parsePositiveSafeUint_value, parseUtcMillis_value, parseOptionalStableCode_value,
    parseIntegrity_value, parsePositiveU16, parseU16_value, bind_eq_ok, rejectIf_eq_ok,
    mapError_eq_ok, pure_eq_ok, Unique.exists_iff, PUnit.default_eq_unit, ne_eq, not_not,
    EventEnvelopeV1.Readable, EventEnvelopeV1.Intact]
  constructor
  · rintro ⟨major, readable, _, ⟨revision, ⟨⟩⟩, _, ⟨sequence, ⟨⟩⟩, _, ⟨positive, rfl⟩, versioned,
      digest, digested, level, intact, rfl⟩
    exact ⟨⟨major, readable, revision, sequence⟩, positive, versioned,
      ⟨digest, digested, intact⟩, rfl⟩
  · rintro ⟨⟨major, readable, revision, sequence⟩, positive, versioned,
      ⟨digest, digested, intact⟩, rfl⟩
    exact ⟨major, readable, _, ⟨revision, rfl⟩, _, ⟨sequence, rfl⟩, _, ⟨positive, rfl⟩, versioned,
      digest, digested, _, intact, rfl⟩

/-- A decoded envelope is the encoded one with a payload that has the normal form
of the encoded payload. -/
theorem decodeAndVerify_eq_ok [RegisteredEventPayload T] {envelope : EventEnvelopeV1 T}
    (encoded : envelope.toDeterministicCbor = .ok bytes) {verified : VerifiedEventEnvelope T} :
    EventEnvelopeV1.decodeAndVerify bytes reader = .ok verified ↔
      envelope.Readable reader ∧ ¬mismatchesRegistry T envelope.toUnsignedEventEnvelopeV1 ∧
        envelope.schemaVersion ≠ 0 ∧
        eventTypeVersion envelope.eventType.asStr = some envelope.schemaVersion ∧
        envelope.untyped.Intact verified.verification ∧
        ∃ payload : T, decodeCanonical envelope.untyped.payload = .ok payload ∧
          toCanonicalValue payload = envelope.untyped.payload ∧
          verified.envelope = { envelope with payload } := by
  have keys : validateEnvelopeKeys (numbered 1 envelope.untyped.fields) = .ok () := by
    have numbers : hasKeys 1 (numbered 1 envelope.untyped.fields) = true := by
      rw [hasKeys_iff, map_snd_numbered]
    have count : (numbered 1 envelope.untyped.fields).length = 14 := by
      rw [length_numbered]
      rfl
    simp [validateEnvelopeKeys, numbers, count]
  have parsed : parseAndVerifyEvent bytes reader =
      parseEntries (numbered 1 envelope.untyped.fields) reader := by
    rw [parseAndVerifyEvent, decode_envelope encoded]
    simp only [record, Except.mapError, ok_bind, keys]
  simp only [EventEnvelopeV1.decodeAndVerify, parsed, bind_eq_ok, parseEntries_fields,
    rejectIf_eq_ok, mapError_eq_ok, pure_eq_ok, Unique.exists_iff, ne_eq, not_not]
  constructor
  · rintro ⟨⟨event, level⟩, ⟨readable, positive, versioned, intact, rfl⟩, registered, payload,
      decoded, same, rfl⟩
    exact ⟨readable, registered, positive, versioned, intact, payload, decoded, same, rfl⟩
  · rintro ⟨readable, registered, positive, versioned, intact, payload, decoded, same, whole⟩
    refine ⟨⟨envelope.untyped, verified.verification⟩,
      ⟨readable, positive, versioned, intact, rfl⟩, registered, payload, decoded, same, ?_⟩
    cases verified
    cases whole
    rfl

/-- For a payload that lists its map entries in key order, the two paths have one
outcome on the bytes of an envelope and on the envelope itself.  For any other
payload the bytes never verify as that envelope. -/
theorem decodeAndVerify_agrees_with_verify [RegisteredEventPayload T] (inverts : Inverts T)
    (versioned : eventTypeVersion (RegisteredEventPayload.eventType T) =
      some (RegisteredEventPayload.schemaVersion T))
    (envelope : EventEnvelopeV1 T) (reader : ProtocolVersion) (bytes : List UInt8)
    (encoded : envelope.toDeterministicCbor = .ok bytes) :
    (KeyOrdered (toCanonicalValue envelope.payload) →
      SameOutcome (EventEnvelopeV1.decodeAndVerify bytes reader) (envelope.verify reader)) ∧
    (¬KeyOrdered (toCanonicalValue envelope.payload) → ∀ verified : VerifiedEventEnvelope T,
      EventEnvelopeV1.decodeAndVerify bytes reader = .ok verified →
        verified.envelope ≠ envelope) := by
  constructor
  · intro ordered
    have payload : envelope.untyped.payload = toCanonicalValue envelope.payload :=
      ordered.normalize_eq
    have digests : eventDigest envelope.untyped.toUnsignedEventEnvelopeV1 =
        eventDigest envelope.toUnsignedEventEnvelopeV1 :=
      eventDigest_congr
        (congrArg (fun value => record (envelope.fields.take 12 ++ [value])) payload)
    apply sameOutcome_iff.mpr
    intro verified
    simp only [decodeAndVerify_eq_ok encoded, verify_eq_ok, payload, inverts envelope.payload,
      EventEnvelopeV1.Intact, digests]
    constructor
    · rintro ⟨readable, registered, -, -, intact, -, ⟨⟩, -, whole⟩
      exact ⟨readable, registered, intact, whole⟩
    · intro ⟨readable, registered, intact, whole⟩
      have current := versioned_of_registered versioned registered
      exact ⟨readable, registered, eventTypeVersion_ne_zero current, current, intact, _, rfl, rfl,
        whole⟩
  · intro unordered verified decoded same
    obtain ⟨-, -, -, -, -, payload, -, normal, whole⟩ := (decodeAndVerify_eq_ok encoded).mp decoded
    apply unordered
    have kept : payload = envelope.payload := by
      rw [same] at whole
      exact (congrArg (fun envelope => envelope.payload) whole).symm
    rw [← kept, normal]
    exact keyOrdered_untyped encoded

end Envelopes

/-! ## Fixed events -/

section Sample

/-- A signature scheme that accepts no signature. -/
abbrev closedEd25519 : Ed25519 := ⟨some, fun _ => false, fun _ _ _ => false⟩

attribute [local instance] closedEd25519

def sampleUnsignedEvent {T : Type} (aggregateType eventType : StableCode)
    (requiredReaderCapability : Option StableCode) (payload : T) : UnsignedEventEnvelopeV1 T where
  protocolVersion := ⟨1, 2⟩
  minimumReaderVersion := ⟨1, 0⟩
  eventId := .tagged 1
  tenantId := .tagged 2
  aggregateId := .tagged 3
  aggregateRevision := ⟨7, by decide⟩
  streamSequence := ⟨9, by decide⟩
  occurredAt := ⟨-1, by decide, by decide⟩
  schemaVersion := 1
  aggregateType
  eventType
  requiredReaderCapability
  payload

/-- The envelope with a hash of its fields and no signature. -/
def hashed {T : Type} (unsigned : UnsignedEventEnvelopeV1 T) (digest : FixedBytes 32) :
    EventEnvelopeV1 T :=
  { unsigned with integrity := .sha256 ⟨digest⟩ }

theorem one_le_maxSafeUint : 1 ≤ maxSafeUint := by decide

def sampleInstallation : UnsignedEventEnvelopeV1 AgentInstallationChangedV1 :=
  sampleUnsignedEvent ⟨"agent_installation", by decide +kernel⟩
    ⟨"agent.installation.changed.v1", by decide +kernel⟩
    (some ⟨"agent_installation.v1", by decide +kernel⟩)
    { installationId := .tagged 4
      descriptorHash := ⟨taggedBytes 5⟩
      state := ⟨"active", by decide +kernel⟩
      policyRevision := ⟨1, one_le_maxSafeUint⟩ }

/-- SHA-256 of the fields of `sampleInstallation`. -/
def installationDigest : FixedBytes 32 :=
  ⟨[0x84, 0x13, 0x5e, 0x56, 0xcb, 0xbc, 0x16, 0xbb, 0x7b, 0x06, 0xd1, 0xe0, 0xfe, 0xd5, 0x2b, 0xd2,
    0x5e, 0x05, 0x06, 0xe6, 0xc9, 0x0a, 0x1b, 0x04, 0xf4, 0x74, 0xb9, 0x0d, 0xbe, 0xf2, 0x18, 0xf5],
    rfl⟩

/-- The bytes of a hashed installation event verify for an older reader. -/
theorem installation_event_agrees :
    let _ : Sha256 := ⟨fun _ => installationDigest⟩
    ∃ bytes, (hashed sampleInstallation installationDigest).toDeterministicCbor = .ok bytes ∧
      EventEnvelopeV1.decodeAndVerify bytes ⟨1, 0⟩ =
        .ok ⟨hashed sampleInstallation installationDigest, .hashOnly⟩ := by
  intro hash
  have encoded : (hashed sampleInstallation installationDigest).toDeterministicCbor =
      .ok (wire (toCanonicalValue (hashed sampleInstallation installationDigest))) := by
    decide +kernel
  have versioned : eventTypeVersion "agent.installation.changed.v1" = some 1 := by decide +kernel
  have agree := (decodeAndVerify_agrees_with_verify AgentInstallationChangedV1.inverts versioned _
    ⟨1, 0⟩ _ encoded).1 (AgentInstallationChangedV1.keyOrdered _)
  have verified : (hashed sampleInstallation installationDigest).verify ⟨1, 0⟩ =
      .ok ⟨hashed sampleInstallation installationDigest, .hashOnly⟩ := by
    decide +kernel
  exact ⟨_, encoded, (sameOutcome_iff.mp agree _).mpr verified⟩

/-- A payload that lists the entries of its map against their key order. -/
inductive ReversedPayload where
  | only
  deriving DecidableEq

namespace ReversedPayload

def value : CanonicalValue := .map [(.unsigned 2, .null), (.unsigned 1, .null)]

instance : RegisteredEventPayload ReversedPayload where
  eventType := "sample.reversed.v1"
  schemaVersion := 1
  aggregateType := "sample"
  requiredReaderCapability := none
  unknownVersionPolicy := .preserveAndSkip
  toCanonicalValue _ := value
  decodeCanonical found := if found = value then .ok .only else .error .typeMismatch

theorem inverts : Inverts ReversedPayload := by
  intro payload
  cases payload
  exact if_pos rfl

/-- SHA-256 of the fields of `event`. -/
def digest : FixedBytes 32 :=
  ⟨[0x09, 0x91, 0x33, 0xdd, 0xcd, 0x87, 0xa1, 0x70, 0x99, 0x6f, 0x3f, 0xa0, 0x27, 0xf5, 0x5d, 0xfb,
    0x75, 0xe0, 0xaf, 0xe5, 0xa5, 0x4c, 0xb9, 0xbb, 0xfc, 0x8b, 0x46, 0xf3, 0xdf, 0xbc, 0x48, 0xfe],
    rfl⟩

def event : EventEnvelopeV1 ReversedPayload :=
  hashed (sampleUnsignedEvent ⟨"sample", by decide +kernel⟩
    ⟨"sample.reversed.v1", by decide +kernel⟩ none .only) digest

end ReversedPayload

/-- Without the condition on key order the two paths disagree: the decoder returns
the map of `ReversedPayload` sorted, which is not the canonical value of any payload. -/
theorem reversed_payload_disagrees :
    let _ : Sha256 := ⟨fun _ => ReversedPayload.digest⟩
    ¬∀ (T : Type) [RegisteredEventPayload T], Inverts T →
      eventTypeVersion (RegisteredEventPayload.eventType T) =
        some (RegisteredEventPayload.schemaVersion T) →
      ∀ (envelope : EventEnvelopeV1 T) (reader : ProtocolVersion) (bytes : List UInt8),
        envelope.toDeterministicCbor = .ok bytes →
          SameOutcome (EventEnvelopeV1.decodeAndVerify bytes reader) (envelope.verify reader) := by
  intro hash claimed
  have encoded : ReversedPayload.event.toDeterministicCbor =
      .ok (wire (toCanonicalValue ReversedPayload.event)) := by
    decide +kernel
  have versioned : eventTypeVersion "sample.reversed.v1" = some 1 := by decide +kernel
  have agree := claimed ReversedPayload ReversedPayload.inverts versioned _ ⟨1, 0⟩ _ encoded
  have verified : ReversedPayload.event.verify ⟨1, 0⟩ =
      .ok ⟨ReversedPayload.event, .hashOnly⟩ := by
    decide +kernel
  have decoded := (sameOutcome_iff.mp agree _).mpr verified
  obtain ⟨-, -, -, -, -, payload, typed, -, -⟩ := (decodeAndVerify_eq_ok encoded).mp decoded
  have sorted : ReversedPayload.event.untyped.payload ≠ ReversedPayload.value := by
    decide +kernel
  cases (if_neg sorted).symm.trans typed

end Sample

end Dirextalk.Wire
