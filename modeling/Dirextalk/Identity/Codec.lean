import Dirextalk.Identity.Events

/-!
# The event codec

Every document of an identity log is small enough to be encoded, and every decoder
reads back what the matching encoder wrote.  Field by field and document by
document, these two facts make the codec of signed events a round trip in both
directions.
-/

namespace Dirextalk.Identity

open Domain Lib Wire

open Failure IdentityLogError

/-! ## Records -/

section Records

variable {fields : List CanonicalValue}

@[simp] theorem exactFields_record {count : Nat} (length_eq : fields.length = count) :
    exactFields (record fields) count = .ok (numbered 1 fields) := by
  have keys : hasKeys 1 (numbered 1 fields) = true := by
    rw [hasKeys_iff, map_snd_numbered]
  simp [exactFields, record, length_eq, keys]

@[simp] theorem field_numbered (index : Nat) :
    field (numbered 1 fields) (index + 1) = okOr fields[index]? (returned invalidCanonical) := by
  rw [field, rejectIf_neg _ (Nat.succ_ne_zero index), ok_bind, Nat.add_sub_cancel,
    ← List.getElem?_map, map_snd_numbered]

end Records

/-! ## Fields -/

section Fields

theorem smallField_identity (identityId : IdentityId) : SmallField (identityValue identityId) :=
  smallField_text (by rw [PublicId.toText_size]; decide)

theorem smallField_device (deviceId : DeviceId) : SmallField (deviceIdValue deviceId) :=
  smallField_text (by rw [UuidV7.toText_size]; decide)

theorem smallField_time (time : UtcMillis) : SmallField (toCanonicalValue time) := by
  simp only [toCanonicalValue]
  split
  next => exact smallField_unsigned _
  next negative =>
    exact (within_negative (Int64.not_le.mp negative)).mono (by decide) (by decide) (by decide)

theorem smallField_optionalDigest (digest : Option Sha256Digest) :
    SmallField (optionalDigest digest) := by
  cases digest with
  | none => exact within_null.mono (by decide) (by decide) (by decide)
  | some digest => exact smallField_bytes digest.bytes (by decide)

@[simp] theorem decodeExactBytes_bytes {length : Nat} (bytes : FixedBytes length) :
    decodeExactBytes length (.bytes bytes.toList) = .ok bytes := by
  simp [decodeExactBytes]

@[simp] theorem decodeSafeUint_value (number : SafeUint) :
    decodeSafeUint (toCanonicalValue number) = .ok number :=
  mapError_eq_ok.mpr (SafeUint.new_eq_ok.mpr rfl)

@[simp] theorem decodeOptionalDigest_value (digest : Option Sha256Digest) :
    decodeOptionalDigest (optionalDigest digest) = .ok digest := by
  cases digest with
  | none => rfl
  | some digest =>
    simp [optionalDigest, toCanonicalValue, decodeOptionalDigest, decodeDigest, Except.map]

@[simp] theorem decodeUtcMillis_value (time : UtcMillis) :
    decodeUtcMillis (toCanonicalValue time) = .ok time := by
  have millis : decodeMillis (toCanonicalValue time) = .ok time.value := by
    simp only [toCanonicalValue]
    split
    next nonnegative =>
      have bound : time.value.toUInt64.toNat < 2 ^ 63 := by
        rw [Int64.toNat_toUInt64_of_le nonnegative]
        exact Int64.toNatClampNeg_lt _
      rw [decodeMillis, if_pos bound, Int64.toInt64_toUInt64]
    next => rfl
  rw [decodeUtcMillis, millis, ok_bind, mapError_eq_ok, UtcMillis.new_eq_ok]

@[simp] theorem decodeIdentityId_value (identityId : IdentityId) :
    decodeIdentityId (identityValue identityId) = .ok identityId :=
  mapError_eq_ok.mpr (PublicId.parse_toText identityId)

@[simp] theorem decodeDeviceId_value (deviceId : DeviceId) :
    decodeDeviceId (deviceIdValue deviceId) = .ok deviceId :=
  mapError_eq_ok.mpr (UuidV7.parse_toText deviceId)

@[simp] theorem decodeEncryptionKey_value (key : DeviceEncryptionPublicKey) :
    decodeEncryptionKey (toCanonicalValue key) = .ok key := by
  have valid : DeviceEncryptionPublicKey.tryFrom key.bytes = .ok key := dif_pos key.nonzero
  simp [decodeEncryptionKey, toCanonicalValue, valid]

@[simp] theorem decodeSignature_value (signature : Ed25519Signature) :
    decodeSignature (toCanonicalValue signature) = .ok signature := by
  simp [decodeSignature, toCanonicalValue]

@[simp] theorem decodeSigningKey_value [Ed25519] (key : SigningPublicKey) :
    decodeSigningKey (toCanonicalValue key) = .ok key := by
  simp [decodeSigningKey, toCanonicalValue, SigningPublicKey.tryFrom_eq_ok]

end Fields

/-! ## Versions -/

variable (version : ProtocolVersion)

theorem protocolVersion_value :
    toCanonicalValue version =
      record [.unsigned version.major.toUInt64, .unsigned version.minor.toUInt64] := rfl

theorem wireVersion_value (wire : WireVersion) :
    toCanonicalValue wire =
      record [toCanonicalValue wire.protocol, toCanonicalValue wire.minimumReader] := rfl

theorem within_protocolVersion : Within 2 5 173 (toCanonicalValue version) := by
  have fields : ∀ field ∈ [.unsigned version.major.toUInt64, .unsigned version.minor.toUInt64],
      SmallField field := by
    simp [smallField_unsigned]
  exact within_record 2 fields (by simp) (by decide)

theorem within_wireVersion (wire : WireVersion) : Within 3 13 373 (toCanonicalValue wire) := by
  have fields : ∀ field ∈ [toCanonicalValue wire.protocol, toCanonicalValue wire.minimumReader],
      Within 2 5 173 field := by
    simp [within_protocolVersion]
  exact within_record 2 fields (by simp) (by decide)

@[simp] theorem decodeU16_value (value : UInt16) :
    decodeU16 (.unsigned value.toUInt64) = .ok value := by
  have bound : value.toUInt64.toNat < UInt16.size := by simpa using value.toNat_lt
  rw [decodeU16, decodeUnsigned, ok_bind, if_pos bound, UInt16.toUInt16_toUInt64]
  rfl

@[simp] theorem decodeProtocolVersion_value :
    decodeProtocolVersion (toCanonicalValue version) = .ok version := by
  simp [decodeProtocolVersion, protocolVersion_value]

theorem decodeWireVersion_value {wire : WireVersion}
    (supported : validateWireVersion wire = .ok ()) :
    decodeWireVersion (toCanonicalValue wire) = .ok wire := by
  simp [decodeWireVersion, wireVersion_value, supported]

/-- Room for a version or any smaller field. -/
abbrev PlainField (value : CanonicalValue) : Prop := Within 3 13 373 value

theorem plainField {value : CanonicalValue} (small : SmallField value) : PlainField value :=
  small.mono (by decide) (by decide) (by decide)

/-! ## Certificates -/

section Certificates

variable [Ed25519] {certificate : DeviceCertificateV1}

theorem certificate_value (certificate : DeviceCertificateV1) :
    toCanonicalValue certificate =
      record (certificate.unsigned.fields ++ [toCanonicalValue certificate.signature]) := rfl

theorem smallField_key (key : SigningPublicKey) : SmallField (toCanonicalValue key) :=
  smallField_bytes key.asBytes (by decide)

theorem within_certificate_fields (unsigned : UnsignedDeviceCertificateV1) :
    ∀ field ∈ unsigned.fields, PlainField field := by
  simp only [UnsignedDeviceCertificateV1.fields, List.forall_mem_cons, List.not_mem_nil,
    false_implies, implies_true, and_true]
  exact ⟨within_wireVersion _, plainField (smallField_identity _),
    plainField (smallField_device _), plainField (smallField_key _),
    plainField (smallField_bytes _ (by decide)), plainField (smallField_key _),
    plainField (smallField_time _)⟩

theorem within_certificate (certificate : DeviceCertificateV1) :
    Within 4 113 3065 (toCanonicalValue certificate) := by
  have fields : ∀ field ∈ certificate.unsigned.fields ++ [toCanonicalValue certificate.signature],
      PlainField field := by
    rw [List.forall_mem_append, List.forall_mem_singleton]
    exact ⟨within_certificate_fields _, plainField (smallField_bytes _ (by decide))⟩
  exact within_record 8 fields (by simp [UnsignedDeviceCertificateV1.fields]) (by decide)

theorem UnsignedDeviceCertificateV1.new_self (unsigned : UnsignedDeviceCertificateV1) :
    new unsigned.wire unsigned.identityId unsigned.deviceId unsigned.deviceSigningKey
      unsigned.deviceEncryptionKey unsigned.issuerRootKey unsigned.issuedAt = .ok unsigned := by
  unfold new
  split
  next error failed =>
    rw [unsigned.wire_supported] at failed
    cases failed
  next supported =>
    exact dif_neg (not_or.mpr ⟨unsigned.signing_ne_encryption, unsigned.signing_ne_issuer⟩)

theorem decodeDeviceCertificate_value [Sha256] (verified : certificate.verify = .ok ()) :
    decodeDeviceCertificate (toCanonicalValue certificate) = .ok certificate := by
  have wire := decodeWireVersion_value certificate.unsigned.wire_supported
  simp [decodeDeviceCertificate, certificate_value, UnsignedDeviceCertificateV1.fields, wire,
    UnsignedDeviceCertificateV1.new_self, DeviceCertificateV1.signed, verified]

end Certificates

/-! ## Relay descriptors -/

variable (descriptor : RelayDescriptorV1)

theorem relayDescriptor_value :
    toCanonicalValue descriptor =
      record [toCanonicalValue descriptor.wire, .array (descriptor.relayUrls.map .text),
        toCanonicalValue descriptor.expiresAt] := rfl

theorem validateRelayUrls_eq_ok {relayUrls : List String} {done : Unit}
    (valid : validateRelayUrls relayUrls = .ok done) :
    relayUrls.length ≤ maxRelayUrls ∧
      ∀ url ∈ relayUrls, (textBytes url).length ≤ maxRelayUrlBytes := by
  simp only [validateRelayUrls, bind_eq_ok, rejectIf_eq_ok, exists_const, not_or, not_lt,
    Bool.not_eq_false, List.all_eq_true] at valid
  obtain ⟨⟨-, few⟩, -, urls⟩ := valid
  refine ⟨few, fun url member => ?_⟩
  have valid := urls url member
  simp only [validRelayUrl, Bool.and_eq_true, decide_eq_true_eq] at valid
  obtain ⟨⟨⟨⟨⟨⟨⟨⟨short, -⟩, -⟩, -⟩, -⟩, -⟩, -⟩, -⟩, -⟩ := valid
  exact short

theorem within_relayUrls {relayUrls : List String} (valid : validateRelayUrls relayUrls = .ok ()) :
    Within 2 9 4177 (.array (relayUrls.map .text)) := by
  obtain ⟨few, short⟩ := validateRelayUrls_eq_ok valid
  have urls : ∀ value ∈ relayUrls.map CanonicalValue.text, Within 1 1 521 value := by
    intro value member
    obtain ⟨url, listed, rfl⟩ := List.mem_map.mp member
    exact within_text (short url listed) (by decide)
  exact within_array maxRelayUrls urls (by simpa using few) (by decide)

theorem within_relayDescriptor : Within 4 43 12567 (toCanonicalValue descriptor) := by
  have fields : ∀ field ∈ [toCanonicalValue descriptor.wire,
      .array (descriptor.relayUrls.map .text), toCanonicalValue descriptor.expiresAt],
      Within 3 13 4177 field := by
    simp only [List.forall_mem_cons, List.not_mem_nil, false_implies, implies_true, and_true]
    refine ⟨(within_wireVersion _).mono ?_ ?_ ?_, (within_relayUrls descriptor.urls_valid).mono
      ?_ ?_ ?_, (smallField_time _).mono ?_ ?_ ?_⟩ <;> decide
  exact within_record 3 fields (by simp) (by decide)

theorem decodeRelayUrls_value (relayUrls : List String) :
    decodeRelayUrls (.array (relayUrls.map .text)) = .ok relayUrls := by
  rw [decodeRelayUrls]
  induction relayUrls with
  | nil => rfl
  | cons url rest ih => simp [decodeRelayUrl, ih]

theorem RelayDescriptorV1.new_self :
    new descriptor.wire descriptor.relayUrls descriptor.expiresAt = .ok descriptor := by
  unfold new
  split
  next error failed =>
    rw [descriptor.wire_supported] at failed
    cases failed
  next =>
    split
    next error failed =>
      rw [descriptor.urls_valid] at failed
      cases failed
    next => rfl

@[simp] theorem decodeRelayDescriptor_value :
    decodeRelayDescriptor (toCanonicalValue descriptor) = .ok descriptor := by
  have wire := decodeWireVersion_value descriptor.wire_supported
  simp [decodeRelayDescriptor, relayDescriptor_value, wire, decodeRelayUrls_value,
    RelayDescriptorV1.new_self]

/-! ## Payloads -/

/-- Room for a document. -/
abbrev DocumentField (value : CanonicalValue) : Prop := Within 4 113 12567 value

theorem documentField {value : CanonicalValue} (small : SmallField value) : DocumentField value :=
  small.mono (by decide) (by decide) (by decide)

/-- A payload record of up to four documents. -/
theorem within_payload {fields : List CanonicalValue}
    (within : ∀ field ∈ fields, DocumentField field) (few : fields.length ≤ 4) :
    Within 5 457 50313 (record fields) :=
  within_record 4 within few (by decide)

section Payloads

variable [Ed25519] [Sha256]

open IdentityLogEventPayloadV1 in
/-- A payload that passes the static checks is encoded and read back. -/
theorem payload_codec {unsigned : UnsignedIdentityLogEventV1} {line : IdentityLogWireLine}
    {payload : IdentityLogEventPayloadV1} (wire_line : identityLogWireLine unsigned.wire = .ok line)
    (checked : unsigned.validatePayload line payload = .ok ()) :
    ∃ value, payload.toCanonicalValueForWire unsigned.wire = .ok value ∧
      Within 5 457 50313 value ∧ decodePayload payload.kind value unsigned.wire = .ok payload := by
  have key (key : SigningPublicKey) : DocumentField (toCanonicalValue key) :=
    documentField (smallField_key key)
  have signature (signature : Ed25519Signature) : DocumentField (toCanonicalValue signature) :=
    documentField (smallField_bytes signature.bytes (by decide))
  have opened (convert : Failure → Failure) :
      (identityLogWireLine unsigned.wire).mapError convert = .ok line :=
    mapError_eq_ok.mpr wire_line
  cases payload with
  | genesis rootKey recoveryKey acceptance =>
    refine ⟨record [toCanonicalValue rootKey, toCanonicalValue recoveryKey,
      toCanonicalValue acceptance], ?_, within_payload (by simp [key, signature]) (by simp), ?_⟩
    · simp [toCanonicalValueForWire, opened]
    · simp [decodePayload, kind]
  | deviceAdd certificate =>
    simp only [UnsignedIdentityLogEventV1.validatePayload, bind_eq_ok, rejectIf_eq_ok,
      exists_const] at checked
    obtain ⟨-, -, -, verified⟩ := checked
    have document : DocumentField (toCanonicalValue certificate) :=
      (within_certificate certificate).mono (by decide) (by decide) (by decide)
    refine ⟨record [toCanonicalValue certificate], ?_,
      within_payload (by simp [document]) (by simp), ?_⟩
    · simp [toCanonicalValueForWire, opened]
    · simp [decodePayload, kind, decodeDeviceCertificate_value verified]
  | deviceRevoke deviceId =>
    refine ⟨record [deviceIdValue deviceId], ?_,
      within_payload (by simp [documentField (smallField_device deviceId)]) (by simp), ?_⟩
    · simp [toCanonicalValueForWire, opened]
    · simp [decodePayload, kind]
  | rootRotate successor acceptance =>
    refine ⟨record [toCanonicalValue successor, toCanonicalValue acceptance], ?_,
      within_payload (by simp [key, signature]) (by simp), ?_⟩
    · simp [toCanonicalValueForWire, opened]
    · simp [decodePayload, kind]
  | recoveryRotate successor acceptance authorization =>
    simp only [UnsignedIdentityLogEventV1.validatePayload, bind_eq_ok] at checked
    obtain ⟨-, -, checked⟩ := checked
    -- the static check is what makes the `expect` of the encoder safe
    cases line with
    | frozenV10 =>
      cases authorization with
      | some authorization => cases checked
      | none =>
        refine ⟨record [toCanonicalValue successor, toCanonicalValue acceptance], ?_,
          within_payload (by simp [key, signature]) (by simp), ?_⟩
        · simp [toCanonicalValueForWire, opened, recoveryRotateFields]
        · simp [decodePayload, kind, wire_line, decodeRecoveryRotate]
    | currentV11 =>
      cases authorization with
      | none => cases checked
      | some authorization =>
        refine ⟨record [toCanonicalValue successor, toCanonicalValue acceptance,
          toCanonicalValue authorization], ?_,
          within_payload (by simp [key, signature]) (by simp), ?_⟩
        · simp [toCanonicalValueForWire, opened, recoveryRotateFields]
        · simp [decodePayload, kind, wire_line, decodeRecoveryRotate]
  | recoveryRestore newRoot newRecovery rootAcceptance recoveryAcceptance =>
    refine ⟨record [toCanonicalValue newRoot, toCanonicalValue newRecovery,
      toCanonicalValue rootAcceptance, toCanonicalValue recoveryAcceptance], ?_,
      within_payload (by simp [key, signature]) (by simp), ?_⟩
    · simp [toCanonicalValueForWire, opened]
    · simp [decodePayload, kind]
  | relayDescriptor descriptor =>
    have document : DocumentField (toCanonicalValue descriptor) :=
      (within_relayDescriptor descriptor).mono (by decide) (by decide) (by decide)
    refine ⟨record [toCanonicalValue descriptor], ?_,
      within_payload (by simp [document]) (by simp), ?_⟩
    · simp [toCanonicalValueForWire, opened]
    · simp [decodePayload, kind]

end Payloads

/-! ## Events -/

section Events

variable [Ed25519] [Sha256] {event : IdentityLogEventV1}

omit [Ed25519] [Sha256] in
@[simp] theorem fromCode_code (kind : IdentityLogEventKindV1) :
    IdentityLogEventKindV1.fromCode kind.code = .ok kind := by
  cases kind <;> rfl

theorem validateWireVersion_of_static {unsigned : UnsignedIdentityLogEventV1}
    (checked : unsigned.validateStatic = .ok ()) : validateWireVersion unsigned.wire = .ok () := by
  obtain ⟨line, wireLine, -⟩ := bind_eq_ok.mp checked
  exact map_eq_ok.mpr ⟨line, wireLine, rfl⟩

/-- The parts of an event that has passed its checks, encoded. -/
theorem fields_codec {unsigned : UnsignedIdentityLogEventV1}
    (checked : unsigned.validateStatic = .ok ()) :
    ∃ payload, unsigned.fields = .ok [toCanonicalValue unsigned.wire,
        identityValue unsigned.identityId, toCanonicalValue unsigned.sequence,
        optionalDigest unsigned.previousEventHash, toCanonicalValue unsigned.occurredAt,
        .unsigned unsigned.payload.kind.code, payload, toCanonicalValue unsigned.signer] ∧
      Within 5 457 50313 payload ∧
      decodePayload unsigned.payload.kind payload unsigned.wire = .ok unsigned.payload := by
  simp only [UnsignedIdentityLogEventV1.validateStatic, bind_eq_ok] at checked
  obtain ⟨line, wireLine, -, -, payloadChecked⟩ := checked
  obtain ⟨payload, encoded, within, decoded⟩ := payload_codec wireLine payloadChecked
  exact ⟨payload, by simp [UnsignedIdentityLogEventV1.fields, encoded], within, decoded⟩

/-- A verified event is encoded within bounds and read back. -/
theorem event_codec (verified : event.verify = .ok ()) :
    ∃ value, event.toCanonicalValue = .ok value ∧ Within 6 4123 452907 value ∧
      decodeEvent value = .ok event := by
  obtain ⟨⟨⟩, checked, -⟩ := bind_eq_ok.mp verified
  obtain ⟨payload, encoded, within, decoded⟩ := fields_codec checked
  have small {value : CanonicalValue} (small : SmallField value) : Within 5 457 50313 value :=
    small.mono (by decide) (by decide) (by decide)
  have fields : ∀ field ∈ [toCanonicalValue event.unsigned.wire,
      identityValue event.unsigned.identityId, toCanonicalValue event.unsigned.sequence,
      optionalDigest event.unsigned.previousEventHash, toCanonicalValue event.unsigned.occurredAt,
      .unsigned event.unsigned.payload.kind.code, payload, toCanonicalValue event.unsigned.signer,
      toCanonicalValue event.signature], Within 5 457 50313 field := by
    simp only [List.forall_mem_cons, List.not_mem_nil, false_implies, implies_true, and_true]
    exact ⟨(within_wireVersion _).mono (by decide) (by decide) (by decide),
      small (smallField_identity _), small (smallField_unsigned _),
      small (smallField_optionalDigest _), small (smallField_time _),
      small (smallField_unsigned _), within, small (smallField_key _),
      small (smallField_bytes _ (by decide))⟩
  refine ⟨_, ?_, within_record 9 fields (by simp) (by decide), ?_⟩
  · simp [IdentityLogEventV1.toCanonicalValue, encoded]
  · have wire := decodeWireVersion_value (validateWireVersion_of_static checked)
    simp [decodeEvent, wire, decodeUnsigned, decoded, UnsignedIdentityLogEventV1.new, checked,
      IdentityLogEventV1.signed, verified]

/-- The bytes of a verified event. -/
theorem event_bytes (verified : event.verify = .ok ()) :
    ∃ bytes, event.toDeterministicCbor = .ok bytes ∧
      IdentityLogEventV1.decodeAndVerify bytes = .ok event := by
  obtain ⟨value, valued, within, decoded⟩ := event_codec verified
  obtain ⟨encodes, decodes⟩ := within.roundTrip (by decide) (by decide) (by decide)
  have encoded : event.toDeterministicCbor = .ok (wire value) := by
    rw [IdentityLogEventV1.toDeterministicCbor, valued, ok_bind, mapError_eq_ok]
    exact encodes
  refine ⟨wire value, encoded, ?_⟩
  rw [IdentityLogEventV1.decodeAndVerify, mapError_eq_ok.mpr decodes, ok_bind, decoded, ok_bind,
    encoded, ok_bind, rejectIf_neg _ (not_not.mpr rfl)]
  rfl

/-- A signed event is encoded without a failed `expect` and decoded to itself, and
bytes that decode to an event are its encoding. -/
theorem event_round_trip :
    (∀ unsigned signature event, IdentityLogEventV1.signed unsigned signature = .ok event →
      ∃ bytes, event.toDeterministicCbor = .ok bytes ∧
        IdentityLogEventV1.decodeAndVerify bytes = .ok event) ∧
    ∀ bytes event, IdentityLogEventV1.decodeAndVerify bytes = .ok event →
      event.toDeterministicCbor = .ok bytes := by
  constructor
  · intro unsigned signature event signed
    simp only [IdentityLogEventV1.signed, bind_eq_ok, pure_eq_ok] at signed
    obtain ⟨⟨⟩, verified, rfl⟩ := signed
    exact event_bytes verified
  · intro bytes event decoded
    simp only [IdentityLogEventV1.decodeAndVerify, bind_eq_ok, rejectIf_eq_ok, exists_const,
      pure_eq_ok, not_not] at decoded
    obtain ⟨value, -, other, -, encoding, encoded, rfl, rfl⟩ := decoded
    exact encoded

end Events

section Sample

/-- A scheme under which every key is valid and every signature verifies. -/
abbrev openEd25519 : Ed25519 := ⟨some, fun _ => false, fun _ _ _ => true⟩

/-- A digest that only counts bytes. -/
abbrev countingSha256 : Sha256 :=
  ⟨fun bytes => taggedBytes bytes.length.toUInt8⟩

attribute [local instance] openEd25519 countingSha256

def sampleKey (tag : UInt8) : SigningPublicKey := ⟨⟨taggedBytes tag, rfl, rfl⟩⟩

def sampleSignature : Ed25519Signature := ⟨⟨List.replicate 64 0, rfl⟩⟩

def sampleIdentity : IdentityId := .derive (sampleKey 1).key

def sampleTime : UtcMillis := ⟨0, by decide, by decide⟩

def sampleDevice : DeviceId := .tagged 0

def sampleCertificate : DeviceCertificateV1 where
  unsigned :=
    { wire := identityLogWireVersion
      identityId := sampleIdentity
      deviceId := sampleDevice
      deviceSigningKey := sampleKey 3
      deviceEncryptionKey := ⟨taggedBytes 4, rfl⟩
      issuerRootKey := sampleKey 1
      issuedAt := sampleTime
      wire_supported := rfl
      signing_ne_encryption := by decide
      signing_ne_issuer := by decide }
  signature := sampleSignature

/-- An event that the root key signs. -/
def sampleEvent (sequence : SafeUint) (previousEventHash : Option Sha256Digest)
    (payload : IdentityLogEventPayloadV1) : IdentityLogEventV1 where
  unsigned :=
    { wire := identityLogWireVersion
      identityId := sampleIdentity
      sequence, previousEventHash, occurredAt := sampleTime, payload, signer := sampleKey 1 }
  signature := sampleSignature

def sampleGenesis : IdentityLogEventV1 :=
  sampleEvent ⟨1, by decide⟩ none (.genesis (sampleKey 1) (sampleKey 2) sampleSignature)

theorem sampleGenesis_round_trip :
    ∃ bytes, sampleGenesis.toDeterministicCbor = .ok bytes ∧
      IdentityLogEventV1.decodeAndVerify bytes = .ok sampleGenesis := by
  have signed : IdentityLogEventV1.signed sampleGenesis.unsigned sampleSignature =
      .ok sampleGenesis := by
    decide +kernel
  exact event_round_trip.1 _ _ _ signed

end Sample

end Dirextalk.Identity
