import Dirextalk.Identity.Certificates

/-!
# Identity-log events

The seven transitions, their canonical encoding on both wire lines, the static
checks of an event and the byte strings that its signers authenticate; and the
hand-written decoders, which also compare with the re-encoding.
-/

namespace Dirextalk.Identity

open Domain Lib Wire

open Failure IdentityLogError

/-! ## Signature inputs -/

def genesisRecoveryAcceptanceHashDomain : List UInt8 :=
  textBytes "dirextalk.identity-log-genesis-recovery-acceptance.v1\x00"
def genesisRecoveryAcceptanceSignatureDomain : List UInt8 :=
  textBytes "dirextalk.identity-log-genesis-recovery-acceptance-signature.v1\x00"
def keyRotationAcceptanceHashDomain : List UInt8 :=
  textBytes "dirextalk.identity-log-key-acceptance.v1\x00"
def keyRotationAcceptanceSignatureDomain : List UInt8 :=
  textBytes "dirextalk.identity-log-key-acceptance-signature.v1\x00"
def recoveryRotationAuthorizationHashDomain : List UInt8 :=
  textBytes "dirextalk.identity-log-recovery-rotation-authorization.v1\x00"
def recoveryRotationAuthorizationSignatureDomain : List UInt8 :=
  textBytes "dirextalk.identity-log-recovery-rotation-authorization-signature.v1\x00"

/-- The exact transition for which a successor key must prove possession. -/
inductive KeyAcceptancePurposeV1 where
  | rootRotate
  | recoveryRotate
  | recoveryRestoreRoot
  | recoveryRestoreRecovery
  deriving DecidableEq, Repr

def KeyAcceptancePurposeV1.code : KeyAcceptancePurposeV1 → UInt64
  | .rootRotate => 1
  | .recoveryRotate => 2
  | .recoveryRestoreRoot => 3
  | .recoveryRestoreRecovery => 4

/-- `digest.map_or(CanonicalValue::Null, |value| value.to_canonical_value())`. -/
def optionalDigest (digest : Option Sha256Digest) : CanonicalValue :=
  digest.elim .null toCanonicalValue

def identityLogSignatureInput (digest : Sha256Digest) : List UInt8 :=
  signatureInput identityLogSignatureDomain digest

section Inputs

variable [Ed25519] [Sha256]

/-- The proof-of-possession bytes for a genesis recovery key. -/
def genesisRecoveryAcceptanceInput (identityId : IdentityId)
    (rootSigningKey recoverySigningKey : SigningPublicKey) : Except Failure (List UInt8) := do
  let digest ← canonicalHash genesisRecoveryAcceptanceHashDomain (record
    [identityValue identityId, toCanonicalValue rootSigningKey,
      toCanonicalValue recoverySigningKey])
  return signatureInput genesisRecoveryAcceptanceSignatureDomain digest

/-- The proof-of-possession bytes for a successor authority key. -/
def keyRotationAcceptanceInput (identityId : IdentityId) (sequence : SafeUint)
    (previousEventHash : Option Sha256Digest) (purpose : KeyAcceptancePurposeV1)
    (successorKey : SigningPublicKey) : Except Failure (List UInt8) := do
  rejectIf (sequence.value = 0) (returned invalidRotation)
  let digest ← canonicalHash keyRotationAcceptanceHashDomain (record
    [identityValue identityId, toCanonicalValue sequence, optionalDigest previousEventHash,
      .unsigned purpose.code, toCanonicalValue successorKey])
  return signatureInput keyRotationAcceptanceSignatureDomain digest

/-- The bytes that the current recovery key signs for a recovery rotation. -/
def recoveryRotationAuthorizationInput (wire : WireVersion) (identityId : IdentityId)
    (sequence : SafeUint) (previousEventHash : Option Sha256Digest) (occurredAt : UtcMillis)
    (rootSigner successorKey : SigningPublicKey)
    (successorAcceptanceSignature : Ed25519Signature) : Except Failure (List UInt8) := do
  rejectIf ((← identityLogWireLine wire) ≠ .currentV11) (returned invalidWireVersion)
  rejectIf (sequence.value = 0) (returned invalidRotation)
  let digest ← canonicalHash recoveryRotationAuthorizationHashDomain (record
    [toCanonicalValue wire, identityValue identityId, toCanonicalValue sequence,
      optionalDigest previousEventHash, toCanonicalValue occurredAt, toCanonicalValue rootSigner,
      toCanonicalValue successorKey, toCanonicalValue successorAcceptanceSignature])
  return signatureInput recoveryRotationAuthorizationSignatureDomain digest

end Inputs

/-! ## Payloads -/

section Events

variable [Ed25519]

/-- The transition encoded by an event. -/
inductive IdentityLogEventPayloadV1 where
  | genesis (rootSigningKey recoverySigningKey : SigningPublicKey)
      (recoveryAcceptanceSignature : Ed25519Signature)
  | deviceAdd (certificate : DeviceCertificateV1)
  | deviceRevoke (deviceId : DeviceId)
  | rootRotate (newRootSigningKey : SigningPublicKey) (acceptanceSignature : Ed25519Signature)
  | recoveryRotate (newRecoverySigningKey : SigningPublicKey)
      (acceptanceSignature : Ed25519Signature)
      (recoveryAuthorizationSignature : Option Ed25519Signature)
  | recoveryRestore (newRootSigningKey newRecoverySigningKey : SigningPublicKey)
      (rootAcceptanceSignature recoveryAcceptanceSignature : Ed25519Signature)
  | relayDescriptor (descriptor : RelayDescriptorV1)
  deriving DecidableEq

/-- The kinds of events. -/
inductive IdentityLogEventKindV1 where
  | genesis
  | deviceAdd
  | deviceRevoke
  | rootRotate
  | recoveryRotate
  | recoveryRestore
  | relayDescriptor
  deriving DecidableEq, Repr

def IdentityLogEventKindV1.code : IdentityLogEventKindV1 → UInt64
  | .genesis => 1
  | .deviceAdd => 2
  | .deviceRevoke => 3
  | .rootRotate => 4
  | .recoveryRotate => 5
  | .recoveryRestore => 6
  | .relayDescriptor => 7

def IdentityLogEventKindV1.fromCode (value : UInt64) : Except Failure IdentityLogEventKindV1 :=
  if value = 1 then .ok .genesis
  else if value = 2 then .ok .deviceAdd
  else if value = 3 then .ok .deviceRevoke
  else if value = 4 then .ok .rootRotate
  else if value = 5 then .ok .recoveryRotate
  else if value = 6 then .ok .recoveryRestore
  else if value = 7 then .ok .relayDescriptor
  else .error (returned invalidCanonical)

namespace IdentityLogEventPayloadV1

/-- The kind of a payload. -/
def kind : IdentityLogEventPayloadV1 → IdentityLogEventKindV1
  | .genesis .. => .genesis
  | .deviceAdd .. => .deviceAdd
  | .deviceRevoke .. => .deviceRevoke
  | .rootRotate .. => .rootRotate
  | .recoveryRotate .. => .recoveryRotate
  | .recoveryRestore .. => .recoveryRestore
  | .relayDescriptor .. => .relayDescriptor

/-- The fields of a recovery rotation: on the current line the authorization by the
recovery key is expected to be there. -/
def recoveryRotateFields (line : IdentityLogWireLine) (newRecoverySigningKey : SigningPublicKey)
    (acceptanceSignature : Ed25519Signature)
    (recoveryAuthorizationSignature : Option Ed25519Signature) :
    Except Failure (List CanonicalValue) :=
  let fields := [toCanonicalValue newRecoverySigningKey, toCanonicalValue acceptanceSignature]
  if line = .currentV11 then do
    let signature ← okOr recoveryAuthorizationSignature
      (panicked "current recovery rotation requires a recovery signature")
    return fields ++ [toCanonicalValue signature]
  else return fields

/-- The fields of a payload, which depend on the wire line. -/
def toCanonicalValueForWire (payload : IdentityLogEventPayloadV1) (wire : WireVersion) :
    Except Failure CanonicalValue := do
  let line ← (identityLogWireLine wire).mapError fun _ =>
    panicked "identity-log events are constructed only with a supported wire version"
  match payload with
  | .genesis rootSigningKey recoverySigningKey recoveryAcceptanceSignature =>
      return record [toCanonicalValue rootSigningKey, toCanonicalValue recoverySigningKey,
        toCanonicalValue recoveryAcceptanceSignature]
  | .deviceAdd certificate => return record [toCanonicalValue certificate]
  | .deviceRevoke deviceId => return record [deviceIdValue deviceId]
  | .rootRotate newRootSigningKey acceptanceSignature =>
      return record [toCanonicalValue newRootSigningKey, toCanonicalValue acceptanceSignature]
  | .recoveryRotate newRecoverySigningKey acceptanceSignature recoveryAuthorizationSignature =>
      return record (← recoveryRotateFields line newRecoverySigningKey acceptanceSignature
        recoveryAuthorizationSignature)
  | .recoveryRestore newRootSigningKey newRecoverySigningKey rootAcceptanceSignature
      recoveryAcceptanceSignature =>
      return record [toCanonicalValue newRootSigningKey, toCanonicalValue newRecoverySigningKey,
        toCanonicalValue rootAcceptanceSignature, toCanonicalValue recoveryAcceptanceSignature]
  | .relayDescriptor descriptor => return record [toCanonicalValue descriptor]

end IdentityLogEventPayloadV1

/-! ## Events -/

/-- The fields of an event that its signer authenticates. -/
structure UnsignedIdentityLogEventV1 where
  wire : WireVersion
  identityId : IdentityId
  sequence : SafeUint
  previousEventHash : Option Sha256Digest
  occurredAt : UtcMillis
  payload : IdentityLogEventPayloadV1
  signer : SigningPublicKey
  deriving DecidableEq

namespace UnsignedIdentityLogEventV1

variable (unsigned : UnsignedIdentityLogEventV1)

/-- The fields before the signature. -/
def fields : Except Failure (List CanonicalValue) := do
  let payload ← unsigned.payload.toCanonicalValueForWire unsigned.wire
  return [toCanonicalValue unsigned.wire, identityValue unsigned.identityId,
    toCanonicalValue unsigned.sequence, optionalDigest unsigned.previousEventHash,
    toCanonicalValue unsigned.occurredAt, .unsigned unsigned.payload.kind.code, payload,
    toCanonicalValue unsigned.signer]

variable [Sha256]

/-- The domain-separated digest that the event signer authenticates. -/
def signingDigest : Except Failure Sha256Digest := do
  canonicalHash identityLogEventHashDomain (record (← unsigned.fields))

/-- Whether the event can stand behind another one. -/
def requireSuccessor : Except Failure Unit :=
  rejectIf (unsigned.sequence.value = 1 ∨ unsigned.previousEventHash = none)
    (returned invalidEventShape)

/-- The static checks of an event, by its payload. -/
def validatePayload (wireLine : IdentityLogWireLine) :
    IdentityLogEventPayloadV1 → Except Failure Unit
  | .genesis rootSigningKey recoverySigningKey recoveryAcceptanceSignature => do
      rejectIf (unsigned.sequence.value ≠ 1 ∨ unsigned.previousEventHash ≠ none ∨
        unsigned.signer ≠ rootSigningKey ∨ rootSigningKey = recoverySigningKey ∨
        unsigned.identityId.verifySubjectKey rootSigningKey.key = false) (returned invalidGenesis)
      let input ← genesisRecoveryAcceptanceInput unsigned.identityId rootSigningKey
        recoverySigningKey
      (verifySignature recoverySigningKey input recoveryAcceptanceSignature).mapError fun _ =>
        returned invalidGenesis
  | .relayDescriptor descriptor => do
      unsigned.requireSuccessor
      rejectIf (descriptor.wire ≠ unsigned.wire) (returned invalidWireVersion)
      descriptor.validateForEvent unsigned.occurredAt
  | .deviceAdd certificate => do
      unsigned.requireSuccessor
      rejectIf (certificate.unsigned.wire ≠ unsigned.wire) (returned invalidWireVersion)
      certificate.verify
  | .recoveryRotate _ _ recoveryAuthorizationSignature => do
      unsigned.requireSuccessor
      match wireLine, recoveryAuthorizationSignature.isSome with
      | .frozenV10, false | .currentV11, true => return
      | .frozenV10, true => .error (returned invalidCanonical)
      | .currentV11, false => .error (returned invalidRotation)
  | .deviceRevoke _ | .rootRotate .. | .recoveryRestore .. => unsigned.requireSuccessor

/-- What can be checked without the log. -/
def validateStatic : Except Failure Unit := do
  let wireLine ← identityLogWireLine unsigned.wire
  rejectIf (unsigned.sequence.value = 0) (returned invalidEventShape)
  unsigned.validatePayload wireLine unsigned.payload

/-- Creates unsigned event content after its static checks. -/
def new (wire : WireVersion) (identityId : IdentityId) (sequence : SafeUint)
    (previousEventHash : Option Sha256Digest) (occurredAt : UtcMillis)
    (payload : IdentityLogEventPayloadV1) (signer : SigningPublicKey) :
    Except Failure UnsignedIdentityLogEventV1 := do
  let unsigned : UnsignedIdentityLogEventV1 :=
    { wire, identityId, sequence, previousEventHash, occurredAt, payload, signer }
  unsigned.validateStatic
  return unsigned

end UnsignedIdentityLogEventV1

/-- A complete signed event. -/
structure IdentityLogEventV1 where
  unsigned : UnsignedIdentityLogEventV1
  signature : Ed25519Signature
  deriving DecidableEq

namespace IdentityLogEventV1

variable (event : IdentityLogEventV1)

/-- The signature is the last field. -/
def toCanonicalValue : Except Failure CanonicalValue := do
  return record ((← event.unsigned.fields) ++ [Wire.toCanonicalValue event.signature])

def toDeterministicCbor : Except Failure (List UInt8) := do
  (encodeDeterministicCbor (← event.toCanonicalValue)).mapError fun _ =>
    returned invalidCanonical

variable [Sha256]

/-- Re-verifies static invariants and the signer proof. -/
def verify : Except Failure Unit := do
  event.unsigned.validateStatic
  let digest ← event.unsigned.signingDigest
  verifySignature event.unsigned.signer (identityLogSignatureInput digest) event.signature

/-- Attaches and verifies the event signature over exact unsigned content. -/
def signed (unsigned : UnsignedIdentityLogEventV1) (signature : Ed25519Signature) :
    Except Failure IdentityLogEventV1 := do
  let event : IdentityLogEventV1 := { unsigned, signature }
  event.verify
  return event

/-- The durable predecessor hash of this complete signed event. -/
def entryHash : Except Failure Sha256Digest := do
  canonicalHash identityLogEntryHashDomain (← event.toCanonicalValue)

end IdentityLogEventV1

end Events

/-! ## Decoding of fields -/

variable (value : CanonicalValue)

/-- The entries of a map with exactly the keys `1..count`. -/
def exactFields (count : Nat) : Except Failure (List (CanonicalValue × CanonicalValue)) :=
  match value with
  | .map fields =>
      if fields.length ≠ count ∨ hasKeys 1 fields = false then .error (returned invalidCanonical)
      else .ok fields
  | _ => .error (returned invalidCanonical)

def field (fields : List (CanonicalValue × CanonicalValue)) (key : Nat) :
    Except Failure CanonicalValue := do
  rejectIf (key = 0) (returned invalidCanonical)
  okOr (fields[key - 1]?.map Prod.snd) (returned invalidCanonical)

def decodeUnsigned : CanonicalValue → Except Failure UInt64
  | .unsigned value => .ok value
  | _ => .error (returned invalidCanonical)

def decodeU16 : Except Failure UInt16 := do
  let value ← decodeUnsigned value
  if value.toNat < UInt16.size then return value.toUInt16
  else .error (returned invalidCanonical)

def decodeSafeUint : Except Failure SafeUint := do
  (SafeUint.new (← decodeUnsigned value)).mapError fun _ => returned invalidCanonical

def decodeExactBytes (length : Nat) : CanonicalValue → Except Failure (FixedBytes length)
  | .bytes bytes => okOr (FixedBytes.ofList? bytes) (returned invalidCanonical)
  | _ => .error (returned invalidCanonical)

def decodeDigest : Except Failure Sha256Digest := do
  return ⟨← decodeExactBytes 32 value⟩

def decodeOptionalDigest : CanonicalValue → Except Failure (Option Sha256Digest)
  | .null => .ok none
  | value => (decodeDigest value).map some

/-- The raw milliseconds of a timestamp. -/
def decodeMillis : CanonicalValue → Except Failure Int64
  | .unsigned value =>
      if value.toNat < 2 ^ 63 then .ok value.toInt64 else .error (returned invalidCanonical)
  | .negative value => .ok value
  | _ => .error (returned invalidCanonical)

def decodeUtcMillis : Except Failure UtcMillis := do
  (UtcMillis.new (← decodeMillis value)).mapError fun _ => returned invalidCanonical

def decodeIdentityId : CanonicalValue → Except Failure IdentityId
  | .text value => (PublicId.parse value).mapError fun _ => returned invalidCanonical
  | _ => .error (returned invalidCanonical)

def decodeDeviceId : CanonicalValue → Except Failure DeviceId
  | .text value => (UuidV7.parse value).mapError fun _ => returned invalidCanonical
  | _ => .error (returned invalidCanonical)

def decodeEncryptionKey : Except Failure DeviceEncryptionPublicKey := do
  (DeviceEncryptionPublicKey.tryFrom (← decodeExactBytes 32 value)).mapError fun _ =>
    returned invalidCanonical

def decodeSignature : Except Failure Ed25519Signature := do
  return ⟨← decodeExactBytes 64 value⟩

def decodeProtocolVersion : Except Failure ProtocolVersion := do
  let fields ← exactFields value 2
  let major ← decodeU16 (← field fields 1)
  let minor ← decodeU16 (← field fields 2)
  return { major, minor }

def decodeWireVersion : Except Failure WireVersion := do
  let fields ← exactFields value 2
  let protocol ← decodeProtocolVersion (← field fields 1)
  let minimumReader ← decodeProtocolVersion (← field fields 2)
  let wire : WireVersion := { protocol, minimumReader }
  validateWireVersion wire
  return wire

/-! ## Decoding of documents and payloads -/

def decodeRelayUrl : CanonicalValue → Except Failure String
  | .text value => .ok value
  | _ => .error (returned invalidRelayDescriptor)

def decodeRelayUrls : CanonicalValue → Except Failure (List String)
  | .array urls => urls.mapM decodeRelayUrl
  | _ => .error (returned invalidRelayDescriptor)

/-- Reads and checks a descriptor. -/
def decodeRelayDescriptor : Except Failure RelayDescriptorV1 := do
  let fields ← exactFields value 3
  let wire ← decodeWireVersion (← field fields 1)
  let relayUrls ← decodeRelayUrls (← field fields 2)
  let expiresAt ← decodeUtcMillis (← field fields 3)
  RelayDescriptorV1.new wire relayUrls expiresAt

section Keys

variable [Ed25519]

variable (value : CanonicalValue)

def decodeSigningKey : Except Failure SigningPublicKey := do
  (SigningPublicKey.tryFrom (← decodeExactBytes 32 value)).mapError fun _ =>
    returned invalidCanonical

variable [Sha256]

/-- Reads a certificate and verifies it. -/
def decodeDeviceCertificate : Except Failure DeviceCertificateV1 := do
  let fields ← exactFields value 8
  let wire ← decodeWireVersion (← field fields 1)
  let identityId ← decodeIdentityId (← field fields 2)
  let deviceId ← decodeDeviceId (← field fields 3)
  let deviceSigningKey ← decodeSigningKey (← field fields 4)
  let deviceEncryptionKey ← decodeEncryptionKey (← field fields 5)
  let issuerRootKey ← decodeSigningKey (← field fields 6)
  let issuedAt ← decodeUtcMillis (← field fields 7)
  let signature ← decodeSignature (← field fields 8)
  let unsigned ← UnsignedDeviceCertificateV1.new wire identityId deviceId deviceSigningKey
    deviceEncryptionKey issuerRootKey issuedAt
  DeviceCertificateV1.signed unsigned signature

/-- A recovery rotation has two fields on the frozen line and three on the current one. -/
def decodeRecoveryRotate : IdentityLogWireLine → Except Failure IdentityLogEventPayloadV1
  | .frozenV10 => do
      let fields ← exactFields value 2
      let newRecoverySigningKey ← decodeSigningKey (← field fields 1)
      let acceptanceSignature ← decodeSignature (← field fields 2)
      return .recoveryRotate newRecoverySigningKey acceptanceSignature none
  | .currentV11 => do
      let fields ← exactFields value 3
      let newRecoverySigningKey ← decodeSigningKey (← field fields 1)
      let acceptanceSignature ← decodeSignature (← field fields 2)
      let recoveryAuthorizationSignature ← decodeSignature (← field fields 3)
      return .recoveryRotate newRecoverySigningKey acceptanceSignature
        (some recoveryAuthorizationSignature)

/-- The payload of a kind. -/
def decodePayload (kind : IdentityLogEventKindV1) (value : CanonicalValue) (wire : WireVersion) :
    Except Failure IdentityLogEventPayloadV1 :=
  match kind with
  | .genesis => do
      let fields ← exactFields value 3
      return .genesis (← decodeSigningKey (← field fields 1))
        (← decodeSigningKey (← field fields 2)) (← decodeSignature (← field fields 3))
  | .deviceAdd => do
      let fields ← exactFields value 1
      return .deviceAdd (← decodeDeviceCertificate (← field fields 1))
  | .deviceRevoke => do
      let fields ← exactFields value 1
      return .deviceRevoke (← decodeDeviceId (← field fields 1))
  | .rootRotate => do
      let fields ← exactFields value 2
      return .rootRotate (← decodeSigningKey (← field fields 1))
        (← decodeSignature (← field fields 2))
  | .recoveryRotate => do decodeRecoveryRotate value (← identityLogWireLine wire)
  | .recoveryRestore => do
      let fields ← exactFields value 4
      return .recoveryRestore (← decodeSigningKey (← field fields 1))
        (← decodeSigningKey (← field fields 2)) (← decodeSignature (← field fields 3))
        (← decodeSignature (← field fields 4))
  | .relayDescriptor => do
      let fields ← exactFields value 1
      return .relayDescriptor (← decodeRelayDescriptor (← field fields 1))

/-! ## Decoding of events -/

/-- The event that a decoded value spells out, verified. -/
def decodeEvent : Except Failure IdentityLogEventV1 := do
  let fields ← exactFields value 9
  let wire ← decodeWireVersion (← field fields 1)
  let identityId ← decodeIdentityId (← field fields 2)
  let sequence ← decodeSafeUint (← field fields 3)
  let previousEventHash ← decodeOptionalDigest (← field fields 4)
  let occurredAt ← decodeUtcMillis (← field fields 5)
  let kind ← IdentityLogEventKindV1.fromCode (← decodeUnsigned (← field fields 6))
  let payload ← decodePayload kind (← field fields 7) wire
  let signer ← decodeSigningKey (← field fields 8)
  let signature ← decodeSignature (← field fields 9)
  let unsigned ← UnsignedIdentityLogEventV1.new wire identityId sequence previousEventHash
    occurredAt payload signer
  IdentityLogEventV1.signed unsigned signature

/-- Decodes deterministic CBOR, rejects unknown fields, and verifies the signature. -/
def IdentityLogEventV1.decodeAndVerify (bytes : List UInt8) :
    Except Failure IdentityLogEventV1 := do
  let value ← (decodeDeterministicCbor bytes).mapError fun _ => returned invalidCanonical
  let event ← decodeEvent value
  rejectIf ((← event.toDeterministicCbor) ≠ bytes) (returned invalidCanonical)
  return event

end Keys

end Dirextalk.Identity
