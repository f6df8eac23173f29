import Dirextalk.Identity.Events
import Dirextalk.Lib.TreeMap

/-!
# The identity-log projection

The writable projection of a log: the authority keys, the enrolled devices and the
relay descriptor that its events have established, with the head of the chain.
An event is admitted as a whole or leaves the projection as it was, so admission
is a function to the next projection.
-/

namespace Dirextalk.Identity

open Domain Lib Wire

open Failure IdentityLogError

/-- Whether a device still speaks for its identity. -/
inductive DeviceStatusV1 where
  | active
  | revoked
  deriving DecidableEq, Repr

section Projection

variable [Ed25519]

/-- A device of the identity, also after its revocation. -/
structure DeviceRecordV1 where
  certificate : DeviceCertificateV1
  status : DeviceStatusV1
  deriving DecidableEq

/-- The projection of a verified identity log. -/
structure IdentityLogV1 where
  wire : WireVersion
  identityId : IdentityId
  currentRootKey : SigningPublicKey
  currentRecoveryKey : SigningPublicKey
  initialDeviceId : Option DeviceId
  devices : TreeMap DeviceId DeviceRecordV1
  relayDescriptor : Option RelayDescriptorV1
  headSequence : SafeUint
  headHash : Sha256Digest
  seenEntryHashes : TreeSet Sha256Digest

namespace IdentityLogV1

/-! ## Queries -/

variable (log : IdentityLogV1) (event : IdentityLogEventV1)

/-- The status of a device that was ever added. -/
def deviceStatus (deviceId : DeviceId) : Option DeviceStatusV1 :=
  log.devices[deviceId]?.map (·.status)

/-- The certificate of a device that was ever added. -/
def deviceCertificate (deviceId : DeviceId) : Option DeviceCertificateV1 :=
  log.devices[deviceId]?.map (·.certificate)

/-- Revoked devices keep their keys. -/
def deviceSigningKeyIsUsed (key : SigningPublicKey) : Bool :=
  (values log.devices).any fun record => record.certificate.unsigned.deviceSigningKey = key

/-- Whether the key is that of an active device. -/
def signerIsActiveDevice (signer : SigningPublicKey) : Bool :=
  (values log.devices).any fun record =>
    record.status = .active && record.certificate.unsigned.deviceSigningKey = signer

/-! ## Transitions -/

variable [Sha256]

/-- A successor key signs that it takes over. -/
def verifyRotationAcceptance (purpose : KeyAcceptancePurposeV1) (successor : SigningPublicKey)
    (signature : Ed25519Signature) : Except Failure Unit := do
  let input ← keyRotationAcceptanceInput log.identityId event.unsigned.sequence
    event.unsigned.previousEventHash purpose successor
  (verifySignature successor input signature).mapError fun _ => returned invalidRotation

/-- The root or an active device adds a device with fresh keys. -/
def applyDeviceAdd (certificate : DeviceCertificateV1) : Except Failure IdentityLogV1 := do
  rejectIf (event.unsigned.signer ≠ log.currentRootKey ∧
    log.signerIsActiveDevice event.unsigned.signer = false) (returned unauthorizedSigner)
  certificate.verify
  let content := certificate.unsigned
  rejectIf (content.identityId ≠ log.identityId ∨ content.issuerRootKey ≠ log.currentRootKey ∨
    event.unsigned.occurredAt < content.issuedAt ∨
    content.deviceSigningKey = log.currentRootKey ∨
    content.deviceSigningKey = log.currentRecoveryKey) (returned invalidDeviceCertificate)
  rejectIf (content.deviceId ∈ log.devices ∨ (values log.devices).any (fun record =>
    record.certificate.unsigned.deviceSigningKey = content.deviceSigningKey ||
      record.certificate.unsigned.deviceEncryptionKey = content.deviceEncryptionKey) = true)
    (returned deviceAlreadyExists)
  return { log with
    initialDeviceId := if log.headSequence.value = 1 then some content.deviceId
      else log.initialDeviceId
    devices := log.devices.insert content.deviceId { certificate, status := .active } }

/-- Only the root revokes a device, and only once. -/
def applyDeviceRevoke (deviceId : DeviceId) : Except Failure IdentityLogV1 := do
  rejectIf (event.unsigned.signer ≠ log.currentRootKey) (returned unauthorizedSigner)
  let record ← okOr log.devices[deviceId]? (returned deviceNotFound)
  rejectIf (record.status = .revoked) (returned deviceAlreadyRevoked)
  return { log with devices := log.devices.insert deviceId { record with status := .revoked } }

/-- The root hands over to a key that no device has. -/
def applyRootRotation (successor : SigningPublicKey) (acceptanceSignature : Ed25519Signature) :
    Except Failure IdentityLogV1 := do
  rejectIf (event.unsigned.signer ≠ log.currentRootKey) (returned unauthorizedSigner)
  rejectIf (successor = log.currentRootKey ∨ successor = log.currentRecoveryKey ∨
    log.deviceSigningKeyIsUsed successor = true) (returned invalidRotation)
  log.verifyRotationAcceptance event .rootRotate successor acceptanceSignature
  return { log with currentRootKey := successor }

/-- The authorization of a recovery rotation by the recovery key that it replaces. -/
def verifyRecoveryAuthorization (successor : SigningPublicKey)
    (acceptanceSignature : Ed25519Signature) :
    IdentityLogWireLine → Option Ed25519Signature → Except Failure Unit
  | .frozenV10, none => .ok ()
  | .currentV11, some signature => do
      let input ← recoveryRotationAuthorizationInput event.unsigned.wire log.identityId
        event.unsigned.sequence event.unsigned.previousEventHash event.unsigned.occurredAt
        event.unsigned.signer successor acceptanceSignature
      (verifySignature log.currentRecoveryKey input signature).mapError fun _ =>
        returned invalidRotation
  | .frozenV10, some _ => .error (returned invalidCanonical)
  | .currentV11, none => .error (returned invalidRotation)

/-- The root replaces the recovery key, which authorizes it on the current line. -/
def applyRecoveryRotation (successor : SigningPublicKey) (acceptanceSignature : Ed25519Signature)
    (recoveryAuthorizationSignature : Option Ed25519Signature) :
    Except Failure IdentityLogV1 := do
  rejectIf (event.unsigned.signer ≠ log.currentRootKey) (returned unauthorizedSigner)
  rejectIf (successor = log.currentRootKey ∨ successor = log.currentRecoveryKey ∨
    log.deviceSigningKeyIsUsed successor = true) (returned invalidRotation)
  log.verifyRotationAcceptance event .recoveryRotate successor acceptanceSignature
  log.verifyRecoveryAuthorization event successor acceptanceSignature
    (← identityLogWireLine event.unsigned.wire) recoveryAuthorizationSignature
  return { log with currentRecoveryKey := successor }

/-- The recovery key replaces both keys and revokes every device. -/
def applyRecoveryRestore (newRoot newRecovery : SigningPublicKey)
    (rootAcceptanceSignature recoveryAcceptanceSignature : Ed25519Signature) :
    Except Failure IdentityLogV1 := do
  rejectIf (event.unsigned.signer ≠ log.currentRecoveryKey) (returned unauthorizedSigner)
  rejectIf (newRoot = newRecovery ∨ newRoot = log.currentRootKey ∨
    newRoot = log.currentRecoveryKey ∨ newRecovery = log.currentRootKey ∨
    newRecovery = log.currentRecoveryKey ∨ log.deviceSigningKeyIsUsed newRoot = true ∨
    log.deviceSigningKeyIsUsed newRecovery = true) (returned invalidRotation)
  log.verifyRotationAcceptance event .recoveryRestoreRoot newRoot rootAcceptanceSignature
  log.verifyRotationAcceptance event .recoveryRestoreRecovery newRecovery
    recoveryAcceptanceSignature
  return { log with
    currentRootKey := newRoot
    currentRecoveryKey := newRecovery
    devices := log.devices.map fun _ record => { record with status := .revoked } }

/-- The root publishes where the identity is reached. -/
def applyRelayDescriptor (descriptor : RelayDescriptorV1) : Except Failure IdentityLogV1 := do
  rejectIf (event.unsigned.signer ≠ log.currentRootKey) (returned unauthorizedSigner)
  descriptor.validateForEvent event.unsigned.occurredAt
  return { log with relayDescriptor := some descriptor }

/-- One transition for each kind of event. -/
def applyAuthorized : Except Failure IdentityLogV1 :=
  match event.unsigned.payload with
  | .genesis .. => .error (returned invalidGenesis)
  | .deviceAdd certificate => log.applyDeviceAdd event certificate
  | .deviceRevoke deviceId => log.applyDeviceRevoke event deviceId
  | .rootRotate newRootSigningKey acceptanceSignature =>
      log.applyRootRotation event newRootSigningKey acceptanceSignature
  | .recoveryRotate newRecoverySigningKey acceptanceSignature recoveryAuthorizationSignature =>
      log.applyRecoveryRotation event newRecoverySigningKey acceptanceSignature
        recoveryAuthorizationSignature
  | .recoveryRestore newRootSigningKey newRecoverySigningKey rootAcceptanceSignature
      recoveryAcceptanceSignature =>
      log.applyRecoveryRestore event newRootSigningKey newRecoverySigningKey
        rootAcceptanceSignature recoveryAcceptanceSignature
  | .relayDescriptor descriptor => log.applyRelayDescriptor event descriptor

/-! ## Admission -/

/-- A log starts with a verified genesis and no devices. -/
def bootstrapProjection (genesis : IdentityLogEventV1) : Except Failure IdentityLogV1 := do
  genesis.verify
  match genesis.unsigned.payload with
  | .genesis rootSigningKey recoverySigningKey _ => do
      let entryHash ← genesis.entryHash
      return {
        wire := genesis.unsigned.wire
        identityId := genesis.unsigned.identityId
        currentRootKey := rootSigningKey
        currentRecoveryKey := recoverySigningKey
        initialDeviceId := none
        devices := ∅
        relayDescriptor := none
        headSequence := genesis.unsigned.sequence
        headHash := entryHash
        seenEntryHashes := (∅ : TreeSet Sha256Digest).insert entryHash }
  | _ => .error (returned invalidGenesis)

/-- Creates the projection of a current log from its immutable genesis event. -/
def bootstrap (genesis : IdentityLogEventV1) : Except Failure IdentityLogV1 := do
  rejectIf (genesis.unsigned.wire ≠ identityLogWireVersion) (returned invalidWireVersion)
  bootstrapProjection genesis

/-- The sequence number that the next event must carry. -/
def nextSequence : Option SafeUint :=
  (checkedAddUInt64 log.headSequence.value 1).bind fun value => (SafeUint.new value).toOption

/-- Admits the next event of the hash chain. -/
def appendProjection : Except Failure IdentityLogV1 := do
  event.verify
  rejectIf (event.unsigned.identityId ≠ log.identityId) (returned identityMismatch)
  rejectIf (event.unsigned.wire ≠ log.wire) (returned invalidWireVersion)
  let entryHash ← event.entryHash
  rejectIf (entryHash ∈ log.seenEntryHashes) (returned replay)
  let nextSequence ← okOr log.nextSequence (returned sequenceMismatch)
  rejectIf (event.unsigned.sequence ≠ nextSequence) (returned sequenceMismatch)
  rejectIf (event.unsigned.previousEventHash ≠ some log.headHash) (returned previousHashMismatch)
  let next ← log.applyAuthorized event
  return { next with
    headSequence := event.unsigned.sequence
    headHash := entryHash
    seenEntryHashes := next.seenEntryHashes.insert entryHash }

/-- Admits the exact next authorized event of a current log. -/
def append : Except Failure IdentityLogV1 := do
  rejectIf (log.wire ≠ identityLogWireVersion ∨ event.unsigned.wire ≠ identityLogWireVersion)
    (returned invalidWireVersion)
  log.appendProjection event

end IdentityLogV1

end Projection

/-! ## What an admitted event has done -/

section Signatures

variable [Ed25519]

/-- The signature of the input verifies under the key. -/
def Verifies (key : SigningPublicKey) (input : List UInt8) (signature : Ed25519Signature) : Prop :=
  Ed25519.verifyStrict key.asBytes input signature.bytes = true

theorem verifySignature_eq_ok {key : SigningPublicKey} {input : List UInt8}
    {signature : Ed25519Signature} {done : Unit} :
    verifySignature key input signature = .ok done ↔ Verifies key input signature := by
  -- a validated key is a point, so only the signature itself can fail
  have decodes : Ed25519.point key.asBytes = some key.asBytes := key.key.canonical
  simp [verifySignature, decodes, Verifies]

variable [Sha256]

/-- The event carries its signer's signature over its digest. -/
def IdentityLogEventV1.SignedBy (event : IdentityLogEventV1) (key : SigningPublicKey) : Prop :=
  ∃ digest, event.unsigned.signingDigest = .ok digest ∧
    Verifies key (identityLogSignatureInput digest) event.signature

theorem IdentityLogEventV1.verify_eq_ok {event : IdentityLogEventV1} {done : Unit} :
    event.verify = .ok done ↔
      event.unsigned.validateStatic = .ok () ∧ event.SignedBy event.unsigned.signer := by
  simp only [verify, bind_eq_ok, Unique.exists_iff, PUnit.default_eq_unit, verifySignature_eq_ok,
    SignedBy]

end Signatures

/-! ## Devices -/

section Devices

variable [Ed25519] {log : IdentityLogV1}

/-- Every enrolled device's certificate has a property. -/
def AllCertificates (property : DeviceCertificateV1 → Prop)
    (devices : TreeMap DeviceId DeviceRecordV1) : Prop :=
  AllValues (fun record => property record.certificate) devices

theorem deviceSigningKeyIsUsed_eq_false {key : SigningPublicKey} :
    log.deviceSigningKeyIsUsed key = false ↔
      AllCertificates (fun certificate => certificate.unsigned.deviceSigningKey ≠ key)
        log.devices := by
  simp only [IdentityLogV1.deviceSigningKeyIsUsed, List.any_eq_false, decide_eq_true_eq]
  exact forall_mem_values

theorem signerIsActiveDevice_eq_true {signer : SigningPublicKey} :
    log.signerIsActiveDevice signer = true ↔
      ∃ (deviceId : DeviceId) (record : DeviceRecordV1), log.devices[deviceId]? = some record ∧
        record.status = .active ∧ record.certificate.unsigned.deviceSigningKey = signer := by
  simp only [IdentityLogV1.signerIsActiveDevice, List.any_eq_true, Bool.and_eq_true,
    decide_eq_true_eq, mem_values]
  constructor
  · rintro ⟨record, ⟨deviceId, found⟩, active, signs⟩
    exact ⟨deviceId, record, found, active, signs⟩
  · rintro ⟨deviceId, record, found, active, signs⟩
    exact ⟨record, ⟨deviceId, found⟩, active, signs⟩

end Devices

/-! ## Transitions -/

section Transitions

variable [Ed25519] [Sha256]

/-- The successor key has accepted the rotation that the event is about. -/
def Accepts (log : IdentityLogV1) (event : IdentityLogEventV1) (purpose : KeyAcceptancePurposeV1)
    (successor : SigningPublicKey) (signature : Ed25519Signature) : Prop :=
  ∃ input, keyRotationAcceptanceInput log.identityId event.unsigned.sequence
      event.unsigned.previousEventHash purpose successor = .ok input ∧
    Verifies successor input signature

/-- The key has authorized the recovery rotation that the event is about. -/
def AuthorizesRotation (key : SigningPublicKey) (identityId : IdentityId)
    (event : IdentityLogEventV1) (successor : SigningPublicKey)
    (acceptance signature : Ed25519Signature) : Prop :=
  ∃ input, recoveryRotationAuthorizationInput event.unsigned.wire identityId
      event.unsigned.sequence event.unsigned.previousEventHash event.unsigned.occurredAt
      event.unsigned.signer successor acceptance = .ok input ∧
    Verifies key input signature

/-- The projection that an admitted payload leaves, with the checks it has passed. -/
inductive Transition (log : IdentityLogV1) (event : IdentityLogEventV1) :
    IdentityLogEventPayloadV1 → IdentityLogV1 → Prop where
  | deviceAdd (certificate : DeviceCertificateV1) (initialDeviceId : Option DeviceId)
      (signer : event.unsigned.signer = log.currentRootKey ∨
        log.signerIsActiveDevice event.unsigned.signer = true)
      (verified : certificate.verify = .ok ())
      (issuer : certificate.unsigned.issuerRootKey = log.currentRootKey)
      (not_root : certificate.unsigned.deviceSigningKey ≠ log.currentRootKey)
      (not_recovery : certificate.unsigned.deviceSigningKey ≠ log.currentRecoveryKey)
      (fresh : certificate.unsigned.deviceId ∉ log.devices)
      (fresh_signing : AllCertificates (fun other =>
        other.unsigned.deviceSigningKey ≠ certificate.unsigned.deviceSigningKey) log.devices)
      (fresh_encryption : AllCertificates (fun other =>
        other.unsigned.deviceEncryptionKey ≠ certificate.unsigned.deviceEncryptionKey)
          log.devices) :
      Transition log event (.deviceAdd certificate) { log with
        initialDeviceId
        devices := log.devices.insert certificate.unsigned.deviceId
          { certificate, status := .active } }
  | deviceRevoke (deviceId : DeviceId) (record : DeviceRecordV1)
      (signer : event.unsigned.signer = log.currentRootKey)
      (found : log.devices[deviceId]? = some record) :
      Transition log event (.deviceRevoke deviceId) { log with
        devices := log.devices.insert deviceId { record with status := .revoked } }
  | rootRotate (successor : SigningPublicKey) (acceptance : Ed25519Signature)
      (signer : event.unsigned.signer = log.currentRootKey)
      (not_recovery : successor ≠ log.currentRecoveryKey)
      (unused : log.deviceSigningKeyIsUsed successor = false)
      (accepts : Accepts log event .rootRotate successor acceptance) :
      Transition log event (.rootRotate successor acceptance)
        { log with currentRootKey := successor }
  | recoveryRotate (successor : SigningPublicKey) (acceptance : Ed25519Signature)
      (line : IdentityLogWireLine) (authorization : Option Ed25519Signature)
      (signer : event.unsigned.signer = log.currentRootKey)
      (not_root : successor ≠ log.currentRootKey)
      (unused : log.deviceSigningKeyIsUsed successor = false)
      (accepts : Accepts log event .recoveryRotate successor acceptance)
      (wire_line : identityLogWireLine event.unsigned.wire = .ok line)
      (authorized : log.verifyRecoveryAuthorization event successor acceptance line
        authorization = .ok ()) :
      Transition log event (.recoveryRotate successor acceptance authorization)
        { log with currentRecoveryKey := successor }
  | recoveryRestore (newRoot newRecovery : SigningPublicKey)
      (rootAcceptance recoveryAcceptance : Ed25519Signature)
      (signer : event.unsigned.signer = log.currentRecoveryKey)
      (apart : newRoot ≠ newRecovery) (unused_root : log.deviceSigningKeyIsUsed newRoot = false)
      (unused_recovery : log.deviceSigningKeyIsUsed newRecovery = false)
      (accepts_root : Accepts log event .recoveryRestoreRoot newRoot rootAcceptance)
      (accepts_recovery : Accepts log event .recoveryRestoreRecovery newRecovery
        recoveryAcceptance) :
      Transition log event
        (.recoveryRestore newRoot newRecovery rootAcceptance recoveryAcceptance) { log with
          currentRootKey := newRoot
          currentRecoveryKey := newRecovery
          devices := log.devices.map fun _ record => { record with status := .revoked } }
  | relayDescriptor (descriptor : RelayDescriptorV1)
      (signer : event.unsigned.signer = log.currentRootKey) :
      Transition log event (.relayDescriptor descriptor)
        { log with relayDescriptor := some descriptor }

variable {log next : IdentityLogV1} {event : IdentityLogEventV1}

theorem verifyRotationAcceptance_eq_ok {purpose : KeyAcceptancePurposeV1}
    {successor : SigningPublicKey} {signature : Ed25519Signature} {done : Unit} :
    log.verifyRotationAcceptance event purpose successor signature = .ok done ↔
      Accepts log event purpose successor signature := by
  simp only [IdentityLogV1.verifyRotationAcceptance, bind_eq_ok, mapError_eq_ok,
    verifySignature_eq_ok, Accepts]

theorem transition_of_applyAuthorized (applied : log.applyAuthorized event = .ok next) :
    Transition log event event.unsigned.payload next := by
  unfold IdentityLogV1.applyAuthorized at applied
  split at applied
  next => cases applied
  next certificate payload =>
    rw [payload]
    simp only [IdentityLogV1.applyDeviceAdd, bind_eq_ok, rejectIf_eq_ok, pure_eq_ok,
      Unique.exists_iff, PUnit.default_eq_unit, not_or, not_and, ne_eq, not_not, Bool.not_eq_false,
      Bool.not_eq_true, List.any_eq_false, Bool.or_eq_true, decide_eq_true_eq] at applied
    obtain ⟨signer, verified, ⟨-, issuer, -, notRoot, notRecovery⟩, ⟨fresh, freshKeys⟩, rfl⟩ :=
      applied
    refine .deviceAdd certificate _ ?_ verified issuer notRoot notRecovery fresh ?_ ?_
    · exact Classical.or_iff_not_imp_left.mpr signer
    · exact forall_mem_values.mp fun record member => (freshKeys record member).1
    · exact forall_mem_values.mp fun record member => (freshKeys record member).2
  next deviceId payload =>
    rw [payload]
    simp only [IdentityLogV1.applyDeviceRevoke, bind_eq_ok, rejectIf_eq_ok, exists_const,
      okOr_eq_ok, pure_eq_ok, ne_eq, not_not] at applied
    obtain ⟨signer, record, found, -, rfl⟩ := applied
    exact .deviceRevoke deviceId record signer found
  next successor acceptance payload =>
    rw [payload]
    simp only [IdentityLogV1.applyRootRotation, bind_eq_ok, rejectIf_eq_ok, exists_const,
      verifyRotationAcceptance_eq_ok, pure_eq_ok, not_or, ne_eq, not_not,
      Bool.not_eq_true] at applied
    obtain ⟨signer, ⟨-, notRecovery, unused⟩, accepts, rfl⟩ := applied
    exact .rootRotate successor acceptance signer notRecovery unused accepts
  next successor acceptance authorization payload =>
    rw [payload]
    simp only [IdentityLogV1.applyRecoveryRotation, bind_eq_ok, rejectIf_eq_ok,
      verifyRotationAcceptance_eq_ok, Unique.exists_iff, PUnit.default_eq_unit, pure_eq_ok, not_or,
      ne_eq, not_not, Bool.not_eq_true] at applied
    obtain ⟨signer, ⟨notRoot, -, unused⟩, accepts, line, wireLine, authorized, rfl⟩ := applied
    exact .recoveryRotate successor acceptance line authorization signer notRoot unused accepts
      wireLine authorized
  next newRoot newRecovery rootAcceptance recoveryAcceptance payload =>
    rw [payload]
    simp only [IdentityLogV1.applyRecoveryRestore, bind_eq_ok, rejectIf_eq_ok, exists_const,
      verifyRotationAcceptance_eq_ok, pure_eq_ok, not_or, ne_eq, not_not,
      Bool.not_eq_true] at applied
    obtain ⟨signer, ⟨apart, -, -, -, -, unusedRoot, unusedRecovery⟩, acceptsRoot,
      acceptsRecovery, rfl⟩ := applied
    exact .recoveryRestore newRoot newRecovery rootAcceptance recoveryAcceptance signer apart
      unusedRoot unusedRecovery acceptsRoot acceptsRecovery
  next descriptor payload =>
    rw [payload]
    simp only [IdentityLogV1.applyRelayDescriptor, bind_eq_ok, rejectIf_eq_ok,
      Unique.exists_iff, PUnit.default_eq_unit, pure_eq_ok, ne_eq, not_not] at applied
    obtain ⟨signer, -, rfl⟩ := applied
    exact .relayDescriptor descriptor signer

end Transitions

/-! ## Admission -/

section Admission

variable [Ed25519] [Sha256] {log next : IdentityLogV1} {event genesis : IdentityLogEventV1}

/-- What an admitted event has established. -/
structure Appended (log : IdentityLogV1) (event : IdentityLogEventV1) (next : IdentityLogV1) :
    Prop where
  current : event.unsigned.wire = identityLogWireVersion
  verified : event.verify = .ok ()
  identity : event.unsigned.identityId = log.identityId
  sequence : event.unsigned.sequence.value.toNat = log.headSequence.value.toNat + 1
  previous : event.unsigned.previousEventHash = some log.headHash
  outcome : ∃ entryHash middle, event.entryHash = .ok entryHash ∧
    entryHash ∉ log.seenEntryHashes ∧ Transition log event event.unsigned.payload middle ∧
    { middle with
      headSequence := event.unsigned.sequence
      headHash := entryHash
      seenEntryHashes := middle.seenEntryHashes.insert entryHash } = next

omit [Sha256] in
theorem nextSequence_eq_some {sequence : SafeUint} :
    log.nextSequence = some sequence ↔
      sequence.value.toNat = log.headSequence.value.toNat + 1 := by
  have toOption (value : UInt64) :
      (SafeUint.new value).toOption = some sequence ↔ sequence.value = value := by
    rw [← SafeUint.new_eq_ok]
    cases SafeUint.new value <;> simp [Except.toOption]
  simp only [IdentityLogV1.nextSequence, Option.bind_eq_some_iff, checkedAddUInt64_eq_some,
    toOption]
  constructor
  · rintro ⟨value, sum, rfl⟩
    exact sum.symm
  · intro sum
    exact ⟨sequence.value, sum.symm, rfl⟩

theorem appended_of_append (appended : log.append event = .ok next) : Appended log event next := by
  simp only [IdentityLogV1.append, IdentityLogV1.appendProjection, bind_eq_ok, rejectIf_eq_ok,
    Unique.exists_iff, PUnit.default_eq_unit, okOr_eq_ok, pure_eq_ok, not_or, ne_eq,
    not_not] at appended
  obtain ⟨⟨-, current⟩, verified, identity, -, entryHash, hashed, unseen, sequence, following,
    rfl, previous, middle, applied, rfl⟩ := appended
  exact ⟨current, verified, identity, nextSequence_eq_some.mp following, previous, entryHash,
    middle, hashed, unseen, transition_of_applyAuthorized applied, rfl⟩

/-- What a genesis event has established. -/
structure Bootstraps (genesis : IdentityLogEventV1) (log : IdentityLogV1) : Prop where
  current : genesis.unsigned.wire = identityLogWireVersion
  verified : genesis.verify = .ok ()
  sequence : genesis.unsigned.sequence.value = 1
  previous : genesis.unsigned.previousEventHash = none
  outcome : ∃ rootKey recoveryKey acceptance entryHash,
    genesis.unsigned.payload = .genesis rootKey recoveryKey acceptance ∧
    rootKey ≠ recoveryKey ∧ genesis.entryHash = .ok entryHash ∧
    { wire := genesis.unsigned.wire
      identityId := genesis.unsigned.identityId
      currentRootKey := rootKey
      currentRecoveryKey := recoveryKey
      initialDeviceId := none
      devices := ∅
      relayDescriptor := none
      headSequence := genesis.unsigned.sequence
      headHash := entryHash
      seenEntryHashes := (∅ : TreeSet Sha256Digest).insert entryHash } = log

/-- The static checks of a genesis event. -/
theorem genesis_checks {rootKey recoveryKey : SigningPublicKey} {acceptance : Ed25519Signature}
    (payload : genesis.unsigned.payload = .genesis rootKey recoveryKey acceptance)
    (verified : genesis.verify = .ok ()) :
    genesis.unsigned.sequence.value = 1 ∧ genesis.unsigned.previousEventHash = none ∧
      rootKey ≠ recoveryKey := by
  have checked := (IdentityLogEventV1.verify_eq_ok.mp verified).1
  simp only [UnsignedIdentityLogEventV1.validateStatic, payload,
    UnsignedIdentityLogEventV1.validatePayload, bind_eq_ok, rejectIf_eq_ok, Unique.exists_iff,
    not_or, ne_eq, not_not] at checked
  obtain ⟨line, -, -, ⟨sequence, previous, -, apart, -⟩, -⟩ := checked
  exact ⟨sequence, previous, apart⟩

theorem bootstraps_of_bootstrap (started : IdentityLogV1.bootstrap genesis = .ok log) :
    Bootstraps genesis log := by
  simp only [IdentityLogV1.bootstrap, IdentityLogV1.bootstrapProjection, bind_eq_ok,
    rejectIf_eq_ok, Unique.exists_iff, PUnit.default_eq_unit, ne_eq, not_not] at started
  obtain ⟨current, verified, started⟩ := started
  split at started
  next rootKey recoveryKey acceptance payload =>
    simp only [bind_eq_ok, pure_eq_ok] at started
    obtain ⟨entryHash, hashed, rfl⟩ := started
    obtain ⟨sequence, previous, apart⟩ := genesis_checks payload verified
    exact ⟨current, verified, sequence, previous, rootKey, recoveryKey, acceptance, entryHash,
      payload, apart, hashed, rfl⟩
  next => cases started

end Admission

end Dirextalk.Identity
