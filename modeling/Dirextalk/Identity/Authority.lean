import Dirextalk.Identity.Codec
import Dirextalk.Identity.Projection

/-!
# Authority over an identity log

An identity log has two authority keys, root and recovery, and enrols devices under
certificates that the root issues.  A signer is recognised by comparing keys, so
the roles are kept apart only while no key can appear in two of them.  This module
states that separation as an invariant of every run and draws from it what each
role can do, and that revocation is final.
-/

namespace Dirextalk.Identity

open Domain Lib Wire
open Std (ExtTreeMap)

section Authority

variable [Ed25519]

/-! ## Enrolments -/

/-- The certificates that a log has enrolled, by device. -/
abbrev Enrolments := DeviceId → Option DeviceCertificateV1

namespace Enrolments

/-- The key signs for no enrolled device. -/
def Unclaimed (key : SigningPublicKey) (enrolments : Enrolments) : Prop :=
  ∀ deviceId certificate, enrolments deviceId = some certificate →
    certificate.unsigned.deviceSigningKey ≠ key

/-- Different devices have different identifiers, signing keys and encryption keys. -/
structure Distinct (enrolments : Enrolments) : Prop where
  keyed : ∀ deviceId certificate, enrolments deviceId = some certificate →
    certificate.unsigned.deviceId = deviceId
  keys : ∀ deviceId other certificate content, enrolments deviceId = some certificate →
    enrolments other = some content →
    certificate.unsigned.deviceSigningKey = content.unsigned.deviceSigningKey ∨
      certificate.unsigned.deviceEncryptionKey = content.unsigned.deviceEncryptionKey →
    deviceId = other

/-- Stores a certificate under its own device. -/
def enrol (enrolments : Enrolments) (certificate : DeviceCertificateV1) : Enrolments :=
  Function.update enrolments certificate.unsigned.deviceId (some certificate)

variable {enrolments : Enrolments} {certificate : DeviceCertificateV1}

/-- An enrolled certificate is the new one or an old one. -/
theorem enrol_eq_some {deviceId : DeviceId} {stored : DeviceCertificateV1}
    (found : enrolments.enrol certificate deviceId = some stored) :
    (deviceId = certificate.unsigned.deviceId ∧ stored = certificate) ∨
      enrolments deviceId = some stored := by
  rw [enrol, Function.update_apply] at found
  split at found
  next same =>
    cases found
    exact .inl ⟨same, rfl⟩
  next => exact .inr found

theorem Unclaimed.enrol {key : SigningPublicKey} (unclaimed : Unclaimed key enrolments)
    (new : certificate.unsigned.deviceSigningKey ≠ key) :
    Unclaimed key (enrolments.enrol certificate) := by
  intro deviceId stored found
  rcases enrol_eq_some found with ⟨-, rfl⟩ | old
  · exact new
  · exact unclaimed deviceId stored old

theorem Distinct.enrol (distinct : Distinct enrolments)
    (new : ∀ deviceId stored, enrolments deviceId = some stored →
      stored.unsigned.deviceSigningKey ≠ certificate.unsigned.deviceSigningKey ∧
        stored.unsigned.deviceEncryptionKey ≠ certificate.unsigned.deviceEncryptionKey) :
    Distinct (enrolments.enrol certificate) where
  keyed deviceId stored found := by
    rcases enrol_eq_some found with ⟨same, rfl⟩ | old
    · exact same.symm
    · exact distinct.keyed deviceId stored old
  keys deviceId other stored content found otherFound same := by
    rcases enrol_eq_some found with ⟨here, rfl⟩ | old <;>
      rcases enrol_eq_some otherFound with ⟨there, rfl⟩ | otherOld
    · rw [here, there]
    · have apart := new other content otherOld
      rcases same with signing | encryption
      · exact absurd signing.symm apart.1
      · exact absurd encryption.symm apart.2
    · have apart := new deviceId stored old
      rcases same with signing | encryption
      · exact absurd signing apart.1
      · exact absurd encryption apart.2
    · exact distinct.keys deviceId other stored content old otherOld same

end Enrolments

open Enrolments

section Lookups

variable {log : IdentityLogV1}

theorem deviceCertificate_eq_some {deviceId : DeviceId} {certificate : DeviceCertificateV1} :
    log.deviceCertificate deviceId = some certificate ↔
      ∃ record, log.devices[deviceId]? = some record ∧ record.certificate = certificate := by
  simp only [IdentityLogV1.deviceCertificate, Option.map_eq_some_iff]

variable {status : DeviceStatusV1}

theorem deviceStatus_eq_some {deviceId : DeviceId} :
    log.deviceStatus deviceId = some status ↔
      ∃ record, log.devices[deviceId]? = some record ∧ record.status = status := by
  simp only [IdentityLogV1.deviceStatus, Option.map_eq_some_iff]

theorem allCertificates_iff {property : DeviceCertificateV1 → Prop} :
    AllCertificates property log.devices ↔
      ∀ deviceId certificate, log.deviceCertificate deviceId = some certificate →
        property certificate := by
  simp only [AllCertificates, AllValues, deviceCertificate_eq_some, forall_exists_index, and_imp]
  constructor
  · rintro all deviceId certificate record found rfl
    exact all deviceId record found
  · intro all deviceId record found
    exact all deviceId record.certificate record found rfl

/-- A key that signs for no device, as admission tests it. -/
theorem unclaimed_of_unused {key : SigningPublicKey}
    (unused : log.deviceSigningKeyIsUsed key = false) : Unclaimed key log.deviceCertificate :=
  allCertificates_iff.mp (deviceSigningKeyIsUsed_eq_false.mp unused)

variable {next : IdentityLogV1} {deviceId : DeviceId} {record : DeviceRecordV1}

theorem deviceCertificate_of_insert (written : next.devices = log.devices.insert deviceId record) :
    next.deviceCertificate =
      Function.update log.deviceCertificate deviceId (some record.certificate) := by
  funext other
  rw [IdentityLogV1.deviceCertificate, written, lookup_insert, Function.update_apply]
  split <;> rfl

theorem deviceStatus_of_insert (written : next.devices = log.devices.insert deviceId record) :
    next.deviceStatus = Function.update log.deviceStatus deviceId (some record.status) := by
  funext other
  rw [IdentityLogV1.deviceStatus, written, lookup_insert, Function.update_apply]
  split <;> rfl

/-- A new status for a device changes no enrolment. -/
theorem deviceCertificate_of_status (found : log.devices[deviceId]? = some record)
    (written : next.devices = log.devices.insert deviceId { record with status }) :
    next.deviceCertificate = log.deviceCertificate := by
  rw [deviceCertificate_of_insert written, Function.update_eq_self_iff]
  exact (deviceCertificate_eq_some.mpr ⟨record, found, rfl⟩).symm

/-- A new status for every device changes no enrolment. -/
theorem deviceCertificate_of_statuses
    (written : next.devices = log.devices.map fun _ record => { record with status }) :
    next.deviceCertificate = log.deviceCertificate := by
  funext other
  simp only [IdentityLogV1.deviceCertificate, written, ExtTreeMap.getElem?_map, Option.map_map]
  rfl

theorem deviceStatus_of_statuses
    (written : next.devices = log.devices.map fun _ record => { record with status })
    (deviceId : DeviceId) :
    next.deviceStatus deviceId = (log.deviceStatus deviceId).map fun _ => status := by
  simp only [IdentityLogV1.deviceStatus, written, ExtTreeMap.getElem?_map, Option.map_map]
  rfl

end Lookups

/-! ## Separation of keys -/

/-- No key has two roles. -/
structure KeysApart (rootKey recoveryKey : SigningPublicKey) (enrolments : Enrolments) : Prop where
  authorities : rootKey ≠ recoveryKey
  root : Unclaimed rootKey enrolments
  recovery : Unclaimed recoveryKey enrolments
  devices : Distinct enrolments

/-- The keys of a log have one role each. -/
abbrev IdentityLogV1.KeysApart (log : IdentityLogV1) : Prop :=
  Identity.KeysApart log.currentRootKey log.currentRecoveryKey log.deviceCertificate

section Runs

variable [Sha256] {log next later : IdentityLogV1} {event genesis : IdentityLogEventV1}
  {payload : IdentityLogEventPayloadV1}

theorem KeysApart.transition (apart : log.KeysApart) (taken : Transition log event payload next) :
    next.KeysApart := by
  cases taken with
  | deviceAdd certificate initialDeviceId signer verified issuer notRoot notRecovery fresh
      freshSigning freshEncryption =>
      rw [IdentityLogV1.KeysApart, deviceCertificate_of_insert rfl]
      refine ⟨apart.authorities, apart.root.enrol notRoot, apart.recovery.enrol notRecovery,
        apart.devices.enrol fun deviceId stored found => ⟨?_, ?_⟩⟩
      · exact allCertificates_iff.mp freshSigning deviceId stored found
      · exact allCertificates_iff.mp freshEncryption deviceId stored found
  | deviceRevoke deviceId record signer found =>
    rw [IdentityLogV1.KeysApart, deviceCertificate_of_status found rfl]
    exact apart
  | rootRotate successor acceptance signer notRecovery unused accepts =>
    exact ⟨notRecovery, unclaimed_of_unused unused, apart.recovery, apart.devices⟩
  | recoveryRotate successor acceptance line authorization signer notRoot unused =>
    exact ⟨notRoot.symm, apart.root, unclaimed_of_unused unused, apart.devices⟩
  | recoveryRestore newRoot newRecovery rootAcceptance recoveryAcceptance signer distinct
      unusedRoot unusedRecovery =>
      rw [IdentityLogV1.KeysApart, deviceCertificate_of_statuses rfl]
      exact ⟨distinct, unclaimed_of_unused unusedRoot, unclaimed_of_unused unusedRecovery,
        apart.devices⟩
  | relayDescriptor => exact apart

/-- A log that a genesis event has just created. -/
def Bootstrapped (log : IdentityLogV1) : Prop :=
  ∃ genesis, IdentityLogV1.bootstrap genesis = .ok log

/-- The log admits the event. -/
def Appends (log : IdentityLogV1) (event : IdentityLogEventV1) (next : IdentityLogV1) : Prop :=
  log.append event = .ok next

theorem Bootstrapped.keysApart (started : Bootstrapped log) : log.KeysApart := by
  obtain ⟨genesis, started⟩ := started
  obtain ⟨rootKey, recoveryKey, -, -, -, apart, -, rfl⟩ := (bootstraps_of_bootstrap started).outcome
  have unenrolled (deviceId : DeviceId) (certificate : DeviceCertificateV1) :
      (∅ : TreeMap DeviceId DeviceRecordV1)[deviceId]?.map (·.certificate) ≠ some certificate := by
    simp
  exact ⟨apart, fun deviceId certificate found => absurd found (unenrolled deviceId certificate),
    fun deviceId certificate found => absurd found (unenrolled deviceId certificate),
    fun deviceId certificate found => absurd found (unenrolled deviceId certificate),
    fun deviceId _ certificate _ found => absurd found (unenrolled deviceId certificate)⟩

theorem KeysApart.append (apart : log.KeysApart) (admitted : Appends log event next) :
    next.KeysApart := by
  obtain ⟨-, middle, -, -, taken, rfl⟩ := (appended_of_append admitted).outcome
  have kept : middle.KeysApart := apart.transition taken
  exact kept

theorem reached_keysApart (reached : Reached Bootstrapped Appends log) : log.KeysApart :=
  reached.invariant (·.KeysApart) (fun _ started => started.keysApart)
    fun _ _ _ apart admitted => apart.append admitted

/-! ## What stays -/

variable {deviceId : DeviceId} {certificate : DeviceCertificateV1}

theorem Transition.certificate_stays (taken : Transition log event payload next)
    (found : log.deviceCertificate deviceId = some certificate) :
    next.deviceCertificate deviceId = some certificate := by
  cases taken with
  | deviceAdd added initialDeviceId signer verified issuer notRoot notRecovery fresh =>
    obtain ⟨record, present, -⟩ := deviceCertificate_eq_some.mp found
    have other : deviceId ≠ added.unsigned.deviceId := key_ne_of_fresh present fresh
    rw [deviceCertificate_of_insert rfl, Function.update_of_ne other, found]
  | deviceRevoke revoked record signer present =>
    rw [deviceCertificate_of_status present rfl, found]
  | recoveryRestore => rw [deviceCertificate_of_statuses rfl, found]
  | rootRotate | recoveryRotate | relayDescriptor => exact found

theorem certificate_stays (found : log.deviceCertificate deviceId = some certificate)
    (further : ReachedFrom log Appends later) :
    later.deviceCertificate deviceId = some certificate := by
  refine further.invariant (·.deviceCertificate deviceId = some certificate)
    (fun _ same => same ▸ found) fun state event after before admitted => ?_
  obtain ⟨-, middle, -, -, taken, rfl⟩ := (appended_of_append admitted).outcome
  exact taken.certificate_stays before

/-- In every reached log no key has two roles, no two devices share an identifier or
a key, and a certificate once enrolled stays as it is. -/
theorem keys_never_shared (reached : Reached Bootstrapped Appends log) :
    log.currentRootKey ≠ log.currentRecoveryKey ∧
    (∀ deviceId certificate, log.deviceCertificate deviceId = some certificate →
      certificate.unsigned.deviceSigningKey ≠ log.currentRootKey ∧
      certificate.unsigned.deviceSigningKey ≠ log.currentRecoveryKey) ∧
    (∀ deviceId other certificate content, log.deviceCertificate deviceId = some certificate →
      log.deviceCertificate other = some content → deviceId ≠ other →
      certificate.unsigned.deviceId ≠ content.unsigned.deviceId ∧
      certificate.unsigned.deviceSigningKey ≠ content.unsigned.deviceSigningKey ∧
      certificate.unsigned.deviceEncryptionKey ≠ content.unsigned.deviceEncryptionKey) ∧
    ∀ deviceId certificate later, log.deviceCertificate deviceId = some certificate →
      ReachedFrom log Appends later → later.deviceCertificate deviceId = some certificate := by
  have apart := reached_keysApart reached
  refine ⟨apart.authorities, fun deviceId certificate found => ?_,
    fun deviceId other certificate content found otherFound distinct => ⟨?_, ?_, ?_⟩,
    fun deviceId certificate later => certificate_stays⟩
  · exact ⟨apart.root deviceId certificate found, apart.recovery deviceId certificate found⟩
  · rw [apart.devices.keyed deviceId certificate found,
      apart.devices.keyed other content otherFound]
    exact distinct
  · exact fun same => distinct
      (apart.devices.keys deviceId other certificate content found otherFound (.inl same))
  · exact fun same => distinct
      (apart.devices.keys deviceId other certificate content found otherFound (.inr same))

/-! ## Revocation -/

theorem Transition.revoked_stays (taken : Transition log event payload next)
    (revoked : log.deviceStatus deviceId = some .revoked) :
    next.deviceStatus deviceId = some .revoked := by
  cases taken with
  | deviceAdd added initialDeviceId signer verified issuer notRoot notRecovery fresh =>
    obtain ⟨record, present, -⟩ := deviceStatus_eq_some.mp revoked
    have other : deviceId ≠ added.unsigned.deviceId := key_ne_of_fresh present fresh
    rw [deviceStatus_of_insert rfl, Function.update_of_ne other, revoked]
  | deviceRevoke target record signer present =>
    rw [deviceStatus_of_insert rfl, Function.update_apply]
    split
    next => rfl
    next => exact revoked
  | recoveryRestore => rw [deviceStatus_of_statuses rfl, revoked, Option.map_some]
  | rootRotate | recoveryRotate | relayDescriptor => exact revoked

theorem revoked_stays (revoked : log.deviceStatus deviceId = some .revoked)
    (further : ReachedFrom log Appends later) : later.deviceStatus deviceId = some .revoked := by
  refine further.invariant (·.deviceStatus deviceId = some .revoked) (fun _ same => same ▸ revoked)
    fun state event after before admitted => ?_
  obtain ⟨-, middle, -, -, taken, rfl⟩ := (appended_of_append admitted).outcome
  exact taken.revoked_stays before

/-- Only an authority key or the key of an active device signs an admitted event. -/
theorem Transition.signer_cases (taken : Transition log event payload next) :
    event.unsigned.signer = log.currentRootKey ∨ event.unsigned.signer = log.currentRecoveryKey ∨
      log.signerIsActiveDevice event.unsigned.signer = true := by
  cases taken with
  | deviceAdd added initialDeviceId signer => exact signer.imp_right .inr
  | deviceRevoke _ _ signer => exact .inl signer
  | rootRotate _ _ signer => exact .inl signer
  | recoveryRotate _ _ _ _ signer => exact .inl signer
  | recoveryRestore _ _ _ _ signer => exact .inr (.inl signer)
  | relayDescriptor _ signer => exact .inl signer

/-- While no key has two roles, an enrolled device signs only while it is active. -/
theorem KeysApart.active_of_signer (apart : log.KeysApart)
    (taken : Transition log event payload next)
    (found : log.deviceCertificate deviceId = some certificate)
    (signs : event.unsigned.signer = certificate.unsigned.deviceSigningKey) :
    log.deviceStatus deviceId = some .active := by
  rcases taken.signer_cases with root | recovery | active
  · exact absurd (signs.symm.trans root) (apart.root deviceId certificate found)
  · exact absurd (signs.symm.trans recovery) (apart.recovery deviceId certificate found)
  · obtain ⟨other, record, present, active, key⟩ := signerIsActiveDevice_eq_true.mp active
    have stored := deviceCertificate_eq_some.mpr ⟨record, present, rfl⟩
    obtain rfl := apart.devices.keys other deviceId record.certificate certificate stored found
      (.inl (key.trans signs))
    exact deviceStatus_eq_some.mpr ⟨record, present, active⟩

/-- A revoked device stays revoked, and no later event that its key signs is admitted. -/
theorem revocation_is_final (reached : Reached Bootstrapped Appends log) {deviceId : DeviceId}
    (revoked : log.deviceStatus deviceId = some .revoked)
    (further : ReachedFrom log Appends later) :
    later.deviceStatus deviceId = some .revoked ∧
      ∃ certificate, log.deviceCertificate deviceId = some certificate ∧
        ∀ event next, event.unsigned.signer = certificate.unsigned.deviceSigningKey →
          later.append event ≠ .ok next := by
  obtain ⟨record, present, -⟩ := deviceStatus_eq_some.mp revoked
  have found := deviceCertificate_eq_some.mpr ⟨record, present, rfl⟩
  have stillRevoked := revoked_stays revoked further
  refine ⟨stillRevoked, record.certificate, found, fun event next signs admitted => ?_⟩
  have apart := reached_keysApart (reached.extend further)
  obtain ⟨-, middle, -, -, taken, -⟩ := (appended_of_append admitted).outcome
  have active := apart.active_of_signer taken (certificate_stays found further) signs
  rw [stillRevoked] at active
  cases active

/-! ## Roles -/

/-- On the current line a recovery rotation carries the authorization of the recovery
key that it replaces. -/
theorem authorizesRotation_of_verified {successor : SigningPublicKey}
    {acceptance : Ed25519Signature} {line : IdentityLogWireLine}
    {authorization : Option Ed25519Signature}
    (current : event.unsigned.wire = identityLogWireVersion)
    (wireLine : identityLogWireLine event.unsigned.wire = .ok line)
    (verified : log.verifyRecoveryAuthorization event successor acceptance line authorization =
      .ok ()) :
    ∃ signature, authorization = some signature ∧
      AuthorizesRotation log.currentRecoveryKey log.identityId event successor acceptance
        signature := by
  rw [current] at wireLine
  cases wireLine
  cases authorization with
  | none => cases verified
  | some signature =>
    simp only [IdentityLogV1.verifyRecoveryAuthorization, bind_eq_ok, mapError_eq_ok,
      verifySignature_eq_ok] at verified
    exact ⟨signature, rfl, verified⟩

section

variable (taken : Transition log event payload next)
include taken

/-- A new recovery key was signed for by the one it replaces. -/
theorem Transition.recovery_changed (current : event.unsigned.wire = identityLogWireVersion)
    (signed : event.SignedBy event.unsigned.signer)
    (changed : next.currentRecoveryKey ≠ log.currentRecoveryKey) :
    (∃ newRoot rootAcceptance recoveryAcceptance,
      payload = .recoveryRestore newRoot next.currentRecoveryKey rootAcceptance
        recoveryAcceptance ∧ event.SignedBy log.currentRecoveryKey) ∨
    ∃ acceptance authorization,
      payload = .recoveryRotate next.currentRecoveryKey acceptance (some authorization) ∧
      event.unsigned.signer = log.currentRootKey ∧
      AuthorizesRotation log.currentRecoveryKey log.identityId event next.currentRecoveryKey
        acceptance authorization := by
  cases taken with
  | recoveryRestore newRoot newRecovery rootAcceptance recoveryAcceptance signer =>
    exact .inl ⟨newRoot, rootAcceptance, recoveryAcceptance, rfl, signer ▸ signed⟩
  | recoveryRotate successor acceptance line authorization signer notRoot unused accepts wireLine
      authorized =>
      obtain ⟨signature, rfl, verifies⟩ :=
        authorizesRotation_of_verified current wireLine authorized
      exact .inr ⟨acceptance, signature, rfl, signer, verifies⟩
  | deviceAdd | deviceRevoke | rootRotate | relayDescriptor => exact absurd rfl changed

/-- A new root key was signed for by one of the authority keys before it. -/
theorem Transition.root_changed (changed : next.currentRootKey ≠ log.currentRootKey) :
    event.unsigned.signer = log.currentRootKey ∨
      event.unsigned.signer = log.currentRecoveryKey := by
  cases taken with
  | rootRotate successor acceptance signer => exact .inl signer
  | recoveryRestore newRoot newRecovery rootAcceptance recoveryAcceptance signer =>
    exact .inr signer
  | deviceAdd | deviceRevoke | recoveryRotate | relayDescriptor => exact absurd rfl changed

/-- A device that becomes active has a certificate of the current root. -/
theorem Transition.activated (before : log.deviceStatus deviceId ≠ some .active)
    (after : next.deviceStatus deviceId = some .active) :
    ∃ certificate, next.deviceCertificate deviceId = some certificate ∧
      certificate.unsigned.issuerRootKey = log.currentRootKey ∧ certificate.verify = .ok () := by
  cases taken with
  | deviceAdd certificate initialDeviceId signer verified issuer =>
    rw [deviceStatus_of_insert rfl, Function.update_apply] at after
    split at after
    next same =>
      refine ⟨certificate, ?_, issuer, verified⟩
      rw [deviceCertificate_of_insert rfl, same, Function.update_self]
    next => exact absurd after before
  | deviceRevoke target record =>
    rw [deviceStatus_of_insert rfl, Function.update_apply] at after
    split at after
    next => cases after
    next => exact absurd after before
  | recoveryRestore =>
    rw [deviceStatus_of_statuses rfl] at after
    cases enrolled : log.deviceStatus deviceId <;> simp [enrolled] at after
  | rootRotate | recoveryRotate | relayDescriptor => exact absurd after before

/-- What an event leaves alone that neither authority key has signed. -/
theorem Transition.unauthorized (not_root : event.unsigned.signer ≠ log.currentRootKey)
    (not_recovery : event.unsigned.signer ≠ log.currentRecoveryKey) :
    next.currentRootKey = log.currentRootKey ∧ next.currentRecoveryKey = log.currentRecoveryKey ∧
      next.relayDescriptor = log.relayDescriptor ∧
      ∀ deviceId status, log.deviceStatus deviceId = some status →
        next.deviceStatus deviceId = some status := by
  cases taken with
  | deviceAdd added initialDeviceId signer verified issuer notRoot notRecovery fresh =>
    refine ⟨rfl, rfl, rfl, fun deviceId status found => ?_⟩
    obtain ⟨record, present, -⟩ := deviceStatus_eq_some.mp found
    have other : deviceId ≠ added.unsigned.deviceId := key_ne_of_fresh present fresh
    rw [deviceStatus_of_insert rfl, Function.update_of_ne other, found]
  | deviceRevoke _ _ signer => exact absurd signer not_root
  | rootRotate _ _ signer => exact absurd signer not_root
  | recoveryRotate _ _ _ _ signer => exact absurd signer not_root
  | recoveryRestore _ _ _ _ signer => exact absurd signer not_recovery
  | relayDescriptor _ signer => exact absurd signer not_root

end

/-- In every run, the recovery key changes only under a signature of the one before it,
the root key only under a signature of an authority key, a device becomes active only
with a certificate of the current root, and what a device signs changes neither
authority key, no other device and no relay descriptor. -/
theorem authority_is_separated (reached : Reached Bootstrapped Appends log)
    (admitted : Appends log event next) :
    (next.currentRecoveryKey ≠ log.currentRecoveryKey →
      (∃ newRoot rootAcceptance recoveryAcceptance,
        event.unsigned.payload = .recoveryRestore newRoot next.currentRecoveryKey rootAcceptance
          recoveryAcceptance ∧ event.SignedBy log.currentRecoveryKey) ∨
      ∃ acceptance authorization,
        event.unsigned.payload = .recoveryRotate next.currentRecoveryKey acceptance
          (some authorization) ∧ event.unsigned.signer = log.currentRootKey ∧
        AuthorizesRotation log.currentRecoveryKey log.identityId event next.currentRecoveryKey
          acceptance authorization) ∧
    (next.currentRootKey ≠ log.currentRootKey →
      event.SignedBy log.currentRootKey ∨ event.SignedBy log.currentRecoveryKey) ∧
    (∀ deviceId, log.deviceStatus deviceId ≠ some .active →
      next.deviceStatus deviceId = some .active →
      ∃ certificate, next.deviceCertificate deviceId = some certificate ∧
        certificate.unsigned.issuerRootKey = log.currentRootKey ∧ certificate.verify = .ok ()) ∧
    ∀ deviceId certificate, log.deviceCertificate deviceId = some certificate →
      event.unsigned.signer = certificate.unsigned.deviceSigningKey →
      next.currentRootKey = log.currentRootKey ∧
      next.currentRecoveryKey = log.currentRecoveryKey ∧
      next.relayDescriptor = log.relayDescriptor ∧
      ∀ other status, log.deviceStatus other = some status →
        next.deviceStatus other = some status := by
  have apart := reached_keysApart reached
  obtain ⟨current, verified, -, -, -, -, middle, -, -, taken, rfl⟩ := appended_of_append admitted
  have signed := (IdentityLogEventV1.verify_eq_ok.mp verified).2
  refine ⟨taken.recovery_changed current signed, fun changed => ?_,
    fun deviceId => taken.activated, fun deviceId certificate found signs => ?_⟩
  · rcases taken.root_changed changed with root | recovery
    · exact .inl (root ▸ signed)
    · exact .inr (recovery ▸ signed)
  · refine taken.unauthorized ?_ ?_
    · exact signs ▸ apart.root deviceId certificate found
    · exact signs ▸ apart.recovery deviceId certificate found

end Runs

end Authority

/-! ## A sample run -/

section Sample

attribute [local instance] openEd25519 countingSha256

/-- The log that a call returns; no call below fails. -/
def returnedLog (call : Except Failure IdentityLogV1) : IdentityLogV1 :=
  call.toOption.getD
    { wire := identityLogWireVersion
      identityId := sampleIdentity
      currentRootKey := sampleKey 1
      currentRecoveryKey := sampleKey 2
      initialDeviceId := none
      devices := ∅
      relayDescriptor := none
      headSequence := ⟨0, by decide⟩
      headHash := ⟨sampleIdentity.digest⟩
      seenEntryHashes := ∅ }

theorem eq_ok_returnedLog {call : Except Failure IdentityLogV1}
    (succeeds : call.toOption.isSome = true) : call = .ok (returnedLog call) := by
  cases call with
  | error error => cases succeeds
  | ok log => rfl

def genesisLog : IdentityLogV1 := returnedLog (IdentityLogV1.bootstrap sampleGenesis)

def sampleAddition : IdentityLogEventV1 :=
  sampleEvent ⟨2, by decide⟩ (some genesisLog.headHash) (.deviceAdd sampleCertificate)

def enrolledLog : IdentityLogV1 := returnedLog (genesisLog.append sampleAddition)

def sampleRevocation : IdentityLogEventV1 :=
  sampleEvent ⟨3, by decide⟩ (some enrolledLog.headHash) (.deviceRevoke sampleDevice)

def revokedLog : IdentityLogV1 := returnedLog (enrolledLog.append sampleRevocation)

def sampleRotation : IdentityLogEventV1 :=
  sampleEvent ⟨4, by decide⟩ (some revokedLog.headHash)
    (.recoveryRotate (sampleKey 5) sampleSignature (some sampleSignature))

def rotatedLog : IdentityLogV1 := returnedLog (revokedLog.append sampleRotation)

-- one evaluation of the run for all the facts about it
theorem sample_run :
    (IdentityLogV1.bootstrap sampleGenesis).toOption.isSome = true ∧
      (genesisLog.append sampleAddition).toOption.isSome = true ∧
      (enrolledLog.append sampleRevocation).toOption.isSome = true ∧
      (revokedLog.append sampleRotation).toOption.isSome = true ∧
      enrolledLog.deviceCertificate sampleDevice = some sampleCertificate ∧
      revokedLog.deviceStatus sampleDevice = some .revoked ∧
      rotatedLog.currentRecoveryKey ≠ revokedLog.currentRecoveryKey ∧
      enrolledLog.identityId = sampleIdentity ∧
      enrolledLog.deviceStatus sampleDevice = some .active := by
  decide +kernel

theorem genesis_starts : IdentityLogV1.bootstrap sampleGenesis = .ok genesisLog :=
  eq_ok_returnedLog sample_run.1

theorem addition_appends : Appends genesisLog sampleAddition enrolledLog :=
  eq_ok_returnedLog sample_run.2.1

theorem revocation_appends : Appends enrolledLog sampleRevocation revokedLog :=
  eq_ok_returnedLog sample_run.2.2.1

theorem rotation_appends : Appends revokedLog sampleRotation rotatedLog :=
  eq_ok_returnedLog sample_run.2.2.2.1

theorem enrolledLog_identityId : enrolledLog.identityId = sampleIdentity :=
  sample_run.2.2.2.2.2.2.2.1

theorem enrolledLog_deviceStatus : enrolledLog.deviceStatus sampleDevice = some .active :=
  sample_run.2.2.2.2.2.2.2.2

theorem enrolledLog_reached : Reached Bootstrapped Appends enrolledLog :=
  .next sampleAddition (.initial ⟨sampleGenesis, genesis_starts⟩) addition_appends

/-- The first log has a device, which later logs have revoked and kept. -/
theorem enrolled_keys_apart :
    enrolledLog.currentRootKey ≠ enrolledLog.currentRecoveryKey ∧
      enrolledLog.deviceCertificate sampleDevice = some sampleCertificate ∧
      revokedLog.deviceCertificate sampleDevice = some sampleCertificate := by
  have apart := keys_never_shared enrolledLog_reached
  obtain ⟨-, -, -, -, found, -⟩ := sample_run
  have follows : ReachedFrom enrolledLog Appends revokedLog :=
    .next sampleRevocation (.initial rfl) revocation_appends
  exact ⟨apart.1, found, apart.2.2.2 sampleDevice sampleCertificate revokedLog found follows⟩

/-- The revoked device cannot sign for another addition after the rotation. -/
theorem revoked_device_stays_out :
    revokedLog.deviceStatus sampleDevice = some .revoked ∧
      rotatedLog.deviceStatus sampleDevice = some .revoked ∧
      ∃ certificate, revokedLog.deviceCertificate sampleDevice = some certificate ∧
        ∀ event next, event.unsigned.signer = certificate.unsigned.deviceSigningKey →
          rotatedLog.append event ≠ .ok next := by
  obtain ⟨-, -, -, -, -, revoked, -⟩ := sample_run
  have reached : Reached Bootstrapped Appends revokedLog :=
    .next sampleRevocation enrolledLog_reached revocation_appends
  have follows : ReachedFrom revokedLog Appends rotatedLog :=
    .next sampleRotation (.initial rfl) rotation_appends
  exact ⟨revoked, revocation_is_final reached revoked follows⟩

/-- The rotation replaces the recovery key, and its authorization verifies under the old one. -/
theorem rotation_was_authorized :
    rotatedLog.currentRecoveryKey ≠ revokedLog.currentRecoveryKey ∧
      ((∃ newRoot rootAcceptance recoveryAcceptance,
        sampleRotation.unsigned.payload = .recoveryRestore newRoot rotatedLog.currentRecoveryKey
          rootAcceptance recoveryAcceptance ∧
        sampleRotation.SignedBy revokedLog.currentRecoveryKey) ∨
      ∃ acceptance authorization,
        sampleRotation.unsigned.payload = .recoveryRotate rotatedLog.currentRecoveryKey acceptance
          (some authorization) ∧
        sampleRotation.unsigned.signer = revokedLog.currentRootKey ∧
        AuthorizesRotation revokedLog.currentRecoveryKey revokedLog.identityId sampleRotation
          rotatedLog.currentRecoveryKey acceptance authorization) := by
  obtain ⟨-, -, -, -, -, -, changed, -⟩ := sample_run
  have reached : Reached Bootstrapped Appends revokedLog :=
    .next sampleRevocation enrolledLog_reached revocation_appends
  exact ⟨changed, (authority_is_separated reached rotation_appends).1 changed⟩

end Sample

end Dirextalk.Identity
