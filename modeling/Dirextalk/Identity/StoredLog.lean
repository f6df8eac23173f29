import Dirextalk.Identity.Agreement

/-!
# Identity logs as they are stored

The directory keeps the exact bytes of every admitted event and the head that
they lead to.  A log is read by decoding and replaying its entries, so a stored
log stands for one sequence of events.  Services read the logs of the moment.
-/

namespace Dirextalk.Identity

open Domain Lib Wire

/-- The column `state` of a stored log. -/
inductive LogState where
  | active
  | tombstoned
  | forked
  deriving DecidableEq, Repr

/-- The head that a projection has reached. -/
structure IdentityLogHead where
  identityId : IdentityId
  wire : WireVersion
  sequence : SafeUint
  hash : Sha256Digest
  deriving DecidableEq

/-- Why a stored log cannot be read or appended to. -/
inductive IdentityPersistenceError where
  | invalidCommand (reason : String)
  | identityLog (failure : Failure)
  | headConflict (current : Option IdentityLogHead)
  | identityInactive
  | deviceAuthenticationRejected
  | corruptData (field : String)
  deriving DecidableEq

open IdentityPersistenceError

/-- The device that a valid, unexpired session credential stands for. -/
structure AuthenticatedDeviceSession where
  identityId : IdentityId
  deviceId : DeviceId
  deriving DecidableEq

/-- The session with the key of its device. -/
structure AuthenticatedDeviceSigningSession [Ed25519] where
  session : AuthenticatedDeviceSession
  signingKey : SigningPublicKey
  deriving DecidableEq

/-- A row of `identity.log_heads` with its rows of `identity.log_entries`. -/
structure StoredLog where
  state : LogState
  head : IdentityLogHead
  /-- The column `event_bytes` of the entries, in the order of their sequence. -/
  entries : List (List UInt8)
  deriving DecidableEq

section Storage

variable [Ed25519] [Sha256]

/-- The head that a projection stands at. -/
def headFromProjection (log : IdentityLogV1) : IdentityLogHead :=
  ⟨log.identityId, log.wire, log.headSequence, log.headHash⟩

/-! ## Reading -/

variable (identityId : IdentityId)

/-- A stored event, which has to be of the identity. -/
def decodeEntryRow (bytes : List UInt8) : Except IdentityPersistenceError IdentityLogEventV1 := do
  let event ← (IdentityLogEventV1.decodeAndVerify bytes).mapError identityLog
  rejectIf (event.unsigned.identityId ≠ identityId) (corruptData "identity log entry projection")
  return event

def appendEntry (log : IdentityLogV1) (bytes : List UInt8) :
    Except IdentityPersistenceError IdentityLogV1 := do
  let event ← decodeEntryRow identityId bytes
  (log.append event).mapError identityLog

/-- The projection of some entries. -/
def replayEntries : List (List UInt8) → Except IdentityPersistenceError IdentityLogV1
  | [] => .error (corruptData "identity log entries")
  | first :: rest => do
      let genesis ← decodeEntryRow identityId first
      let log ← (IdentityLogV1.bootstrap genesis).mapError identityLog
      rest.foldlM (appendEntry identityId) log

namespace StoredLog

/-- Replays the entries, which have to end in the stored head. -/
def loadSnapshotForHead (stored : StoredLog) : Except IdentityPersistenceError IdentityLogV1 := do
  let log ← replayEntries stored.head.identityId stored.entries
  rejectIf (headFromProjection log ≠ stored.head) (corruptData "identity log head projection")
  return log

/-- Only an active log is read. -/
def loadActiveSnapshot (stored : Option StoredLog) :
    Except IdentityPersistenceError IdentityLogV1 := do
  let stored ← okOr stored identityInactive
  rejectIf (stored.state ≠ .active) identityInactive
  stored.loadSnapshotForHead

end StoredLog

/-- The certified key of an active device. -/
def activeDeviceSigningKey (log : IdentityLogV1) (deviceId : DeviceId) :
    Except IdentityPersistenceError SigningPublicKey := do
  rejectIf (log.deviceStatus deviceId ≠ some .active) deviceAuthenticationRejected
  let certificate ← okOr (log.deviceCertificate deviceId)
    (corruptData "active device certificate missing")
  return certificate.unsigned.deviceSigningKey

/-! ## What a stored log stands for -/

theorem decodeEntryRow_eq_ok {identityId : IdentityId} {bytes : List UInt8}
    {event : IdentityLogEventV1} :
    decodeEntryRow identityId bytes = .ok event ↔
      IdentityLogEventV1.decodeAndVerify bytes = .ok event ∧
        event.unsigned.identityId = identityId := by
  simp only [decodeEntryRow, bind_eq_ok, mapError_eq_ok, rejectIf_eq_ok, exists_const, pure_eq_ok,
    ne_eq, not_not]
  constructor
  · rintro ⟨_, decoded, same, rfl⟩
    exact ⟨decoded, same⟩
  · rintro ⟨decoded, same⟩
    exact ⟨event, decoded, same, rfl⟩

end Storage

/-! ## Directory views -/

/-- What a transaction reads of the directory; a run of them may see any sequence of these. -/
structure DirectoryView where
  /-- The row of `identity.device_sessions` for the credential, if its secret matches and it
  has not expired. -/
  session : Option AuthenticatedDeviceSession
  logs : IdentityId → Option StoredLog

namespace DirectoryView

variable [Ed25519] [Sha256] (view : DirectoryView)

/-- The key of a device, from the log in this view. -/
def activeDeviceSigningKeyInTransaction (identityId : IdentityId) (deviceId : DeviceId) :
    Except IdentityPersistenceError SigningPublicKey := do
  let snapshot ← StoredLog.loadActiveSnapshot (view.logs identityId)
  activeDeviceSigningKey snapshot deviceId

/-- A session counts while its device is active. -/
def authenticateWithSigningKeyInTransaction :
    Except IdentityPersistenceError AuthenticatedDeviceSigningSession := do
  let session ← okOr view.session deviceAuthenticationRejected
  let signingKey ← view.activeDeviceSigningKeyInTransaction session.identityId session.deviceId
  return ⟨session, signingKey⟩

def authenticateInTransaction : Except IdentityPersistenceError AuthenticatedDeviceSession := do
  let authenticated ← view.authenticateWithSigningKeyInTransaction
  return authenticated.session

/-- The device is active in the stored log of its identity. -/
def Active (identityId : IdentityId) (deviceId : DeviceId) : Prop :=
  ∃ log, StoredLog.loadActiveSnapshot (view.logs identityId) = .ok log ∧
    log.deviceStatus deviceId = some .active

variable {view}

theorem active_of_key {identityId : IdentityId} {deviceId : DeviceId} {key : SigningPublicKey}
    (found : view.activeDeviceSigningKeyInTransaction identityId deviceId = .ok key) :
    view.Active identityId deviceId := by
  obtain ⟨log, loaded, found⟩ := bind_eq_ok.mp found
  simp only [activeDeviceSigningKey, bind_eq_ok, rejectIf_eq_ok, not_not] at found
  obtain ⟨_, active, -⟩ := found
  exact ⟨log, loaded, active⟩

end DirectoryView

section Samples

attribute [local instance] openEd25519 countingSha256

def eventBytes (event : IdentityLogEventV1) : List UInt8 :=
  event.toDeterministicCbor.toOption.getD []

def enrolledStored : StoredLog :=
  ⟨.active, headFromProjection enrolledLog, [eventBytes sampleGenesis, eventBytes sampleAddition]⟩

/-- The enrolled device, with a session. -/
def sampleView : DirectoryView :=
  ⟨some ⟨sampleIdentity, sampleDevice⟩, fun _ => some enrolledStored⟩

theorem decodeEntryRow_eventBytes {event : IdentityLogEventV1} (verified : event.verify = .ok ())
    (identity : event.unsigned.identityId = sampleIdentity) :
    decodeEntryRow sampleIdentity (eventBytes event) = .ok event := by
  obtain ⟨bytes, encoded, decoded⟩ := event_bytes verified
  rw [eventBytes, encoded]
  exact decodeEntryRow_eq_ok.mpr ⟨decoded, identity⟩

theorem sampleView_loaded (identityId : IdentityId) :
    StoredLog.loadActiveSnapshot (sampleView.logs identityId) = .ok enrolledLog := by
  have genesis := decodeEntryRow_eventBytes (bootstraps_of_bootstrap genesis_starts).verified rfl
  have addition := decodeEntryRow_eventBytes (appended_of_append addition_appends).verified rfl
  have head : enrolledStored.head.identityId = sampleIdentity := by
    rw [← enrolledLog_identityId, enrolledStored, headFromProjection]
  have replayed : replayEntries sampleIdentity enrolledStored.entries = .ok enrolledLog := by
    simp only [enrolledStored, replayEntries, genesis, ok_bind, genesis_starts, Except.mapError,
      List.foldlM_cons, List.foldlM_nil, appendEntry, addition,
      show genesisLog.append sampleAddition = .ok enrolledLog from addition_appends]
    rfl
  have projected : headFromProjection enrolledLog = enrolledStored.head := by
    rw [enrolledStored]
  change StoredLog.loadActiveSnapshot (some enrolledStored) = _
  rw [StoredLog.loadActiveSnapshot, okOr_some, ok_bind, rejectIf_neg _ (by decide), ok_bind,
    StoredLog.loadSnapshotForHead, head, replayed, ok_bind, rejectIf_neg _ (not_not.mpr projected)]
  rfl

/-- The sample directory knows the enrolled device under every identity. -/
theorem sampleView_key (identityId : IdentityId) :
    sampleView.activeDeviceSigningKeyInTransaction identityId sampleDevice = .ok (sampleKey 3) := by
  have certificate : enrolledLog.deviceCertificate sampleDevice = some sampleCertificate :=
    sample_run.2.2.2.2.1
  rw [DirectoryView.activeDeviceSigningKeyInTransaction, sampleView_loaded, ok_bind,
    activeDeviceSigningKey, rejectIf_neg _ (not_not.mpr enrolledLog_deviceStatus), ok_bind,
    certificate]
  rfl

def sampleSession : AuthenticatedDeviceSession := ⟨sampleIdentity, sampleDevice⟩

theorem sampleView_session :
    sampleView.authenticateWithSigningKeyInTransaction = .ok ⟨sampleSession, sampleKey 3⟩ := by
  have session : sampleView.session = some sampleSession := rfl
  rw [DirectoryView.authenticateWithSigningKeyInTransaction, session, okOr_some, ok_bind]
  change sampleView.activeDeviceSigningKeyInTransaction sampleIdentity sampleDevice >>= _ = _
  rw [sampleView_key]
  rfl

theorem sampleView_authenticated : sampleView.authenticateInTransaction = .ok sampleSession := by
  rw [DirectoryView.authenticateInTransaction, sampleView_session]
  rfl

end Samples

end Dirextalk.Identity
