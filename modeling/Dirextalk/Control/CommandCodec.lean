import Dirextalk.Control.CommandLog
import Dirextalk.Domain.Text
import Dirextalk.Lib.Protobuf
import Dirextalk.Wire.ParserSpec

/-!
# The wire form of commands

The constructors of the command payloads, the protocol buffer messages that carry them, and
the encoder of a durable command.
-/

namespace Dirextalk.Control

open Connect Domain Lib Wire CommandError

/-! ## Constructors -/

/-- Orders the entries by key and checks the result. -/
def canonicalizeConfig (entries : List ConfigEntry) : Except CommandError (List ConfigEntry) := do
  rejectIf (entries.length > maxConfigEntriesPerScope) invalidConfigEntry
  let sorted := entries.insertionSort fun left right => ¬right.key < left.key
  rejectIf (canonicalConfigIsValid sorted = false) invalidConfigEntry
  return sorted

/-- A configuration never asks for a revoked connector. -/
def ApplyConfigCommand.new (configRevision : Revision) (desiredState : ConnectorDesiredState)
    (adapterConfig runtimeConfig : List ConfigEntry) : Except CommandError ApplyConfigCommand := do
  rejectIf (desiredState = .revoked) invalidCommandPayload
  let adapterConfig ← canonicalizeConfig adapterConfig
  let runtimeConfig ← canonicalizeConfig runtimeConfig
  return { configRevision, desiredState, adapterConfig, runtimeConfig }

/-- The deadline is a positive safe integer. -/
def RotateCredentialCommand.new (nonce : FixedBytes 32) (successorRevision : Revision)
    (deadlineMillis : Int64) : Except CommandError RotateCredentialCommand := do
  rejectIf (¬(1 ≤ deadlineMillis.toInt ∧ deadlineMillis.toInt ≤ 9007199254740991))
    invalidCommandPayload
  return { nonce, successorRevision, deadlineMillis }

/-- Checks the stable code and the redacted detail. -/
def CloseStreamCommand.new (reason : CloseStreamReason) (stableCode redactedDetail : String) :
    Except CommandError CloseStreamCommand := do
  rejectIf (validUpperSnakeCode stableCode maxCloseStreamCodeBytes = false ∨
    redactedDetail.utf8ByteSize > maxCloseStreamDetailBytes ∨
    containsC0C1Control redactedDetail = true) invalidCloseStreamMetadata
  return { reason, stableCode, redactedDetail }

/-- `DeliverAgentProvisioningCommand::new` with its arguments as the record it returns. -/
def DeliverAgentProvisioningCommand.new (command : DeliverAgentProvisioningCommand) :
    Except CommandError DeliverAgentProvisioningCommand := do
  rejectIf (command.sealedCapsule = [] ∨
    command.sealedCapsule.length > maxProvisioningCapsuleBytes ∨
    command.expiresAtMillis.toInt ≤ 0) invalidCommandPayload
  return command

/-- `RevokeAgentProvisioningCommand::new` with its arguments as the record it returns. -/
def RevokeAgentProvisioningCommand.new (command : RevokeAgentProvisioningCommand) :
    Except CommandError RevokeAgentProvisioningCommand := do
  rejectIf (command.requestedAtMillis.toInt ≤ 0) invalidCommandPayload
  return command

/-- `command_payload_digest`. -/
def commandPayloadDigest [Sha256] (bytes : List UInt8) : Except CommandError Sha256Digest := do
  rejectIf (bytes = [] ∨ bytes.length > maxCommandBytes) invalidCommandPayloadBytes
  return domainDigest "dirextalk.connector-command-payload.v1" [bytes]

/-- `ExactCommandBytes::new`. -/
def ExactCommandBytes.new (bytes : List UInt8) : Except CommandError ExactCommandBytes :=
  if bounded : bytes ≠ [] ∧ bytes.length ≤ maxCommandBytes then .ok ⟨bytes, bounded⟩
  else .error invalidCommandBytes

/-! ## Texts in messages -/

variable (number : Nat)

def putText (text : String) : List Field := putBytes number (textBytes text)

/-- The text of an identifier, or the empty text. -/
def optionalText {kind : UuidKind} (id : Option (UuidV7 kind)) : String :=
  id.elim "" UuidV7.toText

def optionalBytes (bytes : Option (FixedBytes 32)) : List UInt8 := bytes.elim [] FixedBytes.toList

/-! ## Payload messages -/

/-- Number of the state; a revoked connector has none. -/
def encodeDesiredState : ConnectorDesiredState → Nat
  | .running => 1
  | .draining => 2
  | .stopped => 3
  | .revoked => 0

def encodeCloseStreamReason : CloseStreamReason → Nat
  | .reconnect => 1
  | .drained => 2
  | .revoked => 3
  | .protocolUpgrade => 4

def ConfigEntry.fields (entry : ConfigEntry) : List Field :=
  putText 1 entry.key ++ putText 2 entry.value

/-- Each entry is a message of its own under one number. -/
def encodeConfigEntries (entries : List ConfigEntry) : List Field :=
  entries.flatMap fun entry => putMessage number (encodeFields entry.fields)

def ApplyConfigCommand.fields (command : ApplyConfigCommand) : List Field :=
  putUint64 1 command.configRevision.value ++
    putUint64 2 (encodeDesiredState command.desiredState) ++
    encodeConfigEntries 3 command.adapterConfig ++ encodeConfigEntries 4 command.runtimeConfig

def RotateCredentialCommand.fields (command : RotateCredentialCommand) (deadlineMillis : Nat) :
    List Field :=
  putBytes 1 command.nonce.toList ++ putUint64 2 command.successorRevision.value ++
    putUint64 3 deadlineMillis

def CloseStreamCommand.fields (command : CloseStreamCommand) : List Field :=
  putUint64 1 (encodeCloseStreamReason command.reason) ++ putText 2 command.stableCode ++
    putText 3 command.redactedDetail

def DeliverAgentProvisioningCommand.fields (command : DeliverAgentProvisioningCommand)
    (expiresAtMillis : Nat) : List Field :=
  putText 1 command.deliveryId.toText ++ putText 2 command.approvalId.toText ++
    putText 3 command.bindingId.toText ++ putText 4 command.installationId.toText ++
    putText 5 command.agentDeviceId.toText ++ putUint64 6 command.provisioningRevision.value ++
    putText 7 command.recipientKeyId.toText ++
    putBytes 8 command.recipientDescriptorDigest.bytes.toList ++
    putBytes 9 command.capsuleDigest.bytes.toList ++ putBytes 10 command.sealedCapsule ++
    putUint64 11 expiresAtMillis

def RevokeAgentProvisioningCommand.fields (command : RevokeAgentProvisioningCommand)
    (requestedAtMillis : Nat) : List Field :=
  putText 1 command.revocationId.toText ++ putText 2 command.installationId.toText ++
    putText 3 command.bindingId.toText ++ putText 4 (optionalText command.agentDeviceId) ++
    putUint64 5 command.revocationRevision.value ++ putUint64 6 requestedAtMillis

def PrepareAgentRouteRecipient.fields (command : PrepareAgentRouteRecipient)
    (expiresAtMillis : Nat) : List Field :=
  putText 1 command.bootstrapId.toText ++ putText 2 command.tenantId.toText ++
    putText 3 command.installationId.toText ++ putText 4 command.bindingId.toText ++
    putText 5 command.agentControlDeviceId.toText ++ putText 6 command.ownerIdentityId.toText ++
    putText 7 command.ownerDeviceId.toText ++ putBytes 8 command.ownerSignedIntent ++
    putUint64 9 expiresAtMillis ++ putText 10 (optionalText command.serverReceiptKeyId) ++
    putBytes 11 (optionalBytes command.serverReceiptPublicKey)

def DeliverAgentRouteBootstrap.fields (command : DeliverAgentRouteBootstrap)
    (expiresAtMillis : Nat) : List Field :=
  putText 1 command.bootstrapId.toText ++ putText 2 command.deliveryId.toText ++
    putText 3 command.routeId.toText ++ putText 4 command.recipientId.toText ++
    putBytes 5 command.capsuleDigest.bytes.toList ++ putBytes 6 command.opaqueSealedBootstrap ++
    putUint64 7 expiresAtMillis ++ putText 8 command.installationId.toText ++
    putText 9 command.bindingId.toText ++ putText 10 command.agentControlDeviceId.toText ++
    putText 11 (optionalText command.routeHealthKeyId) ++
    putBytes 12 (optionalBytes (command.routeHealthPublicKeyDigest.map Sha256Digest.bytes)) ++
    putText 13 (optionalText command.serverReceiptKeyId) ++
    putBytes 14 (optionalBytes (command.serverReceiptPublicKeyDigest.map Sha256Digest.bytes))

/-! ## Encoder -/

/-- The number of the payload in the envelope, and its fields. -/
def encodePayload : ServerCommandPayload → Except CommandError (Nat × List Field)
  | .applyConfig command => return (10, command.fields)
  | .rotateCredential command => do
      let deadlineMillis ← okOr (toUnsigned? command.deadlineMillis) invalidCommandPayload
      return (11, command.fields deadlineMillis)
  | .closeStream command => return (12, command.fields)
  | .deliverAgentProvisioning command => do
      let expiresAtMillis ← okOr (toUnsigned? command.expiresAtMillis) invalidCommandPayload
      return (13, command.fields expiresAtMillis)
  | .revokeAgentProvisioning command => do
      let requestedAtMillis ← okOr (toUnsigned? command.requestedAtMillis) invalidCommandPayload
      return (14, command.fields requestedAtMillis)
  | .prepareAgentRouteRecipient command => do
      command.validate
      let expiresAtMillis ← okOr (toUnsigned? command.expiresAtMillis) invalidCommandPayload
      return (15, command.fields expiresAtMillis)
  | .deliverAgentRouteBootstrap command => do
      command.validate
      let expiresAtMillis ← okOr (toUnsigned? command.expiresAtMillis) invalidCommandPayload
      return (16, command.fields expiresAtMillis)

/-- The fields of the envelope. -/
def envelopeFields (sequence : Nat) (operationId : RequestId) (generation : Nat)
    (specRevision : Revision) (payloadDigest : Sha256Digest) (number : Nat)
    (exactPayload : List UInt8) : List Field :=
  putUint64 1 sequence ++ putText 2 operationId.toText ++ putUint64 3 generation ++
    putUint64 4 specRevision.value ++ putBytes 5 payloadDigest.bytes.toList ++
    putMessage number exactPayload

/-- The bytes of a command and the digest of its payload. -/
structure EncodedDurableCommand where
  payloadDigest : Sha256Digest
  exactBytes : ExactCommandBytes
  deriving DecidableEq

/-- `ProtobufDurableCommandEncoder::encode`. -/
def encodeDurableCommand [Sha256] (sequence : Nat) (operationId : RequestId) (generation : Nat)
    (specRevision : Revision) (payload : ServerCommandPayload) :
    Except CommandError EncodedDurableCommand := do
  let _ ← (Revision.new sequence).mapError fun _ => invalidSequence
  let _ ← (Revision.new generation).mapError fun _ => invalidGeneration
  let (number, fields) ← encodePayload payload
  let exactPayload := encodeFields fields
  let payloadDigest ← commandPayloadDigest exactPayload
  let exactBytes ← ExactCommandBytes.new (encodeFields (envelopeFields sequence operationId
    generation specRevision payloadDigest number exactPayload))
  return { payloadDigest, exactBytes }

/-- Whether a field number is one of the payloads. -/
def isPayloadField : Bool := 10 ≤ number ∧ number ≤ 16

/-- The number that the encoder gives to the field of a payload. -/
def payloadNumber : ServerCommandPayload → Nat
  | .applyConfig _ => 10
  | .rotateCredential _ => 11
  | .closeStream _ => 12
  | .deliverAgentProvisioning _ => 13
  | .revokeAgentProvisioning _ => 14
  | .prepareAgentRouteRecipient _ => 15
  | .deliverAgentRouteBootstrap _ => 16

theorem isPayloadField_payloadNumber (payload : ServerCommandPayload) :
    isPayloadField (payloadNumber payload) = true := by
  cases payload <;> rfl

variable {bytes : List UInt8}

theorem commandPayloadDigest_eq_ok [Sha256] {digest : Sha256Digest} :
    commandPayloadDigest bytes = .ok digest ↔
      (bytes ≠ [] ∧ bytes.length ≤ maxCommandBytes) ∧
        digest = domainDigest "dirextalk.connector-command-payload.v1" [bytes] := by
  simp only [commandPayloadDigest, bind_eq_ok, rejectIf_eq_ok, pure_eq_ok, exists_const, not_or,
    Nat.not_lt, ne_eq, gt_iff_lt]
  rw [eq_comm (a := digest)]

theorem ExactCommandBytes.new_eq_ok {exact : ExactCommandBytes} :
    ExactCommandBytes.new bytes = .ok exact ↔
      (bytes ≠ [] ∧ bytes.length ≤ maxCommandBytes) ∧ exact.bytes = bytes := by
  obtain ⟨held, bounded⟩ := exact
  unfold ExactCommandBytes.new
  split
  case isTrue accepted => simp [accepted, eq_comm]
  case isFalse refused => simp [refused]

/-! ## What the constructors check -/

/-- The payload is what its constructor returns, or passes `validate`. -/
def Built : ServerCommandPayload → Prop
  | .applyConfig command => ∃ adapterConfig runtimeConfig,
      ApplyConfigCommand.new command.configRevision command.desiredState adapterConfig
        runtimeConfig = .ok command
  | .rotateCredential command =>
      RotateCredentialCommand.new command.nonce command.successorRevision
        command.deadlineMillis = .ok command
  | .closeStream command =>
      CloseStreamCommand.new command.reason command.stableCode command.redactedDetail = .ok command
  | .deliverAgentProvisioning command =>
      DeliverAgentProvisioningCommand.new command = .ok command
  | .revokeAgentProvisioning command => RevokeAgentProvisioningCommand.new command = .ok command
  | .prepareAgentRouteRecipient command => command.validate = .ok ()
  | .deliverAgentRouteBootstrap command => command.validate = .ok ()

/-- A configuration or a rotation carries the revision after the current one. -/
def CarriesSuccessor (specRevision : Revision) : ServerCommandPayload → Prop
  | .applyConfig command => specRevision.checkedNext = .ok command.configRevision
  | .rotateCredential command => specRevision.checkedNext = .ok command.successorRevision
  | _ => True

theorem validateOpaque_eq_ok {expiresAtMillis : Int64} {done : Unit}
    (valid : validateOpaqueCommandPayload bytes expiresAtMillis = .ok done) :
    0 < expiresAtMillis.toInt ∧ bytes ≠ [] ∧ bytes.length ≤ maxAgentRouteCapsuleBytes := by
  simp only [validateOpaqueCommandPayload, rejectIf_eq_ok, not_or] at valid
  obtain ⟨positive, nonempty, short⟩ := valid
  rw [Int64.le_iff_toInt_le] at positive
  exact ⟨not_le.mp positive, nonempty, not_lt.mp short⟩

theorem valid_of_canonicalizeConfig {entries sorted : List ConfigEntry}
    (canonical : canonicalizeConfig entries = .ok sorted) :
    canonicalConfigIsValid sorted = true := by
  simp only [canonicalizeConfig, bind_eq_ok, rejectIf_eq_ok, pure_eq_ok, exists_const,
    Bool.not_eq_false] at canonical
  obtain ⟨-, valid, rfl⟩ := canonical
  exact valid

end Dirextalk.Control
