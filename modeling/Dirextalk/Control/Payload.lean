import Dirextalk.Connect.Types
import Dirextalk.Domain.PublicKey

/-!
# Server commands

The closed set of commands that the server sends to a connector, and the rules that a
payload satisfies at the specification revision it is appended under.
-/

namespace Dirextalk.Control

open Connect Domain Lib Wire

/-- Why a command or an operation on the log is refused. -/
inductive CommandError where
  | invalidGeneration
  | invalidSequence
  | invalidCommandBytes
  | invalidCommandPayloadBytes
  | invalidCommandPayload
  | invalidConfigEntry
  | invalidCloseStreamMetadata
  | staleFence
  | staleCursor
  | cursorGap
  | ackGap
  | unknownCommand
  | digestMismatch
  | idempotencyConflict
  | backlogFull
  | unacknowledgedCommands
  | invalidFenceTransition
  | missingRevokeCommand
  | revoked
  | counterExhausted
  | invalidSnapshot
  deriving DecidableEq, Repr

open CommandError

/-! ## Bounds -/

def maxCommandBytes : Nat := 196608

def maxCommandBacklog : Nat := 4096

def maxConfigEntriesPerScope : Nat := 64

def maxConfigKeyBytes : Nat := 64

def maxConfigValueBytes : Nat := 1024

def maxCloseStreamCodeBytes : Nat := 64

def maxCloseStreamDetailBytes : Nat := 512

def maxProvisioningCapsuleBytes : Nat := 196608

def maxAgentRouteCapsuleBytes : Nat := 196608

/-! ## Texts -/

variable (value : String)

def validLowerStableName (maximum : Nat) : Bool :=
  value ≠ "" ∧ value.utf8ByteSize ≤ maximum ∧
    value.toList.head?.any (fun character => character.isLower || character.isDigit) = true ∧
    value.toList.all (fun character => character.isLower || character.isDigit ||
      ['.', '_', '-', '/', ':'].contains character) = true

/-- Upper-case words, joined by underscores. -/
def validUpperSnakeCode (maximum : Nat) : Bool :=
  (3 ≤ value.utf8ByteSize ∧ value.utf8ByteSize ≤ maximum) ∧
    value.toList.head?.any Char.isUpper = true ∧
    (value.toList.splitOn '_').all (fun part => part ≠ [] ∧
      part.all (fun character => character.isUpper || character.isDigit) = true) = true

/-- A character of the C0 or C1 control ranges. -/
def containsC0C1Control : Bool :=
  value.toList.any fun character =>
    character.toNat ≤ 0x1f ∨ (0x7f ≤ character.toNat ∧ character.toNat ≤ 0x9f)

/-- `value.parse::<u32>().ok()`. -/
def parseUInt32? : Option Nat :=
  let digits := match value.toList with
    | '+' :: rest => rest
    | characters => characters
  if digits = [] ∨ digits.all Char.isDigit = false then none
  else
    let number := digits.foldl (fun number digit => 10 * number + (digit.toNat - '0'.toNat)) 0
    if number < 2 ^ 32 then some number else none

/-! ## Configuration -/

/-- A setting. -/
structure ConfigEntry where
  key : String
  value : String
  deriving DecidableEq

/-- The registered keys, each with the values it takes. -/
def registeredConfigEntryIsValid (key value : String) : Bool :=
  match key with
  | "adapter" =>
      ["codex-app-server", "openclaw-acp", "eino", "rig", "claude-code", "vendor-v1",
        "hermes-acp"].contains value
  | "endpoint" | "endpoint-profile" => ["local", "private", "public"].contains value
  | "log-level" => ["trace", "debug", "info", "warn", "error"].contains value
  | "max-concurrent-runs" =>
      (parseUInt32? value).any fun maximum => 1 ≤ maximum ∧ maximum ≤ 4096
  | "model" => value = "agent-v1"
  | "offline-policy" => ["queue", "reject"].contains value
  | "policy-id" => value = "policy-v1"
  | "profile" => ["safe", "default"].contains value
  | "shutdown" => ["graceful", "immediate"].contains value
  | "workspace-mode" => ["read-only", "workspace-write"].contains value
  | _ => false

/-- The entries of one scope, with strictly increasing keys. -/
def canonicalConfigIsValid (entries : List ConfigEntry) : Bool :=
  entries.length ≤ maxConfigEntriesPerScope ∧
    entries.all (fun entry => validLowerStableName entry.key maxConfigKeyBytes ∧
      entry.value.utf8ByteSize ≤ maxConfigValueBytes ∧
      containsC0C1Control entry.value = false ∧
      registeredConfigEntryIsValid entry.key entry.value) = true ∧
    entries.IsChain fun left right => left.key < right.key

/-! ## Payloads -/

/-- The configuration of a connector is replaced. -/
structure ApplyConfigCommand where
  configRevision : Revision
  desiredState : ConnectorDesiredState
  adapterConfig : List ConfigEntry
  runtimeConfig : List ConfigEntry
  deriving DecidableEq

/-- The connector is to renew its credential. -/
structure RotateCredentialCommand where
  nonce : FixedBytes 32
  successorRevision : Revision
  deadlineMillis : Int64
  deriving DecidableEq

/-- Why a stream is closed. -/
inductive CloseStreamReason where
  | reconnect
  | drained
  | revoked
  | protocolUpgrade
  deriving DecidableEq, Repr

/-- The control stream is closed. -/
structure CloseStreamCommand where
  reason : CloseStreamReason
  stableCode : String
  redactedDetail : String
  deriving DecidableEq

/-- A sealed capsule for a device of an agent. -/
structure DeliverAgentProvisioningCommand where
  deliveryId : ProvisioningDeliveryId
  approvalId : ApprovalId
  bindingId : BindingId
  installationId : InstallationId
  agentDeviceId : AgentDeviceId
  provisioningRevision : Revision
  recipientKeyId : ProvisioningRecipientKeyId
  recipientDescriptorDigest : Sha256Digest
  capsuleDigest : Sha256Digest
  sealedCapsule : List UInt8
  expiresAtMillis : Int64
  deriving DecidableEq

/-- The end of a provisioning. -/
structure RevokeAgentProvisioningCommand where
  revocationId : RequestId
  installationId : InstallationId
  bindingId : BindingId
  agentDeviceId : Option AgentDeviceId
  revocationRevision : Revision
  requestedAtMillis : Int64
  deriving DecidableEq

/-- The connector is to name a recipient for a route. -/
structure PrepareAgentRouteRecipient where
  bootstrapId : AgentRouteBootstrapId
  tenantId : TenantId
  installationId : InstallationId
  bindingId : BindingId
  agentControlDeviceId : AgentDeviceId
  ownerIdentityId : IdentityId
  ownerDeviceId : DeviceId
  ownerSignedIntent : List UInt8
  expiresAtMillis : Int64
  serverReceiptKeyId : Option RouteHealthKeyId
  serverReceiptPublicKey : Option (FixedBytes 32)
  deriving DecidableEq

/-- The sealed bootstrap of a route. -/
structure DeliverAgentRouteBootstrap where
  bootstrapId : AgentRouteBootstrapId
  deliveryId : AgentRouteDeliveryId
  routeId : ConversationId
  recipientId : AgentRouteRecipientId
  capsuleDigest : Sha256Digest
  opaqueSealedBootstrap : List UInt8
  expiresAtMillis : Int64
  installationId : InstallationId
  bindingId : BindingId
  agentControlDeviceId : AgentDeviceId
  routeHealthKeyId : Option RouteHealthKeyId
  routeHealthPublicKeyDigest : Option Sha256Digest
  serverReceiptKeyId : Option RouteHealthKeyId
  serverReceiptPublicKeyDigest : Option Sha256Digest
  deriving DecidableEq

/-- What a command asks of its connector. -/
inductive ServerCommandPayload where
  | applyConfig (command : ApplyConfigCommand)
  | rotateCredential (command : RotateCredentialCommand)
  | closeStream (command : CloseStreamCommand)
  | deliverAgentProvisioning (command : DeliverAgentProvisioningCommand)
  | revokeAgentProvisioning (command : RevokeAgentProvisioningCommand)
  | prepareAgentRouteRecipient (command : PrepareAgentRouteRecipient)
  | deliverAgentRouteBootstrap (command : DeliverAgentRouteBootstrap)
  deriving DecidableEq

/-- Opaque bytes are not empty, fit their limit and have a deadline. -/
def validateOpaqueCommandPayload (opaqueBytes : List UInt8) (expiresAtMillis : Int64) :
    Except CommandError Unit :=
  rejectIf (expiresAtMillis ≤ 0 ∨ opaqueBytes = [] ∨
    opaqueBytes.length > maxAgentRouteCapsuleBytes) invalidCommandPayload

/-- A receipt key comes with its id. -/
def PrepareAgentRouteRecipient.validate (command : PrepareAgentRouteRecipient) :
    Except CommandError Unit := do
  validateOpaqueCommandPayload command.ownerSignedIntent command.expiresAtMillis
  rejectIf (command.serverReceiptKeyId.isSome ≠ command.serverReceiptPublicKey.isSome)
    invalidCommandPayload

/-- A key digest comes with the id of its key. -/
def DeliverAgentRouteBootstrap.validate (command : DeliverAgentRouteBootstrap) :
    Except CommandError Unit := do
  validateOpaqueCommandPayload command.opaqueSealedBootstrap command.expiresAtMillis
  rejectIf (command.routeHealthKeyId.isSome ≠ command.routeHealthPublicKeyDigest.isSome)
    invalidCommandPayload
  rejectIf (command.serverReceiptKeyId.isSome ≠ command.serverReceiptPublicKeyDigest.isSome)
    invalidCommandPayload

/-- The checks of a payload at the revision of its command. -/
def validatePayload (payload : ServerCommandPayload) (specRevision : Revision) :
    Except CommandError Unit :=
  match payload with
  | .applyConfig command =>
      rejectIf (specRevision.checkedNext.toOption ≠ some command.configRevision ∨
        command.desiredState = .revoked ∨
        canonicalConfigIsValid command.adapterConfig = false ∨
        canonicalConfigIsValid command.runtimeConfig = false) invalidCommandPayload
  | .rotateCredential command =>
      rejectIf (specRevision.checkedNext.toOption ≠ some command.successorRevision ∨
        command.deadlineMillis ≤ 0) invalidCommandPayload
  | .closeStream command =>
      rejectIf (validUpperSnakeCode command.stableCode maxCloseStreamCodeBytes = false ∨
        command.redactedDetail.utf8ByteSize > maxCloseStreamDetailBytes ∨
        containsC0C1Control command.redactedDetail = true) invalidCommandPayload
  | .deliverAgentProvisioning command =>
      rejectIf (command.sealedCapsule = [] ∨
        command.sealedCapsule.length > maxProvisioningCapsuleBytes ∨
        command.expiresAtMillis ≤ 0) invalidCommandPayload
  | .revokeAgentProvisioning command =>
      rejectIf (command.requestedAtMillis ≤ 0) invalidCommandPayload
  | .prepareAgentRouteRecipient command => command.validate
  | .deliverAgentRouteBootstrap command => command.validate

namespace ServerCommandPayload

/-- The close that ends the stream for good. -/
def isTerminalRevoke : ServerCommandPayload → Bool
  | .closeStream command => command.reason = .revoked
  | _ => false

/-- A command after which nothing but a terminal revoke may be pending. -/
def isFenceBarrier (payload : ServerCommandPayload) : Bool :=
  match payload with
  | .applyConfig _ | .rotateCredential _ => true
  | _ => payload.isTerminalRevoke

end ServerCommandPayload

/-! ## Exact bytes -/

/-- The non-empty encoding of a command within the frame bound. -/
structure ExactCommandBytes where
  bytes : List UInt8
  bounded : bytes ≠ [] ∧ bytes.length ≤ maxCommandBytes
  deriving DecidableEq

/-- `domain_digest`: every part is preceded by its length. -/
def domainDigest [Sha256] (domain : String) (parts : List (List UInt8)) : Sha256Digest :=
  ⟨Sha256.digest ((domain.toUTF8.toList :: parts).flatMap fun part =>
    toBeBytes 8 part.length ++ part)⟩

/-- The digest that an acknowledgement names. -/
def ExactCommandBytes.encodedCommandDigest [Sha256] (exactBytes : ExactCommandBytes) :
    Sha256Digest :=
  domainDigest "dirextalk.connector-encoded-command.v1" [exactBytes.bytes]

end Dirextalk.Control
