import Dirextalk.Control.Payload
import Dirextalk.Lib.Rows

/-!
# Bootstraps of agent routes

An owner begins a bootstrap, the connector reports a recipient for it, the owner delivers
the sealed bootstrap to that recipient, and the connector reports that it was installed or
rejected.  A report is recorded in one transaction together with the state of its command
in the outbox, and a report that finds its own outcome there is a replay.
-/

namespace Dirextalk.Route

open Control Domain Lib Wire

/-! ## Rows -/

/-- The column `state` of a bootstrap. -/
inductive BootstrapState where
  | pendingRecipient
  | recipientReady
  | pendingDelivery
  | installed
  | rejected
  | expired
  | revoked
  deriving DecidableEq, Repr

/-- A target has at most one bootstrap in these states. -/
def BootstrapState.live : BootstrapState → Bool
  | .pendingRecipient | .recipientReady | .pendingDelivery | .installed => true
  | .rejected | .expired | .revoked => false

/-- How far a command of the bootstrap has come. -/
inductive OutboxState where
  | pending
  | dispatched
  | acknowledged
  | rejected
  | cancelled
  deriving DecidableEq, Repr

/-- The command still waits for its result. -/
def OutboxState.unresolved : OutboxState → Bool
  | .pending | .dispatched => true
  | .acknowledged | .rejected | .cancelled => false

/-- The installed agent that a route leads to. -/
structure Agent where
  installationId : InstallationId
  bindingId : BindingId
  agentControlDeviceId : AgentDeviceId
  deriving DecidableEq

/-- The device of one owner, and the agent that it is to reach. -/
structure Target where
  tenantId : TenantId
  ownerIdentityId : IdentityId
  ownerDeviceId : DeviceId
  agent : Agent
  deriving DecidableEq

/-- The columns that are written when a bootstrap begins.  The digest of the receipt key is
stored too, and is a function of the key. -/
structure Begun where
  bootstrapId : AgentRouteBootstrapId
  target : Target
  connectorId : ConnectorId
  ownerSignedIntent : List UInt8
  requestDigest : Sha256Digest
  expiresAtMillis : Int64
  serverReceiptKeyId : Option RouteHealthKeyId
  serverReceiptPublicKey : Option (FixedBytes 32)
  deriving DecidableEq

/-- A command in the outbox, with the payload that the command log keeps under its sequence. -/
structure LoggedCommand (α : Type) where
  operationId : RequestId
  sequence : Nat
  payloadDigest : Sha256Digest
  encodedDigest : Sha256Digest
  payload : α
  deriving DecidableEq

/-- The columns of a recipient; they are set and cleared together. -/
structure Recipient where
  recipientId : AgentRouteRecipientId
  capsuleDigest : Sha256Digest
  opaqueCapsule : List UInt8
  deriving DecidableEq

/-- The names of a delivery. -/
structure Delivery where
  deliveryId : AgentRouteDeliveryId
  routeId : ConversationId
  requestDigest : Sha256Digest
  deriving DecidableEq

/-- What the server passes on and cannot read. -/
structure SealedBootstrap where
  capsuleDigest : Sha256Digest
  opaqueBytes : List UInt8
  deriving DecidableEq

/-- The row of the outbox that delivers a bootstrap. -/
structure DeliveryOutbox where
  command : LoggedCommand DeliverAgentRouteBootstrap
  state : OutboxState
  resultDigest : Option Sha256Digest
  rejectionCode : Option String
  deriving DecidableEq

/-- A bootstrap with its rows in the outbox.  The purpose of a health key is a constant. -/
structure Bootstrap where
  begun : Begun
  state : BootstrapState
  prepare : LoggedCommand PrepareAgentRouteRecipient
  prepareState : OutboxState
  prepareResult : Option Sha256Digest
  recipient : Option Recipient
  routeHealthKeyId : Option RouteHealthKeyId
  routeHealthPublicKey : Option (FixedBytes 32)
  delivery : Option Delivery
  sealedBootstrap : Option SealedBootstrap
  outbox : Option DeliveryOutbox
  routeFence : Option (FixedBytes 32)
  rejectionCode : Option String
  deriving DecidableEq

/-- The route over which a target's runs arrive. -/
structure BindingHead where
  target : Target
  bootstrapId : AgentRouteBootstrapId
  routeId : ConversationId
  routeFence : FixedBytes 32
  capsuleDigest : Sha256Digest
  expiresAtMillis : Int64
  deriving DecidableEq

/-- The primary key of the bootstraps. -/
abbrev BootstrapKey := TenantId × AgentRouteBootstrapId

/-- The tenant and the id of the bootstrap. -/
def Bootstrap.key (row : Bootstrap) : BootstrapKey :=
  (row.begun.target.tenantId, row.begun.bootstrapId)

/-- The bootstraps and the routes of their targets. -/
structure RouteStore where
  bootstraps : List Bootstrap
  heads : List BindingHead
  deriving DecidableEq

namespace RouteStore

variable (store : RouteStore)

/-- The bootstrap under a key. -/
def bootstrap (key : BootstrapKey) : Option Bootstrap :=
  rowAt Bootstrap.key store.bootstraps key

/-- The route of a target. -/
def head (target : Target) : Option BindingHead :=
  rowAt BindingHead.target store.heads target

/-- Replaces the row under its key. -/
def write (row : Bootstrap) : RouteStore :=
  { store with bootstraps := updateWhere (·.key = row.key) (fun _ => row) store.bootstraps }

/-- `expire_bootstrap_if_due` and `expire_live_tuple`. -/
def expire (due : Bootstrap → Bool) (now : Int64) : RouteStore :=
  { store with
    bootstraps := updateWhere
      (fun row => due row ∧ row.state.live = true ∧ row.begun.expiresAtMillis ≤ now)
      (fun row => { row with state := .expired }) store.bootstraps }

end RouteStore

/-! ## Commands -/

/-- The digest under which a key is named. -/
def publicKeyDigest [Sha256] (key : FixedBytes 32) : Sha256Digest :=
  .hashDomain (textBytes "dirextalk.agent-route-health-public-key.v1\x00") key.toList

/-- The command has the target of the bootstrap, the owner's intent and the receipt key. -/
def Begun.prepareCommand (begun : Begun) : PrepareAgentRouteRecipient :=
  { begun, begun.target, begun.target.agent with }

/-- The command that carries the sealed bootstrap to the connector. -/
def Bootstrap.deliverCommand [Sha256] (row : Bootstrap) (recipientId : AgentRouteRecipientId)
    (delivery : Delivery) (content : SealedBootstrap) (expiresAtMillis : Int64) :
    DeliverAgentRouteBootstrap where
  bootstrapId := row.begun.bootstrapId
  deliveryId := delivery.deliveryId
  routeId := delivery.routeId
  recipientId := recipientId
  capsuleDigest := content.capsuleDigest
  opaqueSealedBootstrap := content.opaqueBytes
  expiresAtMillis := expiresAtMillis
  installationId := row.begun.target.agent.installationId
  bindingId := row.begun.target.agent.bindingId
  agentControlDeviceId := row.begun.target.agent.agentControlDeviceId
  routeHealthKeyId := row.routeHealthKeyId
  routeHealthPublicKeyDigest := row.routeHealthPublicKey.map publicKeyDigest
  serverReceiptKeyId := row.begun.serverReceiptKeyId
  serverReceiptPublicKeyDigest := row.begun.serverReceiptPublicKey.map publicKeyDigest

/-- `RequestId::try_from(Uuid::from(id))`. -/
def operationIdOf {kind : UuidKind} (id : UuidV7 kind) : RequestId :=
  ⟨id.bytes, id.version_eq, id.variant_eq⟩

/-! ## Requests of the owner -/

/-- Why a call of the owner fails. -/
inductive AgentRouteBootstrapError where
  | forbidden
  | notFound
  | conflict
  | unavailable
  deriving DecidableEq, Repr

/-- What a request finds outside the bootstrap tables: whether the session and the signature
are the owner's, the connector of the target if the target is live, the receipt key pinned
for it, the entry that the command log makes, and whether the transaction commits. -/
structure OwnerCall where
  authorized : Bool
  now : Int64
  connectorId : Option ConnectorId
  serverReceiptKeyId : Option RouteHealthKeyId
  serverReceiptPublicKey : Option (FixedBytes 32)
  sequence : Nat
  payloadDigest : Sha256Digest
  encodedDigest : Sha256Digest
  commits : Bool

namespace OwnerCall

/-- A transaction that fails to commit changes nothing. -/
def commit (call : OwnerCall) (store : RouteStore) : Except AgentRouteBootstrapError RouteStore :=
  if call.commits then .ok store else .error .unavailable

/-- The entry of the command log; the id is its operation. -/
def log {α : Type} {kind : UuidKind} (call : OwnerCall) (id : UuidV7 kind) (payload : α) :
    LoggedCommand α :=
  ⟨operationIdOf id, call.sequence, call.payloadDigest, call.encodedDigest, payload⟩

end OwnerCall

/-- The owner begins a bootstrap. -/
structure BeginCommand where
  bootstrapId : AgentRouteBootstrapId
  target : Target
  ownerSignedIntent : List UInt8
  expiresAtMillis : Int64
  requestDigest : Sha256Digest

/-- The row of a bootstrap that waits for its recipient. -/
def BeginCommand.row (command : BeginCommand) (call : OwnerCall) (connectorId : ConnectorId) :
    Bootstrap :=
  let begun : Begun := ⟨command.bootstrapId, command.target, connectorId,
    command.ownerSignedIntent, command.requestDigest, command.expiresAtMillis,
    call.serverReceiptKeyId, call.serverReceiptPublicKey⟩
  { begun := begun
    state := .pendingRecipient
    prepare := call.log command.bootstrapId begun.prepareCommand
    prepareState := .pending
    prepareResult := none
    recipient := none
    routeHealthKeyId := none
    routeHealthPublicKey := none
    delivery := none
    sealedBootstrap := none
    outbox := none
    routeFence := none
    rejectionCode := none }

/-- Begins the only live bootstrap of the target, or repeats the request. -/
def beginInTransaction (command : BeginCommand) (call : OwnerCall) (store : RouteStore) :
    Except AgentRouteBootstrapError RouteStore := do
  rejectIf (call.authorized = false) .forbidden
  match store.bootstrap (command.target.tenantId, command.bootstrapId) with
  | some row =>
      rejectIf (row.begun.requestDigest ≠ command.requestDigest) .conflict
      call.commit store
  | none =>
      let connectorId ← okOr call.connectorId .conflict
      let expired := store.expire (·.begun.target = command.target) call.now
      rejectIf (∃ row ∈ expired.bootstraps,
        row.begun.target = command.target ∧ row.state.live = true) .conflict
      call.commit { expired with
        bootstraps := expired.bootstraps ++ [command.row call connectorId] }

/-- Reading a bootstrap expires it. -/
def getAgentRouteBootstrap (key : BootstrapKey) (call : OwnerCall) (store : RouteStore) :
    Except AgentRouteBootstrapError RouteStore := do
  rejectIf (call.authorized = false) .forbidden
  let expired := store.expire (·.key = key) call.now
  let _ ← okOr (expired.bootstrap key) .notFound
  call.commit expired

/-- The owner delivers the sealed bootstrap. -/
structure DeliveryCommand where
  bootstrapId : AgentRouteBootstrapId
  target : Target
  recipientId : AgentRouteRecipientId
  delivery : Delivery
  content : SealedBootstrap
  expiresAtMillis : Int64
  serverReceiptKeyId : Option RouteHealthKeyId
  serverReceiptPublicKeyDigest : Option Sha256Digest

/-- The row after its target was found gone; no command has been appended for it. -/
def Bootstrap.revokedDelivery (row : Bootstrap) (delivery : Delivery) : Bootstrap :=
  { row with
    state := .revoked, routeFence := none, recipient := none, delivery := some delivery,
    sealedBootstrap := none, rejectionCode := none }

section Transactions

variable [Sha256]

/-- The row after its delivery has been handed to the connector. -/
def Bootstrap.delivered (row : Bootstrap) (command : DeliveryCommand) (call : OwnerCall) :
    Bootstrap :=
  { row with
    state := .pendingDelivery, delivery := some command.delivery,
    sealedBootstrap := some command.content,
    outbox := some ⟨call.log command.delivery.deliveryId (row.deliverCommand command.recipientId
      command.delivery command.content command.expiresAtMillis), .pending, none, none⟩ }

/-- Hands the sealed bootstrap to the connector, or repeats the request. -/
def deliverInTransaction (command : DeliveryCommand) (call : OwnerCall) (store : RouteStore) :
    Except AgentRouteBootstrapError RouteStore := do
  rejectIf (call.authorized = false) .forbidden
  let key := (command.target.tenantId, command.bootstrapId)
  let expired := store.expire (·.key = key) call.now
  let row ← okOr (expired.bootstrap key) .notFound
  rejectIf (row.begun.target ≠ command.target) .forbidden
  rejectIf (row.begun.serverReceiptKeyId ≠ command.serverReceiptKeyId ∨
    row.begun.serverReceiptPublicKey.map publicKeyDigest ≠ command.serverReceiptPublicKeyDigest)
    .conflict
  match row.delivery with
  | some delivery =>
      rejectIf (delivery.deliveryId ≠ command.delivery.deliveryId ∨
        delivery.requestDigest ≠ command.delivery.requestDigest) .conflict
      call.commit expired
  | none =>
      rejectIf (row.state ≠ .recipientReady ∨
        row.recipient.map (·.recipientId) ≠ some command.recipientId ∨
        row.begun.expiresAtMillis ≤ call.now ∨
        row.begun.expiresAtMillis < command.expiresAtMillis) .conflict
      call.commit (expired.write
        (if call.connectorId = some row.begun.connectorId then row.delivered command call
        else row.revokedDelivery command.delivery))

/-! ## Reports of the connector -/

/-- `ConnectorControlApplicationError`. -/
inductive ControlError where
  | invalidRequest
  | notFound
  | conflict
  | staleFence
  | unavailable
  | internal
  deriving DecidableEq, Repr

open ControlError

/-- What a report finds outside the bootstrap tables: whether its fence is valid, whether its
target is live, whether the command log takes the acknowledgement of its command, and whether
the transaction commits. -/
structure ConnectorCall where
  fenceValid : Bool
  now : Int64
  targetLive : Bool
  acknowledges : Bool
  commits : Bool

/-- A report that fails to commit changes nothing. -/
def ConnectorCall.commit (call : ConnectorCall) (store : RouteStore) :
    Except ControlError RouteStore :=
  if call.commits then .ok store else .error unavailable

/-- Hash over parts, each under its length. -/
def provisioningCommit (domain : String) (parts : List (List UInt8)) : Sha256Digest :=
  ⟨Sha256.digest ((textBytes domain :: parts).flatMap fun part =>
    toBeBytes 8 part.length ++ part)⟩

/-- Times before the epoch are refused. -/
def millisBytes (millis : Int64) : Except ControlError (List UInt8) := do
  rejectIf (millis < 0) invalidRequest
  return toBeBytes 8 millis.toNatClampNeg

/-- What a report repeats of the command that it answers. -/
structure CommandEcho where
  sequence : Nat
  payloadDigest : Sha256Digest
  encodedDigest : Sha256Digest
  deriving DecidableEq

/-- What a report has to repeat. -/
def LoggedCommand.echo {α : Type} (command : LoggedCommand α) : CommandEcho :=
  ⟨command.sequence, command.payloadDigest, command.encodedDigest⟩

/-- The ids of the agent, as hashed parts. -/
def Agent.parts (agent : Agent) : List (List UInt8) :=
  [agent.installationId.bytes.toList, agent.bindingId.bytes.toList,
    agent.agentControlDeviceId.bytes.toList]

/-- The connector reports its recipient. -/
structure RecipientReady where
  tenantId : TenantId
  connectorId : ConnectorId
  bootstrapId : AgentRouteBootstrapId
  echo : CommandEcho
  agent : Agent
  recipient : Recipient
  expiresAtMillis : Int64
  resultDigest : Sha256Digest
  routeHealthKeyId : Option RouteHealthKeyId
  routeHealthPublicKey : Option (FixedBytes 32)
  serverReceiptKeyId : Option RouteHealthKeyId
  serverReceiptPublicKey : Option (FixedBytes 32)
  deriving DecidableEq

namespace RecipientReady

variable (ready : RecipientReady)

/-- The report is about this bootstrap, its command and its result. -/
def checkCommand (begun : Begun)
    (prepare : LoggedCommand PrepareAgentRouteRecipient) : Except ControlError Unit := do
  rejectIf (ready.agent ≠ begun.target.agent ∨ ready.expiresAtMillis ≠ begun.expiresAtMillis ∨
    ready.echo ≠ prepare.echo ∨ prepare.operationId.bytes ≠ ready.bootstrapId.bytes) conflict
  rejectIf (.hashDomain (textBytes "dirextalk.agent-route-recipient-capsule.v1\x00")
    ready.recipient.opaqueCapsule ≠ ready.recipient.capsuleDigest) conflict
  rejectIf (prepare.payload ≠ begun.prepareCommand) conflict
  let expiry ← millisBytes begun.expiresAtMillis
  let expected := provisioningCommit "dirextalk.agent-route-recipient-ready.v1"
    ([ready.bootstrapId.bytes.toList, ready.tenantId.bytes.toList] ++ begun.target.agent.parts ++
      [ready.recipient.recipientId.bytes.toList, toBeBytes 8 prepare.sequence,
        ready.recipient.capsuleDigest.bytes.toList, expiry])
  rejectIf (expected ≠ ready.resultDigest) conflict

/-- The row has the health key of the report. -/
def healthKeyMatches (row : Bootstrap) : Bool :=
  ready.routeHealthKeyId.isSome = ready.routeHealthPublicKey.isSome ∧
    row.routeHealthKeyId = ready.routeHealthKeyId ∧
    row.routeHealthPublicKey = ready.routeHealthPublicKey

/-- Only a fresh pending row may establish its health key. -/
def freshPending (row : Bootstrap) : Bool :=
  row.state = .pendingRecipient ∧ row.routeHealthKeyId = none ∧ row.routeHealthPublicKey = none

/-- The pinned receipt key, which must not be the health key. -/
def checkReceiptKey (begun : Begun) : Except ControlError Unit := do
  rejectIf (ready.serverReceiptKeyId ≠ begun.serverReceiptKeyId ∨
    ready.serverReceiptPublicKey ≠ begun.serverReceiptPublicKey) conflict
  rejectIf (ready.serverReceiptPublicKey ≠ none ∧
    ready.serverReceiptPublicKey = ready.routeHealthPublicKey) conflict

/-- The checks before a report is recorded or repeated. -/
def check (row : Bootstrap) : Except ControlError Unit := do
  ready.checkCommand row.begun row.prepare
  rejectIf (ready.healthKeyMatches row = false ∧ freshPending row = false) conflict
  ready.checkReceiptKey row.begun

/-- The row after the report has been recorded.  The receipt key is written as it is stored. -/
def recorded (row : Bootstrap) : Bootstrap :=
  { row with
    state := .recipientReady, recipient := some ready.recipient,
    routeHealthKeyId := ready.routeHealthKeyId,
    routeHealthPublicKey := ready.routeHealthPublicKey,
    prepareState := .acknowledged, prepareResult := some ready.resultDigest }

end RecipientReady

/-- The row after a report for a target that is gone. -/
def Bootstrap.cancelled (row : Bootstrap) : Bootstrap :=
  { row with
    state := .revoked, routeFence := none, recipient := none, rejectionCode := none,
    prepareState := .cancelled, prepareResult := none }

/-- Records the recipient; a repeated report finds its own outcome. -/
def recordRecipientReady (ready : RecipientReady) (call : ConnectorCall) (store : RouteStore) :
    Except ControlError RouteStore := do
  rejectIf (call.fenceValid = false) staleFence
  let row ← okOr ((store.bootstrap (ready.tenantId, ready.bootstrapId)).filter
    (·.begun.connectorId = ready.connectorId)) notFound
  ready.check row
  if row.state = .recipientReady ∧ row.prepareState = .acknowledged then
    rejectIf (row.recipient ≠ some ready.recipient ∨ row.prepareResult ≠ some ready.resultDigest ∨
      row.routeHealthKeyId ≠ ready.routeHealthKeyId ∨
      row.routeHealthPublicKey ≠ ready.routeHealthPublicKey) conflict
    call.commit store
  else if row.state = .revoked ∧ row.prepareState = .cancelled then
    call.commit store
  else
    rejectIf (row.begun.expiresAtMillis ≤ call.now) conflict
    rejectIf (row.state ≠ .pendingRecipient ∨ row.prepareState.unresolved = false) conflict
    rejectIf (call.acknowledges = false) conflict
    if call.targetLive then
      -- `agent_route_bootstraps_health_key_shape`
      rejectIf (ready.routeHealthKeyId.isSome ≠ ready.routeHealthPublicKey.isSome) unavailable
      call.commit (store.write (ready.recorded row))
    else
      call.commit (store.write row.cancelled)

/-- What became of a delivery. -/
inductive TerminalOutcome where
  | installed (routeFence : FixedBytes 32)
  | rejected (stableErrorCode : String)
  deriving DecidableEq

/-- `RouteBootstrapTerminalResolution`: the fields that the two reports share, and the outcome. -/
structure TerminalResolution where
  tenantId : TenantId
  connectorId : ConnectorId
  bootstrapId : AgentRouteBootstrapId
  deliveryId : AgentRouteDeliveryId
  routeId : ConversationId
  echo : CommandEcho
  agent : Agent
  recipientId : AgentRouteRecipientId
  capsuleDigest : Sha256Digest
  resultTimestamp : Int64
  resultDigest : Sha256Digest
  routeHealthKeyId : Option RouteHealthKeyId
  routeHealthPublicKeyDigest : Option Sha256Digest
  serverReceiptKeyId : Option RouteHealthKeyId
  serverReceiptPublicKeyDigest : Option Sha256Digest
  outcome : TerminalOutcome
  deriving DecidableEq

namespace TerminalOutcome

/-- The fence of an installed route. -/
def routeFence : TerminalOutcome → Option (FixedBytes 32)
  | installed routeFence => some routeFence
  | rejected _ => none

/-- The code of a rejection. -/
def rejectionCode : TerminalOutcome → Option String
  | installed _ => none
  | rejected stableErrorCode => some stableErrorCode

/-- The state that the outcome leads to. -/
def bootstrapState : TerminalOutcome → BootstrapState
  | installed _ => .installed
  | rejected _ => .rejected

/-- The state of the delivery after the outcome. -/
def outboxState : TerminalOutcome → OutboxState
  | installed _ => .acknowledged
  | rejected _ => .rejected

end TerminalOutcome

/-- The codes that a connector may report. -/
def validRouteBootstrapRejection (code : String) : Bool :=
  code ∈ ["INVALID_CAPSULE", "EXPIRED", "CONFLICT", "LOCAL_UNAVAILABLE"]

namespace TerminalResolution

variable (resolution : TerminalResolution)

/-- The digest is over the report and its outcome. -/
def validateResultDigest : Except ControlError Unit := do
  let timestamp ← millisBytes resolution.resultTimestamp
  let parts (outcome : List UInt8) :=
    [resolution.bootstrapId.bytes.toList, resolution.deliveryId.bytes.toList,
      resolution.routeId.bytes.toList] ++ resolution.agent.parts ++
    [resolution.recipientId.bytes.toList, toBeBytes 8 resolution.echo.sequence,
      resolution.capsuleDigest.bytes.toList, outcome, timestamp]
  match resolution.outcome with
  | .installed routeFence =>
      rejectIf (provisioningCommit "dirextalk.agent-route-bootstrap-installed.v1"
        (parts routeFence.toList) ≠ resolution.resultDigest) conflict
  | .rejected code =>
      rejectIf (validRouteBootstrapRejection code = false) invalidRequest
      rejectIf (provisioningCommit "dirextalk.agent-route-bootstrap-rejected.v1"
        (parts (textBytes code)) ≠ resolution.resultDigest) conflict

/-- The report is about this bootstrap, its delivery and its result. -/
def check (row : Bootstrap)
    (command : LoggedCommand DeliverAgentRouteBootstrap) : Except ControlError Unit := do
  let recipient ← okOr row.recipient internal
  let delivery ← okOr row.delivery internal
  let content ← okOr row.sealedBootstrap internal
  rejectIf (resolution.agent ≠ row.begun.target.agent ∨
    resolution.recipientId ≠ recipient.recipientId ∨ resolution.routeId ≠ delivery.routeId ∨
    resolution.capsuleDigest ≠ content.capsuleDigest ∨ resolution.echo ≠ command.echo ∨
    command.operationId.bytes ≠ resolution.deliveryId.bytes) conflict
  rejectIf (command.payload ≠ row.deliverCommand recipient.recipientId delivery content
    row.begun.expiresAtMillis) conflict
  rejectIf (resolution.routeHealthKeyId ≠ row.routeHealthKeyId ∨
    resolution.routeHealthPublicKeyDigest ≠ row.routeHealthPublicKey.map publicKeyDigest ∨
    resolution.serverReceiptKeyId ≠ row.begun.serverReceiptKeyId ∨
    resolution.serverReceiptPublicKeyDigest ≠
      row.begun.serverReceiptPublicKey.map publicKeyDigest) conflict
  resolution.validateResultDigest

/-- The delivery after its outcome. -/
def resolvedOutbox (outbox : DeliveryOutbox) : DeliveryOutbox :=
  { outbox with
    state := resolution.outcome.outboxState, resultDigest := some resolution.resultDigest,
    rejectionCode := resolution.outcome.rejectionCode }

/-- The row after the outcome has been recorded. -/
def recorded (row : Bootstrap) (outbox : DeliveryOutbox) : Bootstrap :=
  let row := { row with
    state := resolution.outcome.bootstrapState
    outbox := some (resolution.resolvedOutbox outbox) }
  match resolution.outcome with
  | .installed routeFence => { row with routeFence := some routeFence }
  | .rejected code => { row with rejectionCode := some code }

/-- The route that the report installs. -/
def binding (begun : Begun) (routeFence : FixedBytes 32) : BindingHead :=
  ⟨begun.target, begun.bootstrapId, resolution.routeId, routeFence, resolution.capsuleDigest,
    begun.expiresAtMillis⟩

end TerminalResolution

/-- The row after an outcome for a target that is gone. -/
def Bootstrap.undelivered (row : Bootstrap) (outbox : DeliveryOutbox) : Bootstrap :=
  { row with
    state := .revoked, routeFence := none, rejectionCode := none,
    outbox := some ⟨outbox.command, .cancelled, none, none⟩ }

/-- `INSERT INTO agent_route_binding_heads … ON CONFLICT DO UPDATE … WHERE …`. -/
def RouteStore.bind (store : RouteStore) (head : BindingHead) (now : Int64) :
    Except ControlError RouteStore :=
  match store.head head.target with
  | none => .ok { store with heads := store.heads ++ [head] }
  | some present =>
      if present.bootstrapId = head.bootstrapId ∨ present.expiresAtMillis ≤ now then
        .ok { store with heads := updateWhere (·.target = head.target) (fun _ => head) store.heads }
      else .error conflict

/-- Whether the runs of the target arrive over the route that the report has installed. -/
def RouteStore.boundTo (store : RouteStore) (target : Target) (resolution : TerminalResolution) :
    Bool :=
  match resolution.outcome with
  | .rejected _ => true
  | .installed routeFence => (store.head target).any fun head =>
      head.routeId = resolution.routeId ∧ head.routeFence = routeFence ∧
        head.capsuleDigest = resolution.capsuleDigest

/-- Records the outcome; an installed bootstrap becomes the route of its target. -/
def resolveTerminal (resolution : TerminalResolution) (call : ConnectorCall)
    (store : RouteStore) : Except ControlError RouteStore := do
  rejectIf (call.fenceValid = false) staleFence
  let row ← okOr ((store.bootstrap (resolution.tenantId, resolution.bootstrapId)).filter
    fun row => row.begun.connectorId = resolution.connectorId ∧
      row.delivery.map (·.deliveryId) = some resolution.deliveryId) notFound
  let outbox ← okOr row.outbox notFound
  resolution.check row outbox.command
  if row.state = resolution.outcome.bootstrapState ∧
      outbox.state = resolution.outcome.outboxState then
    rejectIf (outbox.resultDigest ≠ some resolution.resultDigest ∨
      outbox.rejectionCode ≠ resolution.outcome.rejectionCode ∨
      row.routeFence ≠ resolution.outcome.routeFence) conflict
    rejectIf (store.boundTo row.begun.target resolution = false) conflict
    call.commit store
  else if row.state = .revoked ∧ outbox.state = .cancelled then
    call.commit store
  else
    rejectIf (row.begun.expiresAtMillis ≤ call.now) conflict
    rejectIf (row.state ≠ .pendingDelivery ∨ outbox.state.unresolved = false) conflict
    rejectIf (call.acknowledges = false) conflict
    if call.targetLive then
      let written := store.write (resolution.recorded row outbox)
      match resolution.outcome with
      | .rejected _ => call.commit written
      | .installed routeFence =>
          let bound ← written.bind (resolution.binding row.begun routeFence) call.now
          call.commit bound
    else
      call.commit (store.write (row.undelivered outbox))

/-! ## Runs -/

/-- The connector fetches its commands. -/
def dispatchPrepare (key : BootstrapKey) (sequence : Nat) (store : RouteStore) : RouteStore :=
  { store with
    bootstraps := updateWhere
      (fun row => row.key = key ∧ row.prepare.sequence = sequence ∧ row.prepareState = .pending)
      (fun row => { row with prepareState := .dispatched }) store.bootstraps }

/-- A pending delivery is fetched. -/
def DeliveryOutbox.dispatch (outbox : DeliveryOutbox) (sequence : Nat) : DeliveryOutbox :=
  if outbox.command.sequence = sequence ∧ outbox.state = .pending then
    { outbox with state := .dispatched }
  else outbox

/-- The connector fetches the delivery. -/
def dispatchDelivery (tenantId : TenantId) (deliveryId : AgentRouteDeliveryId) (sequence : Nat)
    (store : RouteStore) : RouteStore :=
  { store with
    bootstraps := updateWhere
      (fun row => row.begun.target.tenantId = tenantId ∧
        row.delivery.map (·.deliveryId) = some deliveryId)
      (fun row => { row with outbox := row.outbox.map (·.dispatch sequence) })
      store.bootstraps }

/-- What a delivery or a report leaves behind. -/
def Bootstrap.sideEffectful (row : Bootstrap) : Bool :=
  row.routeFence.isSome || row.recipient.isSome || row.delivery.isSome ||
    row.sealedBootstrap.isSome || row.rejectionCode.isSome

/-- The connector acknowledges the command of a bootstrap that ran out without a report. -/
def acknowledgeExpiredPrepare (key : BootstrapKey) (connectorId : ConnectorId) (echo : CommandEcho)
    (call : ConnectorCall) (store : RouteStore) : Except ControlError RouteStore := do
  let row ← okOr ((store.bootstrap key).filter fun row =>
    row.begun.connectorId = connectorId ∧ row.prepare.echo = echo) conflict
  rejectIf (call.now < row.begun.expiresAtMillis ∨ row.sideEffectful = true) conflict
  if row.state = .expired ∧ row.prepareState = .cancelled then
    -- The command has been acknowledged before.
    rejectIf (call.acknowledges = true) conflict
    call.commit store
  else
    rejectIf (¬((row.state = .pendingRecipient ∨ row.state = .expired) ∧
      row.prepareState.unresolved = true)) conflict
    rejectIf (call.acknowledges = false) conflict
    call.commit (store.write
      { row with state := .expired, prepareState := .cancelled, prepareResult := none })

/-- A report of the connector. -/
inductive Report where
  | recipientReady (ready : RecipientReady)
  | terminal (resolution : TerminalResolution)
  deriving DecidableEq

/-- Each report has its own transaction. -/
def Report.record (report : Report) (call : ConnectorCall) (store : RouteStore) :
    Except ControlError RouteStore :=
  match report with
  | .recipientReady ready => recordRecipientReady ready call store
  | .terminal resolution => resolveTerminal resolution call store

/-- The transactions on bootstraps; one that fails changes nothing. -/
inductive Commits (store : RouteStore) : Unit → RouteStore → Prop
  | began {after : RouteStore} (command : BeginCommand) (call : OwnerCall)
      (committed : beginInTransaction command call store = .ok after) : Commits store () after
  | viewed {after : RouteStore} (key : BootstrapKey) (call : OwnerCall)
      (committed : getAgentRouteBootstrap key call store = .ok after) : Commits store () after
  | delivered {after : RouteStore} (command : DeliveryCommand) (call : OwnerCall)
      (committed : deliverInTransaction command call store = .ok after) : Commits store () after
  | dispatchedPrepare (key : BootstrapKey) (sequence : Nat) :
      Commits store () (dispatchPrepare key sequence store)
  | dispatchedDelivery (tenantId : TenantId) (deliveryId : AgentRouteDeliveryId)
      (sequence : Nat) : Commits store () (dispatchDelivery tenantId deliveryId sequence store)
  | acknowledgedExpired {after : RouteStore} (key : BootstrapKey) (connectorId : ConnectorId)
      (echo : CommandEcho) (call : ConnectorCall)
      (committed : acknowledgeExpiredPrepare key connectorId echo call store = .ok after) :
      Commits store () after
  | reported {after : RouteStore} (report : Report) (call : ConnectorCall)
      (committed : report.record call store = .ok after) : Commits store () after

end Transactions

/-- Before the first transaction. -/
def Unused (store : RouteStore) : Prop := store = ⟨[], []⟩

end Dirextalk.Route
