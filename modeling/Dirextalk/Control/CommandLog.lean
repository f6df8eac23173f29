import Dirextalk.Control.Payload

/-!
# The command log

The append-only log of the commands for one connector, with its acknowledgement cursor
and the fence that every call echoes, and the audit of its durable image.
-/

namespace Dirextalk.Control

open Domain Lib Wire CommandError

/-- An entry of the log. -/
structure DurableServerCommand where
  sequence : Nat
  operationId : RequestId
  generation : Nat
  specRevision : Revision
  payload : ServerCommandPayload
  payloadDigest : Sha256Digest
  encodedCommandDigest : Sha256Digest
  exactBytes : ExactCommandBytes
  deriving DecidableEq

namespace DurableServerCommand

def isTerminalRevoke (command : DurableServerCommand) : Bool := command.payload.isTerminalRevoke

def isFenceBarrier (command : DurableServerCommand) : Bool := command.payload.isFenceBarrier

end DurableServerCommand

/-- Exact acknowledgement for one durable command. -/
structure CommandAck where
  sequence : Nat
  payloadDigest : Sha256Digest
  encodedCommandDigest : Sha256Digest
  generation : Nat
  specRevision : Revision
  deriving DecidableEq

/-- Whether the log still takes commands. -/
inductive CommandLogState where
  | active
  | revoked
  deriving DecidableEq, Repr

/-- The commands of a connector and how far they are acknowledged. -/
structure CommandLog where
  tenantId : TenantId
  connectorId : ConnectorId
  generation : Nat
  specRevision : Revision
  acknowledgedSequence : Nat
  state : CommandLogState
  commands : List DurableServerCommand
  deriving DecidableEq

/-- Generations are positive safe integers. -/
def validateGeneration (generation : Nat) : Except CommandError Unit :=
  rejectIf (generation = 0 ∨ generation > 2 ^ 53 - 1) invalidGeneration

namespace CommandLog

/-! ## Calls -/

/-- An empty log at one fence. -/
def new (tenantId : TenantId) (connectorId : ConnectorId) (generation : Nat)
    (specRevision : Revision) : Except CommandError CommandLog := do
  validateGeneration generation
  return { tenantId, connectorId, generation, specRevision, acknowledgedSequence := 0
           state := .active, commands := [] }

variable (log : CommandLog)

/-- A caller has to name the current fence. -/
def validateFence (generation : Nat) (specRevision : Revision) : Except CommandError Unit :=
  rejectIf (generation ≠ log.generation ∨ specRevision ≠ log.specRevision) staleFence

/-- The commands that have not been acknowledged. -/
def pending : List DurableServerCommand :=
  log.commands.drop log.acknowledgedSequence

/-- The command with a sequence; the sequences start at one. -/
def command (sequence : Nat) : Option DurableServerCommand :=
  if sequence = 0 then none else log.commands[sequence - 1]?

/-- The record that an append adds. -/
def newCommand [Sha256] (generation : Nat) (specRevision : Revision) (operationId : RequestId)
    (payload : ServerCommandPayload) (payloadDigest : Sha256Digest)
    (exactBytes : ExactCommandBytes) : DurableServerCommand where
  sequence := log.commands.length + 1
  operationId
  generation
  specRevision
  payload
  payloadDigest
  encodedCommandDigest := exactBytes.encodedCommandDigest
  exactBytes

/-- Adds a command, or finds the one that its operation has added before. -/
def append [Sha256] (generation : Nat) (specRevision : Revision) (operationId : RequestId)
    (payload : ServerCommandPayload) (payloadDigest : Sha256Digest)
    (exactBytes : ExactCommandBytes) : Except CommandError (DurableServerCommand × CommandLog) := do
  log.validateFence generation specRevision
  validatePayload payload specRevision
  match log.commands.find? (·.operationId = operationId) with
  | some existing =>
      rejectIf (¬(existing.generation = generation ∧
        existing.specRevision = specRevision ∧
        existing.payload = payload ∧
        existing.payloadDigest = payloadDigest ∧
        existing.encodedCommandDigest = exactBytes.encodedCommandDigest ∧
        existing.exactBytes = exactBytes)) idempotencyConflict
      return (existing, log)
  | none =>
      rejectIf (log.state = .revoked) .revoked
      rejectIf (log.acknowledgedSequence > log.commands.length) invalidSnapshot
      let pendingRevoke := log.pending.any (·.isTerminalRevoke)
      let hasFenceBarrier := log.pending.any (·.isFenceBarrier)
      let supersedingRevoke := payload.isTerminalRevoke
      rejectIf (pendingRevoke = true ∨ (hasFenceBarrier = true ∧ supersedingRevoke = false))
        unacknowledgedCommands
      rejectIf (log.commands.length - log.acknowledgedSequence ≥ maxCommandBacklog ∧
        supersedingRevoke = false) backlogFull
      rejectIf (log.commands.length + 1 > 2 ^ 53 - 1) counterExhausted
      let command := log.newCommand generation specRevision operationId payload payloadDigest
        exactBytes
      return (command, { log with commands := log.commands ++ [command] })

/-- Moves the cursor over the next command, or repeats the last acknowledgement. -/
def acknowledge (acknowledgement : CommandAck) : Except CommandError CommandLog := do
  log.validateFence acknowledgement.generation acknowledgement.specRevision
  rejectIf (acknowledgement.sequence = 0 ∨ acknowledgement.sequence > 2 ^ 53 - 1) invalidSequence
  if acknowledgement.sequence = log.acknowledgedSequence then
    let command ← okOr (log.command acknowledgement.sequence) invalidSequence
    rejectIf (¬(command.payloadDigest = acknowledgement.payloadDigest ∧
      command.encodedCommandDigest = acknowledgement.encodedCommandDigest)) digestMismatch
    return log
  let expected := log.acknowledgedSequence + 1
  rejectIf (acknowledgement.sequence < expected) staleCursor
  rejectIf (acknowledgement.sequence > expected) ackGap
  let command ← okOr (log.command acknowledgement.sequence) unknownCommand
  rejectIf (command.generation ≠ acknowledgement.generation ∨
    command.specRevision ≠ acknowledgement.specRevision) staleFence
  rejectIf (command.payloadDigest ≠ acknowledgement.payloadDigest ∨
    command.encodedCommandDigest ≠ acknowledgement.encodedCommandDigest) digestMismatch
  return { log with acknowledgedSequence := acknowledgement.sequence }

/-- The commands after the durable cursor; the client's cursor may be ahead of it. -/
def resume (acknowledgedSequence generation : Nat) (specRevision : Revision) :
    Except CommandError (List DurableServerCommand) := do
  log.validateFence generation specRevision
  rejectIf (acknowledgedSequence < log.acknowledgedSequence) staleCursor
  rejectIf (acknowledgedSequence > log.commands.length) cursorGap
  rejectIf (log.acknowledgedSequence > log.commands.length) invalidSequence
  return log.pending

/-- Moves an acknowledged log to the next revision. -/
def advanceFence (expectedGeneration : Nat) (expectedSpecRevision : Revision) (nextGeneration : Nat)
    (nextSpecRevision : Revision) : Except CommandError CommandLog := do
  log.validateFence expectedGeneration expectedSpecRevision
  rejectIf (log.state = .revoked) .revoked
  rejectIf (log.acknowledgedSequence ≠ log.commands.length) unacknowledgedCommands
  let expectedRevision ← log.specRevision.checkedNext.mapError fun _ => counterExhausted
  rejectIf (nextSpecRevision ≠ expectedRevision ∨
    (nextGeneration ≠ log.generation ∧
      ¬(nextGeneration = log.generation + 1 ∧ log.generation + 1 ≤ 2 ^ 53 - 1)))
    invalidFenceTransition
  return { log with generation := nextGeneration, specRevision := nextSpecRevision }

/-- The last command is a terminal revoke. -/
def endsInRevoke (commands : List DurableServerCommand) : Bool :=
  commands.getLast?.any (·.isTerminalRevoke)

/-- Closes a log that ends in a terminal revoke. -/
def revoke : Except CommandError CommandLog := do
  if log.state = .revoked then return log
  rejectIf (endsInRevoke log.commands = false) missingRevokeCommand
  return { log with state := .revoked }

/-- Closes the log and moves its revision in one step. -/
def finalizeRevokeFence (expectedGeneration : Nat) (expectedSpecRevision : Revision)
    (nextGeneration : Nat) (nextSpecRevision : Revision) :
    Except CommandError CommandLog := do
  if log.state = .revoked then
    rejectIf (¬(log.generation = nextGeneration ∧ log.specRevision = nextSpecRevision)) .revoked
    return log
  log.validateFence expectedGeneration expectedSpecRevision
  let expectedNextRevision ← log.specRevision.checkedNext.mapError fun _ => counterExhausted
  rejectIf (nextGeneration ≠ log.generation ∨ nextSpecRevision ≠ expectedNextRevision)
    invalidFenceTransition
  rejectIf (endsInRevoke log.commands = false) missingRevokeCommand
  return { log with specRevision := nextSpecRevision, state := .revoked }

end CommandLog

/-! ## Durable images -/

/-- Durable image of a command, with the same fields. -/
abbrev DurableServerCommandSnapshot := DurableServerCommand

/-- A log as it is stored. -/
structure CommandLogSnapshot where
  tenantId : TenantId
  connectorId : ConnectorId
  generation : Nat
  specRevision : Revision
  acknowledgedSequence : Nat
  state : CommandLogState
  commands : List DurableServerCommandSnapshot
  deriving DecidableEq

/-- The durable image of a log. -/
def CommandLog.snapshot (log : CommandLog) : CommandLogSnapshot := { log with }

/-- The checks that a stored command passes on its own. -/
def validateDurableCommandSnapshot [Sha256] (command : DurableServerCommandSnapshot) :
    Except CommandError Unit :=
  rejectIf (command.sequence = 0 ∨
    command.sequence > 2 ^ 53 - 1 ∨
    command.generation = 0 ∨
    command.generation > 2 ^ 53 - 1 ∨
    command.encodedCommandDigest ≠ command.exactBytes.encodedCommandDigest ∨
    (validatePayload command.payload command.specRevision).toOption = none) invalidSnapshot

namespace CommandLogSnapshot

/-- The command at its index; the operations seen so far and the previous fence are those
of the entries before. -/
def checkCommand [Sha256] (snapshot : CommandLogSnapshot)
    (entry : DurableServerCommandSnapshot × Nat) : Except CommandError Unit := do
  let (command, index) := entry
  rejectIf (command.sequence ≠ index + 1 ∨
    (validateDurableCommandSnapshot command).toOption = none ∨
    command.generation > snapshot.generation ∨
    command.specRevision > snapshot.specRevision ∨
    command.operationId ∈ (snapshot.commands.take index).map (·.operationId)) invalidSnapshot
  rejectIf (0 < index ∧ snapshot.commands[index - 1]?.any (fun previous =>
    command.generation < previous.generation ∨
      command.specRevision < previous.specRevision ∨
      (command.generation > previous.generation ∧
        command.generation ≠ previous.generation + 1)) = true) invalidSnapshot

/-- The pending command at its index, after the pending commands before it. -/
def checkPending (pending : List DurableServerCommandSnapshot)
    (entry : DurableServerCommandSnapshot × Nat) : Except CommandError Unit := do
  let (command, index) := entry
  let barrierSeen := (pending.take index).any (·.isFenceBarrier)
  rejectIf (barrierSeen = true ∧ command.isTerminalRevoke = false) invalidSnapshot
  rejectIf (command.isTerminalRevoke = true ∧ index + 1 ≠ pending.length) invalidSnapshot

/-- The checks of a stored log, before it is rehydrated. -/
def validate [Sha256] (snapshot : CommandLogSnapshot) : Except CommandError Unit := do
  validateGeneration snapshot.generation
  let pendingCount := snapshot.commands.length - snapshot.acknowledgedSequence
  let terminalOverflow := pendingCount = maxCommandBacklog + 1 ∧
    CommandLog.endsInRevoke snapshot.commands = true
  rejectIf (snapshot.commands.length > 2 ^ 53 - 1 ∨
    snapshot.acknowledgedSequence > snapshot.commands.length ∨
    (pendingCount > maxCommandBacklog ∧ ¬terminalOverflow)) invalidSnapshot
  snapshot.commands.zipIdx.forM (checkCommand snapshot)
  let pending := snapshot.commands.drop snapshot.acknowledgedSequence
  pending.zipIdx.forM (checkPending pending)
  rejectIf (snapshot.commands.getLast?.any (fun command =>
    command.generation > snapshot.generation ∨
      command.specRevision > snapshot.specRevision) = true) invalidSnapshot
  rejectIf (snapshot.state = .revoked ∧ CommandLog.endsInRevoke snapshot.commands = false)
    invalidSnapshot

end CommandLogSnapshot

/-- Rehydrates a log after the audit of its image. -/
def CommandLog.tryFromSnapshot [Sha256] (snapshot : CommandLogSnapshot) :
    Except CommandError CommandLog := do
  snapshot.validate
  return { snapshot with }

/-! ## Runs -/

/-- A call that may change the log. -/
inductive LogOperation where
  | append (generation : Nat) (specRevision : Revision) (operationId : RequestId)
      (payload : ServerCommandPayload) (payloadDigest : Sha256Digest)
      (exactBytes : ExactCommandBytes)
  | acknowledge (acknowledgement : CommandAck)
  | advanceFence (expectedGeneration : Nat) (expectedSpecRevision : Revision)
      (nextGeneration : Nat) (nextSpecRevision : Revision)
  | revoke
  | finalizeRevokeFence (expectedGeneration : Nat) (expectedSpecRevision : Revision)
      (nextGeneration : Nat) (nextSpecRevision : Revision)

/-- The log after a call that is accepted. -/
def CommandLog.run [Sha256] (log : CommandLog) : LogOperation → Except CommandError CommandLog
  | .append generation specRevision operationId payload payloadDigest exactBytes =>
      (log.append generation specRevision operationId payload payloadDigest exactBytes).map (·.2)
  | .acknowledge acknowledgement => log.acknowledge acknowledgement
  | .advanceFence expectedGeneration expectedSpecRevision nextGeneration nextSpecRevision =>
      log.advanceFence expectedGeneration expectedSpecRevision nextGeneration nextSpecRevision
  | .revoke => log.revoke
  | .finalizeRevokeFence expectedGeneration expectedSpecRevision nextGeneration
        nextSpecRevision =>
      log.finalizeRevokeFence expectedGeneration expectedSpecRevision nextGeneration
        nextSpecRevision

/-- The operation id that a call appends a command under. -/
def LogOperation.appended : LogOperation → Option RequestId
  | .append _ _ operationId _ _ _ => some operationId
  | _ => none

/-- A log as it is created. -/
def LogStart (log : CommandLog) : Prop :=
  ∃ tenantId connectorId generation specRevision,
    CommandLog.new tenantId connectorId generation specRevision = .ok log

/-- A call that is accepted. -/
def LogCall [Sha256] (log : CommandLog) (operation : LogOperation) (next : CommandLog) : Prop :=
  log.run operation = .ok next

end Dirextalk.Control
