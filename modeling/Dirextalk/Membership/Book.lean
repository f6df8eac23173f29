import Dirextalk.Domain.Text
import Dirextalk.Membership.Types

/-!
# The membership command book

Commands are replayed by their id or by their idempotency key, and each join
request has one workflow that its commands observe.  A fallible operation is run
on a mutable book, so its model returns the result together with the book it
leaves behind.
-/

namespace Dirextalk.Membership

open Domain Dirextalk.Group Lib Wire

/-! ## Commands and their digests -/

def membershipCommandRequestHashDomain : List UInt8 :=
  textBytes "dirextalk.membership-command-request.v1\x00"

def membershipCommandRequestV2HashDomain : List UInt8 :=
  textBytes "dirextalk.membership-command-request.v2\x00"

/-- The number of the kind in a transcript. -/
def CommandKind.code : CommandKind → UInt64
  | .requestJoin => 1
  | .approveJoin => 2

def digestValue (digest : Sha256Digest) : CanonicalValue := .bytes digest.bytes.toList

/-- The two kinds of group, numbered in the transcript. -/
def scopeValue : GroupScope → CanonicalValue
  | .privateConversation identifier =>
      .map [(.unsigned 1, .unsigned 1), (.unsigned 2, .text identifier.toText)]
  | .controlledPublicChannel identifier =>
      .map [(.unsigned 1, .unsigned 2), (.unsigned 2, .text identifier.toText)]

/-- The transcript of a command. -/
def commandValue (kind : CommandKind) (context : MembershipCommandContext)
    (authorizationDigest : Option Sha256Digest) : CanonicalValue :=
  .map ([
    (.unsigned 1, .unsigned kind.code),
    (.unsigned 2, .text context.commandId.toText),
    (.unsigned 3, scopeValue context.scope),
    (.unsigned 4, .text context.actorIdentityId.toText),
    (.unsigned 5, .text context.actorDeviceId.toText),
    (.unsigned 6, .text context.joinRequestId.toText),
    (.unsigned 7, .text context.candidateIdentityId.toText),
    (.unsigned 8, .text context.candidateDeviceId.toText),
    (.unsigned 9, .text context.inviteId.toText),
    (.unsigned 10, .unsigned (.ofNat context.fence.policyRevision.value)),
    (.unsigned 11, digestValue context.fence.sequencerHead),
    (.unsigned 12, authorizationDigest.elim .null digestValue)] ++
    (context.candidateKeyPackageDigest.map fun digest =>
      (CanonicalValue.unsigned 13, digestValue digest)).toList)

section Digests

variable [Sha256]

/-- The domain-separated digest of the transcript.  The source expects the encoding to succeed,
as it does (`encode_commandValue`). -/
def commandDigest (kind : CommandKind) (context : MembershipCommandContext)
    (authorizationDigest : Option Sha256Digest) : Sha256Digest :=
  let domain := if context.candidateKeyPackageDigest.isSome then
    membershipCommandRequestV2HashDomain else membershipCommandRequestHashDomain
  .hashDomain domain
    ((encodeDeterministicCbor (commandValue kind context authorizationDigest)).toOption.getD [])

/-- A candidate asks to join. -/
structure JoinRequestCommand where
  context : MembershipCommandContext

/-- A request carries no authorization. -/
def JoinRequestCommand.requestDigest (command : JoinRequestCommand) : Sha256Digest :=
  commandDigest .requestJoin command.context none

/-- An administrator approves a join. -/
structure ApproveJoinCommand where
  context : MembershipCommandContext
  authorizationDigest : Sha256Digest

/-- An approval is bound to its authorization. -/
def ApproveJoinCommand.requestDigest (command : ApproveJoinCommand) : Sha256Digest :=
  commandDigest .approveJoin command.context (some command.authorizationDigest)

end Digests

/-! ## The book -/

/-- The commands of a group and the joins that they move. -/
structure MembershipCommandBook where
  commands : TreeMap MembershipCommandId StoredCommand
  idempotency : TreeMap IdempotencyLookup MembershipCommandId
  workflows : TreeMap JoinRequestId JoinWorkflow

open MembershipCommandError

/-- A join that waits for its approval. -/
def JoinWorkflow.pending (context : MembershipCommandContext) : JoinWorkflow :=
  { context, phase := .pendingApproval }

/-- The request and the approval name the same join. -/
def JoinWorkflow.matches (workflow : JoinWorkflow) (context : MembershipCommandContext) : Bool :=
  workflow.context.scope = context.scope ∧
    workflow.context.joinRequestId = context.joinRequestId ∧
    workflow.context.candidateIdentityId = context.candidateIdentityId ∧
    workflow.context.candidateDeviceId = context.candidateDeviceId ∧
    workflow.context.inviteId = context.inviteId ∧
    workflow.context.candidateKeyPackageDigest = context.candidateKeyPackageDigest

/-- The commit answers this command of this group. -/
def validateCommitReference (reference : MembershipCommitReference) (scope : GroupScope)
    (commandId : MembershipCommandId) (requestDigest : Sha256Digest) :
    Except MembershipCommandError Unit :=
  rejectIf (¬(reference.scope = scope ∧ reference.commandId = commandId ∧
    reference.requestDigest = requestDigest)) commitReferenceMismatch

namespace MembershipCommandBook

/-- A book without commands. -/
def new : MembershipCommandBook := ⟨∅, ∅, ∅⟩

variable (book : MembershipCommandBook) (commandId : MembershipCommandId)

/-- The phase that a command shows: that of its workflow or its own. -/
def commandPhase (command : StoredCommand) : Except MembershipCommandError MembershipCommandPhase :=
  match command.workflowId, command.terminalPhase with
  | some workflowId, none =>
      okOr (book.workflows[workflowId]?.map (·.phase.asPublic)) invariantViolation
  | none, some phase => .ok phase
  | _, _ => .error invariantViolation

/-- The receipt shows the current phase of a stored command. -/
def receiptFor : Except MembershipCommandError MembershipReceipt := do
  let command ← okOr book.commands[commandId]? commandNotFound
  let phase ← book.commandPhase command
  return { commandId, requestDigest := command.requestDigest, phase }

/-- The receipt of a command seen before, under its id or its replay key. -/
def existingOrConflict (requestDigest : Sha256Digest) (idempotency : IdempotencyLookup) :
    Except MembershipCommandError (Option MembershipReceipt) :=
  match book.commands[commandId]? with
  | some existing => do
      rejectIf (existing.requestDigest ≠ requestDigest) commandIdConflict
      return some (← book.receiptFor commandId)
  | none =>
      match book.idempotency[idempotency]? with
      | some existingId => do
          let existing ← okOr book.commands[existingId]? invariantViolation
          rejectIf (existing.requestDigest ≠ requestDigest) idempotencyConflict
          return some (← book.receiptFor existingId)
      | none => .ok none

/-- What an operation decides before its first write. -/
inductive Decision where
  | answer (receipt : MembershipReceipt)
  | write (book : MembershipCommandBook)

/-- Writes what was decided and answers with the receipt of the command. -/
def conclude :
    Except MembershipCommandError Decision →
      Except MembershipCommandError MembershipReceipt × MembershipCommandBook
  | .error error => (.error error, book)
  | .ok (.answer receipt) => (.ok receipt, book)
  | .ok (.write next) => (next.receiptFor commandId, next)

/-- Stores a command under its id and its idempotency key. -/
def store (context : MembershipCommandContext) (command : StoredCommand) : MembershipCommandBook :=
  { book with
    commands := book.commands.insert context.commandId command
    idempotency := book.idempotency.insert (.new context) context.commandId }

/-- Moves a workflow. -/
def setPhase (workflowId : JoinRequestId) (workflow : JoinWorkflow) (phase : WorkflowPhase) :
    MembershipCommandBook :=
  { book with workflows := book.workflows.insert workflowId { workflow with phase } }

section Operations

variable [Sha256] (book : MembershipCommandBook)

/-- Records or exactly replays a candidate-authored pending join request. -/
def recordJoinRequest (command : JoinRequestCommand) (candidateMembership : CandidateMembership) :
    Except MembershipCommandError MembershipReceipt × MembershipCommandBook :=
  let context := command.context
  conclude book context.commandId do
    match ← book.existingOrConflict context.commandId command.requestDigest (.new context) with
    | some receipt => return .answer receipt
    | none => do
        rejectIf (context.actorIdentityId ≠ context.candidateIdentityId) actorCandidateMismatch
        match candidateMembership with
        | .alreadyMember reference => do
            rejectIf (reference.scope ≠ context.scope) commitReferenceMismatch
            return .write (book.store context (.terminal .requestJoin command.requestDigest
              (.committed (.alreadyMember reference))))
        | .notMember => do
            rejectIf (context.joinRequestId ∈ book.workflows) joinRequestConflict
            let book := book.store context
              (.workflow .requestJoin command.requestDigest context.joinRequestId)
            return .write { book with
              workflows := book.workflows.insert context.joinRequestId (.pending context) }

/-- Records or exactly replays an approved commit intent. -/
def approveJoin (command : ApproveJoinCommand) (candidateMembership : CandidateMembership) :
    Except MembershipCommandError MembershipReceipt × MembershipCommandBook :=
  let context := command.context
  conclude book context.commandId do
    match ← book.existingOrConflict context.commandId command.requestDigest (.new context) with
    | some receipt => return .answer receipt
    | none => do
        let workflow ← okOr book.workflows[context.joinRequestId]? joinRequestNotFound
        rejectIf (workflow.matches context = false) joinRequestMismatch
        match candidateMembership with
        | .alreadyMember reference => do
            rejectIf (reference.scope ≠ context.scope) commitReferenceMismatch
            let book := book.store context
              (.terminal .approveJoin command.requestDigest (.committed (.alreadyMember reference)))
            match workflow.phase with
            | .pendingApproval | .pendingCommit .. | .reconciling .. =>
                return .write (book.setPhase context.joinRequestId workflow
                  (.committed (.alreadyMember reference)))
            | .committed _ | .rejected _ => return .write book
        | .notMember =>
            match workflow.phase with
            | .pendingApproval =>
                let book := book.store context
                  (.workflow .approveJoin command.requestDigest context.joinRequestId)
                return .write (book.setPhase context.joinRequestId workflow
                  (.pendingCommit context.commandId context command.authorizationDigest))
            | .pendingCommit .. | .reconciling .. => .error joinCommitInFlight
            | .committed _ | .rejected _ => .error joinWorkflowTerminal

end Operations

/-- The next safe sequencer action, if the command needs one. -/
def nextSequencerAction : Except MembershipCommandError (Option SequencerAction) := do
  let command ← okOr book.commands[commandId]? commandNotFound
  match command.workflowId with
  | none => return none
  | some workflowId =>
      if command.kind ≠ .approveJoin then return none
      else do
        let workflow ← okOr book.workflows[workflowId]? invariantViolation
        match workflow.phase with
        | .pendingCommit approvalCommandId approvalContext authorizationDigest =>
            if approvalCommandId = commandId then
              return some (.submit
                { approvalContext with
                  commandId, requestDigest := command.requestDigest, authorizationDigest })
            else return none
        | .reconciling approvalCommandId _ _ =>
            if approvalCommandId = commandId then
              return some (.query { scope := workflow.context.scope, commandId
                                    requestDigest := command.requestDigest })
            else return none
        | _ => return none

/-- The phase that a sequencer result leads to while the commit is in flight. -/
def resolvedPhase (workflow : JoinWorkflow) (command : StoredCommand)
    (commandId : MembershipCommandId) (approvalContext : MembershipCommandContext)
    (authorizationDigest : Sha256Digest) (reconciling : Bool) :
    SequencerResolution → Except MembershipCommandError WorkflowPhase
  | .unknown => .ok (.reconciling commandId approvalContext authorizationDigest)
  | .absent =>
      if reconciling then .ok (.pendingCommit commandId approvalContext authorizationDigest)
      else .error commandNotReady
  | .rejected rejection => .ok (.rejected rejection)
  | .committed reference => do
      validateCommitReference reference workflow.context.scope commandId command.requestDigest
      return .committed (.applied reference)

/-- Applies a submit or lookup result to the one active approval workflow. -/
def observeSequencerResolution (resolution : SequencerResolution) :
    Except MembershipCommandError MembershipReceipt × MembershipCommandBook :=
  conclude book commandId do
    let command ← okOr book.commands[commandId]? commandNotFound
    rejectIf (command.kind ≠ .approveJoin) commandNotReady
    let workflowId ← okOr command.workflowId commandNotReady
    let workflow ← okOr book.workflows[workflowId]? invariantViolation
    match workflow.phase with
    | .pendingCommit approvalCommandId approvalContext authorizationDigest => do
        rejectIf (approvalCommandId ≠ commandId) commandNotReady
        let phase ← resolvedPhase workflow command commandId approvalContext authorizationDigest
          false resolution
        return .write (book.setPhase workflowId workflow phase)
    | .reconciling approvalCommandId approvalContext authorizationDigest => do
        rejectIf (approvalCommandId ≠ commandId) commandNotReady
        let phase ← resolvedPhase workflow command commandId approvalContext authorizationDigest
          true resolution
        return .write (book.setPhase workflowId workflow phase)
    | .committed admission =>
        if resolution = .committed admission.commitReference then
          return .answer (← book.receiptFor commandId)
        else .error terminalResolutionConflict
    | .rejected rejection =>
        if resolution = .rejected rejection then
          return .answer (← book.receiptFor commandId)
        else .error terminalResolutionConflict
    | .pendingApproval => .error commandNotReady

/-- Persists a definitive local policy rejection before any sequencer effect. -/
def rejectLocally (rejection : MembershipRejection) :
    Except MembershipCommandError MembershipReceipt × MembershipCommandBook :=
  conclude book commandId do
    let command ← okOr book.commands[commandId]? commandNotFound
    let workflowId ← okOr command.workflowId commandNotReady
    let workflow ← okOr book.workflows[workflowId]? invariantViolation
    match command.kind, workflow.phase with
    | .requestJoin, .pendingApproval =>
        return .write { book with
          workflows := book.workflows.erase workflowId
          commands := book.commands.insert commandId
            (.terminal .requestJoin command.requestDigest (.rejected rejection)) }
    | .approveJoin, .pendingCommit approvalCommandId _ _ => do
        rejectIf (approvalCommandId ≠ commandId) commandNotReady
        return .write (book.setPhase workflowId workflow (.rejected rejection))
    | _, _ => .error commandNotReady

end MembershipCommandBook

end Dirextalk.Membership
