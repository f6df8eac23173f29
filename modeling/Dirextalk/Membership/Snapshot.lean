import Dirextalk.Membership.Book

/-!
# Snapshots of the command book

The storage-neutral image of the book, and the loader that rebuilds a book from
one.  The loader collects the three maps, and then checks the whole graph of
commands, idempotency keys and workflows.
-/

namespace Dirextalk.Membership

open Domain Dirextalk.Group Lib Wire

/-! ## Durable records -/

/-- Durable discriminator for one membership command. -/
inductive MembershipCommandKind where
  | requestJoin
  | approveJoin
  deriving DecidableEq, Repr

/-- Durable form of the replay key of a command. -/
structure MembershipIdempotencyPersistence where
  scope : GroupScope
  actorIdentityId : IdentityId
  idempotencyKeyHash : Sha256Digest
  deriving DecidableEq

/-- A command as it is stored. -/
structure MembershipCommandPersistence where
  commandId : MembershipCommandId
  kind : MembershipCommandKind
  requestDigest : Sha256Digest
  workflowId : Option JoinRequestId
  terminalPhase : Option MembershipCommandPhase
  idempotency : MembershipIdempotencyPersistence
  deriving DecidableEq

/-- The phase of a stored join. -/
inductive MembershipWorkflowPersistencePhase where
  | pendingApproval
  | pendingCommit (approvalCommandId : MembershipCommandId)
      (approvalContext : MembershipCommandContext) (authorizationDigest : Sha256Digest)
  | reconciling (approvalCommandId : MembershipCommandId)
      (approvalContext : MembershipCommandContext) (authorizationDigest : Sha256Digest)
  | committed (admission : MembershipAdmission)
  | rejected (rejection : MembershipRejection)
  deriving DecidableEq

/-- A join as it is stored. -/
structure MembershipWorkflowPersistence where
  joinRequestId : JoinRequestId
  context : MembershipCommandContext
  phase : MembershipWorkflowPersistencePhase
  deriving DecidableEq

/-- Complete storage-neutral image of a book. -/
structure MembershipCommandBookSnapshot where
  commands : List MembershipCommandPersistence
  workflows : List MembershipWorkflowPersistence
  deriving DecidableEq

def CommandKind.persistenceKind : CommandKind → MembershipCommandKind
  | .requestJoin => .requestJoin
  | .approveJoin => .approveJoin

def CommandKind.fromPersistence : MembershipCommandKind → CommandKind
  | .requestJoin => .requestJoin
  | .approveJoin => .approveJoin

def IdempotencyLookup.persistence (lookup : IdempotencyLookup) : MembershipIdempotencyPersistence :=
  { lookup with }

def IdempotencyLookup.fromPersistence (value : MembershipIdempotencyPersistence) :
    IdempotencyLookup :=
  { value with }

/-- The durable form of a phase. -/
def WorkflowPhase.persistencePhase : WorkflowPhase → MembershipWorkflowPersistencePhase
  | .pendingApproval => .pendingApproval
  | .pendingCommit approvalCommandId approvalContext authorizationDigest =>
      .pendingCommit approvalCommandId approvalContext authorizationDigest
  | .reconciling approvalCommandId approvalContext authorizationDigest =>
      .reconciling approvalCommandId approvalContext authorizationDigest
  | .committed admission => .committed admission
  | .rejected rejection => .rejected rejection

/-- The phase that its durable form stands for. -/
def WorkflowPhase.fromPersistence : MembershipWorkflowPersistencePhase → WorkflowPhase
  | .pendingApproval => .pendingApproval
  | .pendingCommit approvalCommandId approvalContext authorizationDigest =>
      .pendingCommit approvalCommandId approvalContext authorizationDigest
  | .reconciling approvalCommandId approvalContext authorizationDigest =>
      .reconciling approvalCommandId approvalContext authorizationDigest
  | .committed admission => .committed admission
  | .rejected rejection => .rejected rejection

/-- The durable form of a command, with its replay key. -/
def StoredCommand.persistence (commandId : MembershipCommandId) (command : StoredCommand)
    (lookup : IdempotencyLookup) : MembershipCommandPersistence :=
  { command with
    commandId, kind := command.kind.persistenceKind, idempotency := lookup.persistence }

/-- The command without its id and its replay key. -/
def MembershipCommandPersistence.stored (persisted : MembershipCommandPersistence) :
    StoredCommand :=
  { persisted with kind := .fromPersistence persisted.kind }

open MembershipCommandError

/-! ## Taking a snapshot -/

/-- The replay key of every command; no command has two. -/
def lookupsByCommand (idempotency : TreeMap IdempotencyLookup MembershipCommandId) :
    Except MembershipCommandError (TreeMap MembershipCommandId IdempotencyLookup) :=
  idempotency.toList.foldlM (fun idempotencyByCommand entry => do
    rejectIf (entry.2 ∈ idempotencyByCommand) invariantViolation
    return idempotencyByCommand.insert entry.2 entry.1) ∅

/-- Writes one command with its replay key, and takes the key out of the index. -/
def persistCommand
    (state : List MembershipCommandPersistence × TreeMap MembershipCommandId IdempotencyLookup)
    (entry : MembershipCommandId × StoredCommand) :
    Except MembershipCommandError
      (List MembershipCommandPersistence × TreeMap MembershipCommandId IdempotencyLookup) := do
  let lookup ← okOr state.2[entry.1]? invariantViolation
  return (state.1 ++ [entry.2.persistence entry.1 lookup], state.2.erase entry.1)

/-- Captures one complete image of replay and workflow state. -/
def MembershipCommandBook.snapshot (book : MembershipCommandBook) :
    Except MembershipCommandError MembershipCommandBookSnapshot := do
  let idempotencyByCommand ← lookupsByCommand book.idempotency
  let (commands, unclaimed) ← book.commands.toList.foldlM persistCommand ([], idempotencyByCommand)
  rejectIf (unclaimed.isEmpty = false) invariantViolation
  return {
    commands
    workflows := book.workflows.toList.map fun entry =>
      { joinRequestId := entry.1, context := entry.2.context
        phase := entry.2.phase.persistencePhase } }

/-! ## Checks of the graph -/

/-- The group of a durable command: that of its workflow or its own. -/
def scopeForCommand (command : MembershipCommandPersistence)
    (workflows : TreeMap JoinRequestId JoinWorkflow) : Except MembershipCommandError GroupScope :=
  match command.workflowId with
  | none => .ok command.idempotency.scope
  | some workflowId => okOr (workflows[workflowId]?.map (·.context.scope)) invariantViolation

/-- The group of a command, where the book determines it. -/
def scopeForStoredCommand (command : StoredCommand)
    (workflows : TreeMap JoinRequestId JoinWorkflow) :
    Except MembershipCommandError (Option GroupScope) :=
  match command.workflowId, command.terminalPhase with
  | some workflowId, none =>
      okOr (workflows[workflowId]?.map fun workflow => some workflow.context.scope)
        invariantViolation
  | none, some (.committed admission) => .ok (some admission.commitReference.scope)
  | none, some (.rejected _) | none, none => .ok none
  | _, _ => .error invariantViolation

/-- The outcomes that a command without a workflow can have. -/
def validateTerminalCommand (command : StoredCommand) (phase : MembershipCommandPhase) :
    Except MembershipCommandError Unit :=
  match command.kind, phase with
  | .requestJoin, .rejected _ | .requestJoin, .committed (.alreadyMember _)
  | .approveJoin, .committed (.alreadyMember _) => .ok ()
  | _, _ => .error invariantViolation

namespace MembershipCommandBook

/-- The approval that observes a workflow; an error if there are several. -/
def singleWorkflowApproval (book : MembershipCommandBook) (workflowId : JoinRequestId) :
    Except MembershipCommandError (Option (MembershipCommandId × StoredCommand)) :=
  match book.commands.toList.filter fun entry =>
      entry.2.kind = .approveJoin ∧ entry.2.workflowId = some workflowId with
  | [] => .ok none
  | [approval] => .ok (some approval)
  | _ => .error invariantViolation

section Digests

variable [Sha256]

/-- The digest of a command is that of its workflow. -/
def validateWorkflowCommand (commandId : MembershipCommandId) (command : StoredCommand)
    (workflow : JoinWorkflow) : Except MembershipCommandError Unit :=
  match command.kind, workflow.phase with
  | .requestJoin, _ =>
      rejectIf (command.requestDigest ≠ JoinRequestCommand.requestDigest ⟨workflow.context⟩)
        invariantViolation
  | .approveJoin, .pendingCommit approvalCommandId approvalContext authorizationDigest
  | .approveJoin, .reconciling approvalCommandId approvalContext authorizationDigest =>
      rejectIf (¬(approvalCommandId = commandId ∧ workflow.matches approvalContext = true ∧
        command.requestDigest =
          ApproveJoinCommand.requestDigest ⟨approvalContext, authorizationDigest⟩))
        invariantViolation
  | .approveJoin, .committed _ | .approveJoin, .rejected _ => .ok ()
  | .approveJoin, .pendingApproval => .error invariantViolation

variable (book : MembershipCommandBook)

/-- A commit in flight belongs to an approval of the same join. -/
def validateFlight (workflowId : JoinRequestId) (workflow : JoinWorkflow)
    (approvalCommandId : MembershipCommandId) (approvalContext : MembershipCommandContext)
    (authorizationDigest : Sha256Digest) : Except MembershipCommandError Unit := do
  rejectIf (workflow.matches approvalContext = false) invariantViolation
  let command ← okOr book.commands[approvalCommandId]? invariantViolation
  rejectIf (command.kind ≠ .approveJoin ∨ command.workflowId ≠ some workflowId ∨
      command.requestDigest ≠
        ApproveJoinCommand.requestDigest ⟨approvalContext, authorizationDigest⟩)
    invariantViolation

/-- `WorkflowPhase::validate`. -/
def validatePhase (workflowId : JoinRequestId)
    (workflow : JoinWorkflow) : Except MembershipCommandError Unit :=
  match workflow.phase with
  | .pendingApproval => .ok ()
  | .pendingCommit approvalCommandId approvalContext authorizationDigest
  | .reconciling approvalCommandId approvalContext authorizationDigest =>
      book.validateFlight workflowId workflow approvalCommandId approvalContext authorizationDigest
  | .committed (.applied reference) => do
      let approval ← okOr (← book.singleWorkflowApproval workflowId) invariantViolation
      rejectIf (reference.scope ≠ workflow.context.scope ∨ approval.1 ≠ reference.commandId ∨
        approval.2.requestDigest ≠ reference.requestDigest) invariantViolation
  | .committed (.alreadyMember reference) => do
      rejectIf (reference.scope ≠ workflow.context.scope) invariantViolation
      let _ ← book.singleWorkflowApproval workflowId
      rejectIf (¬∃ command ∈ values book.commands, command.kind = .approveJoin ∧
        command.workflowId = none ∧
        command.terminalPhase = some (.committed (.alreadyMember reference))) invariantViolation
  | .rejected _ => do
      let _ ← okOr (← book.singleWorkflowApproval workflowId) invariantViolation

/-- A command observes a workflow or has an outcome of its own. -/
def validateCommand
    (entry : MembershipCommandId × StoredCommand) : Except MembershipCommandError Unit :=
  match entry.2.workflowId, entry.2.terminalPhase with
  | some workflowId, none => do
      let workflow ← okOr book.workflows[workflowId]? invariantViolation
      validateWorkflowCommand entry.1 entry.2 workflow
  | none, some phase =>
      if phase.isTerminal then validateTerminalCommand entry.2 phase
      else .error invariantViolation
  | _, _ => .error invariantViolation

/-- A workflow has the request that started it, under its replay key. -/
def validateWorkflow (entry : JoinRequestId × JoinWorkflow) :
    Except MembershipCommandError Unit := do
  rejectIf (entry.2.context.joinRequestId ≠ entry.1 ∨
    entry.2.context.actorIdentityId ≠ entry.2.context.candidateIdentityId) invariantViolation
  rejectIf (¬∃ stored ∈ book.commands.toList, stored.2.kind = .requestJoin ∧
    stored.2.workflowId = some entry.1 ∧
    stored.2.requestDigest = JoinRequestCommand.requestDigest ⟨entry.2.context⟩ ∧
    ∃ mapped ∈ book.idempotency.toList, mapped.2 = stored.1 ∧ mapped.1 = .new entry.2.context)
    invariantViolation
  book.validatePhase entry.1 entry.2

/-- Every replay key belongs to a command of its scope, and to no other key's. -/
def mappedCommands : Except MembershipCommandError (TreeSet MembershipCommandId) :=
  book.idempotency.toList.foldlM (fun mappedCommands entry => do
    let command ← okOr book.commands[entry.2]? invariantViolation
    rejectIf (entry.2 ∈ mappedCommands) invariantViolation
    let scope ← scopeForStoredCommand command book.workflows
    rejectIf (∃ expected ∈ scope, entry.1.scope ≠ expected) invariantViolation
    return mappedCommands.insert entry.2) ∅

/-- The checks on the book as a whole. -/
def validateSnapshotGraph : Except MembershipCommandError Unit := do
  let mappedCommands ← book.mappedCommands
  rejectIf (mappedCommands.size ≠ book.commands.size) invariantViolation
  book.commands.toList.forM book.validateCommand
  book.workflows.toList.forM book.validateWorkflow

end Digests

/-! ## Rehydration -/

/-- The map of workflows; each is its candidate's own. -/
def loadWorkflows (persisted : List MembershipWorkflowPersistence) :
    Except MembershipCommandError (TreeMap JoinRequestId JoinWorkflow) :=
  persisted.foldlM (fun workflows persisted => do
    rejectIf (persisted.joinRequestId ≠ persisted.context.joinRequestId ∨
      persisted.context.actorIdentityId ≠ persisted.context.candidateIdentityId ∨
      persisted.joinRequestId ∈ workflows) invariantViolation
    return workflows.insert persisted.joinRequestId
      { context := persisted.context, phase := .fromPersistence persisted.phase }) ∅

/-- The maps of commands and of replay keys, filled command by command. -/
def loadCommands (workflows : TreeMap JoinRequestId JoinWorkflow)
    (persisted : List MembershipCommandPersistence) :
    Except MembershipCommandError (TreeMap IdempotencyLookup MembershipCommandId ×
      TreeMap MembershipCommandId StoredCommand) :=
  persisted.foldlM (fun loaded persisted => do
    let scope ← scopeForCommand persisted workflows
    rejectIf (persisted.idempotency.scope ≠ scope) invariantViolation
    let lookup := IdempotencyLookup.fromPersistence persisted.idempotency
    rejectIf (lookup ∈ loaded.1 ∨ persisted.commandId ∈ loaded.2) invariantViolation
    return (loaded.1.insert lookup persisted.commandId,
      loaded.2.insert persisted.commandId persisted.stored)) (∅, ∅)

/-- Rehydrates command replay state and join workflows from durable rows. -/
def tryFromSnapshot [Sha256] (snapshot : MembershipCommandBookSnapshot) :
    Except MembershipCommandError MembershipCommandBook := do
  let workflows ← loadWorkflows snapshot.workflows
  let (idempotency, commands) ← loadCommands workflows snapshot.commands
  let book : MembershipCommandBook := { commands, idempotency, workflows }
  book.validateSnapshotGraph
  return book

end MembershipCommandBook

end Dirextalk.Membership
