import Dirextalk.Membership.BookSpec

/-!
# Runs of the command book

What one operation can do to the book, stated once, and the graph of commands,
idempotency keys and workflows that every run keeps intact.
-/

namespace Dirextalk.Membership

open Domain Dirextalk.Group Lib Wire

open MembershipCommandError

/-- A call of one of the mutating operations. -/
inductive BookOperation where
  | recordJoinRequest (command : JoinRequestCommand) (candidateMembership : CandidateMembership)
  | approveJoin (command : ApproveJoinCommand) (candidateMembership : CandidateMembership)
  | observeSequencerResolution (commandId : MembershipCommandId)
      (resolution : SequencerResolution)
  | rejectLocally (commandId : MembershipCommandId) (rejection : MembershipRejection)

/-- The command that the call is about. -/
def BookOperation.commandId : BookOperation → MembershipCommandId
  | .recordJoinRequest command _ => command.context.commandId
  | .approveJoin command _ => command.context.commandId
  | .observeSequencerResolution commandId _ | .rejectLocally commandId _ => commandId

namespace MembershipCommandBook

variable [Sha256] {book next : MembershipCommandBook}

/-- The call that an operation stands for. -/
def run (book : MembershipCommandBook) :
    BookOperation → Except MembershipCommandError MembershipReceipt × MembershipCommandBook
  | .recordJoinRequest command candidateMembership =>
      book.recordJoinRequest command candidateMembership
  | .approveJoin command candidateMembership => book.approveJoin command candidateMembership
  | .observeSequencerResolution commandId resolution =>
      book.observeSequencerResolution commandId resolution
  | .rejectLocally commandId rejection => book.rejectLocally commandId rejection

/-! ## What a call writes -/

/-- The call is for a new command, under an unused key. -/
structure NewCommand (book : MembershipCommandBook) (context : MembershipCommandContext) :
    Prop where
  fresh : context.commandId ∉ book.commands
  unused : .new context ∉ book.idempotency

/-- The commit reference of a resolution is bound to the command. -/
def Bound (workflow : JoinWorkflow) (commandId : MembershipCommandId)
    (requestDigest : Sha256Digest) : SequencerResolution → Prop
  | .committed reference => reference.scope = workflow.context.scope ∧
      reference.commandId = commandId ∧ reference.requestDigest = requestDigest
  | _ => True

/-- The writes of a call, with the checks that it has passed. -/
inductive Effect (book : MembershipCommandBook) : BookOperation → MembershipCommandBook → Prop
  | requested {command : JoinRequestCommand} (new : book.NewCommand command.context)
      (self : command.context.actorIdentityId = command.context.candidateIdentityId)
      (unknown : command.context.joinRequestId ∉ book.workflows) :
      Effect book (.recordJoinRequest command .notMember)
        { book.store command.context
            (.workflow .requestJoin command.requestDigest command.context.joinRequestId) with
          workflows := book.workflows.insert command.context.joinRequestId
            (.pending command.context) }
  | requestKnown {command : JoinRequestCommand} {reference : MembershipCommitReference}
      (new : book.NewCommand command.context)
      (sameScope : reference.scope = command.context.scope) :
      Effect book (.recordJoinRequest command (.alreadyMember reference))
        (book.store command.context
          (.terminal .requestJoin command.requestDigest (.committed (.alreadyMember reference))))
  | approved {command : ApproveJoinCommand} (new : book.NewCommand command.context)
      (workflow : JoinWorkflow)
      (found : book.workflows[command.context.joinRequestId]? = some workflow)
      (named : workflow.matches command.context = true)
      (waiting : workflow.phase = .pendingApproval) :
      Effect book (.approveJoin command .notMember)
        ((book.store command.context
          (.workflow .approveJoin command.requestDigest command.context.joinRequestId)).setPhase
            command.context.joinRequestId workflow (.pendingCommit command.context.commandId
              command.context command.authorizationDigest))
  | approveKnown {command : ApproveJoinCommand} {reference : MembershipCommitReference}
      (new : book.NewCommand command.context)
      (sameScope : reference.scope = command.context.scope) :
      Effect book (.approveJoin command (.alreadyMember reference))
        (book.store command.context
          (.terminal .approveJoin command.requestDigest (.committed (.alreadyMember reference))))
  | settled {command : ApproveJoinCommand} {reference : MembershipCommitReference}
      (new : book.NewCommand command.context) (sameScope : reference.scope = command.context.scope)
      (workflow : JoinWorkflow)
      (found : book.workflows[command.context.joinRequestId]? = some workflow)
      (named : workflow.matches command.context = true)
      (going : workflow.phase.asPublic.isTerminal = false) :
      Effect book (.approveJoin command (.alreadyMember reference))
        ((book.store command.context (.terminal .approveJoin command.requestDigest
          (.committed (.alreadyMember reference)))).setPhase command.context.joinRequestId workflow
            (.committed (.alreadyMember reference)))
  | resolved {commandId : MembershipCommandId} {resolution : SequencerResolution}
      (command : StoredCommand) (workflowId : JoinRequestId) (workflow : JoinWorkflow)
      (flight : Flight) (phase : WorkflowPhase)
      (stored : book.commands[commandId]? = some command) (approval : command.kind = .approveJoin)
      (observes : command.workflowId = some workflowId)
      (found : book.workflows[workflowId]? = some workflow)
      (flying : workflow.phase.flight = some flight) (owner : flight.commandId = commandId)
      (resolves : flight.Resolves phase resolution)
      (bound : Bound workflow commandId command.requestDigest resolution) :
      Effect book (.observeSequencerResolution commandId resolution)
        (book.setPhase workflowId workflow phase)
  | withdrawn {commandId : MembershipCommandId} {rejection : MembershipRejection}
      (command : StoredCommand) (workflowId : JoinRequestId) (workflow : JoinWorkflow)
      (stored : book.commands[commandId]? = some command) (request : command.kind = .requestJoin)
      (observes : command.workflowId = some workflowId)
      (found : book.workflows[workflowId]? = some workflow)
      (waiting : workflow.phase = .pendingApproval) :
      Effect book (.rejectLocally commandId rejection) { book with
        workflows := book.workflows.erase workflowId
        commands := book.commands.insert commandId
          (.terminal .requestJoin command.requestDigest (.rejected rejection)) }
  | declined {commandId : MembershipCommandId} {rejection : MembershipRejection}
      (command : StoredCommand) (workflowId : JoinRequestId) (workflow : JoinWorkflow)
      (context : MembershipCommandContext) (authorizationDigest : Sha256Digest)
      (stored : book.commands[commandId]? = some command) (approval : command.kind = .approveJoin)
      (observes : command.workflowId = some workflowId)
      (found : book.workflows[workflowId]? = some workflow)
      (pending : workflow.phase = .pendingCommit commandId context authorizationDigest) :
      Effect book (.rejectLocally commandId rejection)
        (book.setPhase workflowId workflow (.rejected rejection))

/-! ## The graph of commands, keys and workflows -/

/-- A command under a key of the scope: it observes a workflow of the scope, or has
a result of its own. -/
inductive CommandFits (workflows : TreeMap JoinRequestId JoinWorkflow) (scope : GroupScope) :
    StoredCommand → Prop
  | request {workflowId : JoinRequestId} {workflow : JoinWorkflow}
      (found : workflows[workflowId]? = some workflow)
      (sameScope : workflow.context.scope = scope) :
      CommandFits workflows scope (.workflow .requestJoin
        (JoinRequestCommand.requestDigest ⟨workflow.context⟩) workflowId)
  | approval {workflowId : JoinRequestId} {workflow : JoinWorkflow} {requestDigest : Sha256Digest}
      (found : workflows[workflowId]? = some workflow)
      (sameScope : workflow.context.scope = scope) :
      CommandFits workflows scope (.workflow .approveJoin requestDigest workflowId)
  | turnedDown {requestDigest : Sha256Digest} {rejection : MembershipRejection} :
      CommandFits workflows scope (.terminal .requestJoin requestDigest (.rejected rejection))
  | member {kind : CommandKind} {requestDigest : Sha256Digest}
      {reference : MembershipCommitReference} (sameScope : reference.scope = scope) :
      CommandFits workflows scope
        (.terminal kind requestDigest (.committed (.alreadyMember reference)))

/-- A phase of a workflow is backed by the approvals that were stored. -/
inductive PhaseFits (commands : TreeMap MembershipCommandId StoredCommand)
    (workflowId : JoinRequestId) (workflow : JoinWorkflow) : WorkflowPhase → Prop
  | waiting (unapproved : ∀ (commandId : MembershipCommandId) command,
        commands[commandId]? = some command → command.kind = .approveJoin →
        command.workflowId ≠ some workflowId) :
      PhaseFits commands workflowId workflow .pendingApproval
  | flying {phase : WorkflowPhase} (flight : Flight) (inFlight : phase.flight = some flight)
      (named : workflow.matches flight.context = true)
      (stored : commands[flight.commandId]? = some (.workflow .approveJoin
        (ApproveJoinCommand.requestDigest ⟨flight.context, flight.authorizationDigest⟩)
        workflowId)) :
      PhaseFits commands workflowId workflow phase
  | applied {reference : MembershipCommitReference}
      (sameScope : reference.scope = workflow.context.scope)
      (stored : commands[reference.commandId]? =
        some (.workflow .approveJoin reference.requestDigest workflowId)) :
      PhaseFits commands workflowId workflow (.committed (.applied reference))
  | member {reference : MembershipCommitReference}
      (sameScope : reference.scope = workflow.context.scope) (commandId : MembershipCommandId)
      (requestDigest : Sha256Digest)
      (stored : commands[commandId]? = some (.terminal .approveJoin requestDigest
        (.committed (.alreadyMember reference)))) :
      PhaseFits commands workflowId workflow (.committed (.alreadyMember reference))
  | rejected {rejection : MembershipRejection} (commandId : MembershipCommandId)
      (requestDigest : Sha256Digest)
      (stored : commands[commandId]? = some (.workflow .approveJoin requestDigest workflowId)) :
      PhaseFits commands workflowId workflow (.rejected rejection)

/-- A workflow was requested by its candidate, under the key of its context. -/
structure WorkflowFits (book : MembershipCommandBook) (workflowId : JoinRequestId)
    (workflow : JoinWorkflow) : Prop where
  named : workflow.context.joinRequestId = workflowId
  self : workflow.context.actorIdentityId = workflow.context.candidateIdentityId
  requested : ∃ commandId, book.idempotency[IdempotencyLookup.new workflow.context]? =
      some commandId ∧
    book.commands[commandId]? = some (.workflow .requestJoin
      (JoinRequestCommand.requestDigest ⟨workflow.context⟩) workflowId)
  phase : PhaseFits book.commands workflowId workflow workflow.phase

/-- What every run of the book keeps. -/
structure Coherent (book : MembershipCommandBook) : Prop where
  /-- Every key belongs to a command that fits its scope. -/
  mapped : ∀ (lookup : IdempotencyLookup) commandId, book.idempotency[lookup]? = some commandId →
    ∃ command, book.commands[commandId]? = some command ∧
      CommandFits book.workflows lookup.scope command
  /-- No command has two keys. -/
  distinct : DistinctBy id book.idempotency
  /-- Every command has a key. -/
  indexed : ∀ commandId ∈ book.commands,
    ∃ lookup : IdempotencyLookup, book.idempotency[lookup]? = some commandId
  /-- A workflow is observed by one request and at most one approval. -/
  single : ∀ (first second : MembershipCommandId) firstCommand secondCommand workflowId,
    book.commands[first]? = some firstCommand → book.commands[second]? = some secondCommand →
    firstCommand.workflowId = some workflowId → secondCommand.workflowId = some workflowId →
    firstCommand.kind = secondCommand.kind → first = second
  workflow : ∀ (workflowId : JoinRequestId) workflow, book.workflows[workflowId]? = some workflow →
    WorkflowFits book workflowId workflow

/-- Commands and their keys, as the fitting of a stored command. -/
theorem Coherent.fits (coherent : book.Coherent) {commandId : MembershipCommandId}
    {command : StoredCommand} (stored : book.commands[commandId]? = some command) :
    ∃ lookup : IdempotencyLookup, book.idempotency[lookup]? = some commandId ∧
      CommandFits book.workflows lookup.scope command := by
  obtain ⟨lookup, mapped⟩ := coherent.indexed commandId (mem_iff_lookup.mpr ⟨command, stored⟩)
  obtain ⟨same, storedSame, fits⟩ := coherent.mapped lookup commandId mapped
  rw [stored] at storedSame
  cases storedSame
  exact ⟨lookup, mapped, fits⟩

variable {commandId : MembershipCommandId}

theorem Coherent.receiptFor_ok (coherent : book.Coherent) (present : commandId ∈ book.commands) :
    ∃ receipt, book.receiptFor commandId = .ok receipt := by
  obtain ⟨command, stored⟩ := mem_iff_lookup.mp present
  obtain ⟨lookup, -, fits⟩ := coherent.fits stored
  cases fits with
  | request found | approval found =>
    exact ⟨_, (receiptFor_workflow stored).mpr ⟨_, by rw [phaseAt, found]; rfl, rfl⟩⟩
  | turnedDown | member =>
    exact ⟨_, by simp [receiptFor, stored, commandPhase, StoredCommand.terminal]; rfl⟩

variable {command : StoredCommand}

theorem Coherent.observed (coherent : book.Coherent) {workflowId : JoinRequestId}
    (stored : book.commands[commandId]? = some command)
    (observes : command.workflowId = some workflowId) :
    ∃ workflow, book.workflows[workflowId]? = some workflow ∧
      command = .workflow command.kind command.requestDigest workflowId := by
  obtain ⟨lookup, -, fits⟩ := coherent.fits stored
  cases fits with
  | request found | approval found =>
    cases observes
    exact ⟨_, found, rfl⟩
  | turnedDown | member => cases observes

theorem Coherent.new : (MembershipCommandBook.new).Coherent where
  mapped := by simp [MembershipCommandBook.new]
  distinct := by intro _ _ _ _ found; simp [MembershipCommandBook.new] at found
  indexed := by simp [MembershipCommandBook.new]
  single := by simp [MembershipCommandBook.new]
  workflow := by simp [MembershipCommandBook.new]

/-! ## Decisions -/

/-- The receipt is one that a call can answer with when it writes nothing. -/
def Answers (book : MembershipCommandBook) (receipt : MembershipReceipt) : BookOperation → Prop
  | .recordJoinRequest command _ =>
      book.existingOrConflict command.context.commandId command.requestDigest
        (.new command.context) = .ok (some receipt)
  | .approveJoin command _ =>
      book.existingOrConflict command.context.commandId command.requestDigest
        (.new command.context) = .ok (some receipt)
  | .observeSequencerResolution commandId resolution =>
      book.receiptFor commandId = .ok receipt ∧ resolution ≠ .absent ∧ resolution ≠ .unknown
  | .rejectLocally _ _ => False

/-- A call ends with a decision, whose writes have the effect of the operation and
which is never an internal inconsistency. -/
structure Decided (book : MembershipCommandBook) (operation : BookOperation)
    (decision : Except MembershipCommandError Decision) : Prop where
  run_eq : book.run operation = conclude book operation.commandId decision
  answers : ∀ receipt, decision = .ok (.answer receipt) → Answers book receipt operation
  effect : ∀ next, decision = .ok (.write next) → Effect book operation next
  avoids : book.Coherent → Avoids invariantViolation decision

theorem Coherent.existingOrConflict_avoids (coherent : book.Coherent)
    (commandId : MembershipCommandId) (requestDigest : Sha256Digest)
    (lookup : IdempotencyLookup) :
    Avoids invariantViolation (book.existingOrConflict commandId requestDigest lookup) := by
  have answers : ∀ answered ∈ book.commands,
      Avoids invariantViolation (do return some (← book.receiptFor answered)) := by
    intro answered present
    obtain ⟨receipt, found⟩ := coherent.receiptFor_ok present
    rw [found]
    exact avoids_ok _
  unfold existingOrConflict
  split
  next existing found =>
    apply avoids_bind (avoids_rejectIf (by decide))
    intro _ _
    exact answers commandId (mem_iff_lookup.mpr ⟨existing, found⟩)
  next =>
    split
    next existingId mapped =>
      obtain ⟨existing, found, -⟩ := coherent.mapped lookup existingId mapped
      rw [found]
      apply avoids_bind (avoids_rejectIf (by decide))
      intro _ _
      exact answers existingId (mem_iff_lookup.mpr ⟨existing, found⟩)
    next => exact avoids_ok none

theorem recordJoinRequest_decided (command : JoinRequestCommand)
    (candidateMembership : CandidateMembership) :
    ∃ decision, Decided book (.recordJoinRequest command candidateMembership) decision := by
  refine ⟨_, rfl, fun receipt decided => ?_, fun next decided => ?_, fun coherent => ?_⟩
  · rw [bind_eq_ok] at decided
    obtain ⟨existing | replay, checked, decided⟩ := decided
    · simp only [bind_eq_ok, rejectIf_eq_ok, exists_const] at decided
      obtain ⟨-, decided⟩ := decided
      cases candidateMembership <;>
        simp only [bind_eq_ok, rejectIf_eq_ok, exists_const, pure_eq_ok, reduceCtorEq,
          and_false] at decided
    · cases decided
      exact checked
  · rw [bind_eq_ok] at decided
    obtain ⟨existing | receipt, checked, decided⟩ := decided
    · obtain ⟨fresh, unused⟩ := existingOrConflict_eq_none.mp checked
      simp only [bind_eq_ok, rejectIf_eq_ok, exists_const, ne_eq, not_not] at decided
      obtain ⟨self, decided⟩ := decided
      cases candidateMembership with
      | alreadyMember reference =>
        simp only [bind_eq_ok, rejectIf_eq_ok, exists_const, pure_eq_ok, Decision.write.injEq,
          not_not] at decided
        obtain ⟨sameScope, rfl⟩ := decided
        exact .requestKnown ⟨fresh, unused⟩ sameScope
      | notMember =>
        simp only [bind_eq_ok, rejectIf_eq_ok, exists_const, pure_eq_ok,
          Decision.write.injEq] at decided
        obtain ⟨unknown, rfl⟩ := decided
        exact .requested ⟨fresh, unused⟩ self unknown
    · cases decided
  · apply avoids_bind (coherent.existingOrConflict_avoids _ _ _)
    intro existing _
    cases existing with
    | some receipt => exact avoids_ok _
    | none =>
      apply avoids_bind (avoids_rejectIf (by decide))
      intro _ _
      cases candidateMembership with
      | alreadyMember reference =>
        exact avoids_bind (avoids_rejectIf (by decide)) fun _ _ => avoids_ok _
      | notMember => exact avoids_bind (avoids_rejectIf (by decide)) fun _ _ => avoids_ok _

theorem approveJoin_decided (command : ApproveJoinCommand)
    (candidateMembership : CandidateMembership) :
    ∃ decision, Decided book (.approveJoin command candidateMembership) decision := by
  refine ⟨_, rfl, fun receipt decided => ?_, fun next decided => ?_, fun coherent => ?_⟩
  · rw [bind_eq_ok] at decided
    obtain ⟨existing | replay, checked, decided⟩ := decided
    · simp only [bind_eq_ok, rejectIf_eq_ok, exists_const, okOr_eq_ok] at decided
      obtain ⟨workflow, -, -, decided⟩ := decided
      cases candidateMembership with
      | alreadyMember reference =>
        simp only [bind_eq_ok, rejectIf_eq_ok, exists_const] at decided
        obtain ⟨-, decided⟩ := decided
        split at decided <;> cases decided
      | notMember =>
        simp only at decided
        split at decided <;> cases decided
    · cases decided
      exact checked
  · rw [bind_eq_ok] at decided
    obtain ⟨existing | receipt, checked, decided⟩ := decided
    · obtain ⟨fresh, unused⟩ := existingOrConflict_eq_none.mp checked
      simp only [bind_eq_ok, rejectIf_eq_ok, exists_const, okOr_eq_ok, Bool.not_eq_false] at decided
      obtain ⟨workflow, found, named, decided⟩ := decided
      cases candidateMembership with
      | alreadyMember reference =>
        simp only [bind_eq_ok, rejectIf_eq_ok, exists_const, ne_eq, not_not] at decided
        obtain ⟨sameScope, decided⟩ := decided
        split at decided
        case h_4 | h_5 =>
          cases decided
          exact .approveKnown ⟨fresh, unused⟩ sameScope
        all_goals
          cases decided
          exact .settled ⟨fresh, unused⟩ sameScope workflow found named (by simp only [*]; rfl)
      | notMember =>
        simp only at decided
        split at decided
        next waiting =>
          cases decided
          exact .approved ⟨fresh, unused⟩ workflow found named waiting
        all_goals cases decided
    · cases decided
  · apply avoids_bind (coherent.existingOrConflict_avoids _ _ _)
    intro existing _
    cases existing with
    | some receipt => exact avoids_ok _
    | none =>
      apply avoids_bind (avoids_okOr (by decide))
      intro workflow _
      apply avoids_bind (avoids_rejectIf (by decide))
      intro _ _
      cases candidateMembership with
      | alreadyMember reference =>
        apply avoids_bind (avoids_rejectIf (by decide))
        intro _ _
        split <;> exact avoids_ok _
      | notMember =>
        simp only
        split
        · exact avoids_ok _
        all_goals exact avoids_error (by decide)

omit [Sha256] in
theorem bound_of_resolvedPhase {workflow : JoinWorkflow} {context : MembershipCommandContext}
    {authorizationDigest : Sha256Digest} {reconciling : Bool} {resolution : SequencerResolution}
    {phase : WorkflowPhase}
    (resolved : resolvedPhase workflow command commandId context authorizationDigest reconciling
      resolution = .ok phase) : Bound workflow commandId command.requestDigest resolution := by
  cases resolution with
  | committed reference =>
    simp only [resolvedPhase, validateCommitReference, bind_eq_ok, rejectIf_eq_ok, exists_const,
      not_not] at resolved
    exact resolved.1
  | _ => trivial

omit [Sha256] in
theorem resolvedPhase_avoids {workflow : JoinWorkflow} {context : MembershipCommandContext}
    {authorizationDigest : Sha256Digest} {reconciling : Bool} {resolution : SequencerResolution} :
    Avoids invariantViolation (resolvedPhase workflow command commandId context
      authorizationDigest reconciling resolution) := by
  cases resolution with
  | committed reference => exact avoids_bind (avoids_rejectIf (by decide)) fun _ _ => avoids_ok _
  | absent =>
    simp only [resolvedPhase]
    split
    · exact avoids_ok _
    · exact avoids_error (by decide)
  | rejected rejection | unknown => exact avoids_ok _

theorem observeSequencerResolution_decided (commandId : MembershipCommandId)
    (resolution : SequencerResolution) :
    ∃ decision, Decided book (.observeSequencerResolution commandId resolution) decision := by
  refine ⟨_, rfl, fun receipt decided => ?_, fun next decided => ?_, fun coherent => ?_⟩
  · simp only [bind_eq_ok, okOr_eq_ok, rejectIf_eq_ok, exists_const] at decided
    obtain ⟨command, -, -, workflowId, -, workflow, -, decided⟩ := decided
    split at decided
    case h_1 | h_2 =>
      simp only [bind_eq_ok, rejectIf_eq_ok, pure_eq_ok, reduceCtorEq, and_false,
        exists_false] at decided
    case h_3 | h_4 =>
      split at decided
      next same =>
        simp only [bind_eq_ok, pure_eq_ok, Decision.answer.injEq] at decided
        obtain ⟨_, answered, rfl⟩ := decided
        subst same
        refine ⟨answered, ?_, ?_⟩
        · intro impossible
          cases impossible
        · intro impossible
          cases impossible
      next => cases decided
    case h_5 => cases decided
  · simp only [bind_eq_ok, okOr_eq_ok, rejectIf_eq_ok, exists_const, ne_eq, not_not] at decided
    obtain ⟨command, stored, approval, workflowId, observes, workflow, found, decided⟩ := decided
    split at decided
    next approvalCommandId context authorizationDigest phase =>
      simp only [bind_eq_ok, rejectIf_eq_ok, exists_const, not_not, pure_eq_ok,
        Decision.write.injEq] at decided
      obtain ⟨rfl, after, resolved, rfl⟩ := decided
      exact .resolved command workflowId workflow
        ⟨approvalCommandId, context, authorizationDigest, .submitting⟩ after stored approval
        observes found (by rw [phase]; rfl) rfl (resolves_of_resolvedPhase resolved)
        (bound_of_resolvedPhase resolved)
    next approvalCommandId context authorizationDigest phase =>
      simp only [bind_eq_ok, rejectIf_eq_ok, exists_const, not_not, pure_eq_ok,
        Decision.write.injEq] at decided
      obtain ⟨rfl, after, resolved, rfl⟩ := decided
      exact .resolved command workflowId workflow
        ⟨approvalCommandId, context, authorizationDigest, .reconciling⟩ after stored approval
        observes found (by rw [phase]; rfl) rfl (resolves_of_resolvedPhase resolved)
        (bound_of_resolvedPhase resolved)
    case h_3 | h_4 =>
      split at decided
      · simp only [bind_eq_ok, pure_eq_ok, reduceCtorEq, and_false, exists_false] at decided
      · cases decided
    next => cases decided
  · apply avoids_bind (avoids_okOr (by decide))
    intro command stored
    rw [okOr_eq_ok] at stored
    apply avoids_bind (avoids_rejectIf (by decide))
    intro _ _
    apply avoids_bind (avoids_okOr (by decide))
    intro workflowId observes
    obtain ⟨workflow, found, -⟩ := coherent.observed stored (okOr_eq_ok.mp observes)
    obtain ⟨receipt, answered⟩ := coherent.receiptFor_ok (mem_iff_lookup.mpr ⟨command, stored⟩)
    simp only [found, okOr_some, ok_bind, answered]
    split
    case h_1 | h_2 =>
      apply avoids_bind (avoids_rejectIf (by decide))
      intro _ _
      exact avoids_bind resolvedPhase_avoids fun _ _ => avoids_ok _
    case h_3 | h_4 =>
      split
      · exact avoids_ok _
      · exact avoids_error (by decide)
    case h_5 => exact avoids_error (by decide)

theorem rejectLocally_decided (commandId : MembershipCommandId)
    (rejection : MembershipRejection) :
    ∃ decision, Decided book (.rejectLocally commandId rejection) decision := by
  refine ⟨_, rfl, fun receipt decided => ?_, fun next decided => ?_, fun coherent => ?_⟩
  · simp only [bind_eq_ok, okOr_eq_ok] at decided
    obtain ⟨command, -, workflowId, -, workflow, -, decided⟩ := decided
    split at decided
    · cases decided
    · simp only [bind_eq_ok, rejectIf_eq_ok, pure_eq_ok, reduceCtorEq, and_false,
        exists_false] at decided
    · cases decided
  · simp only [bind_eq_ok, okOr_eq_ok] at decided
    obtain ⟨command, stored, workflowId, observes, workflow, found, decided⟩ := decided
    split at decided
    next request waiting =>
      cases decided
      exact .withdrawn command workflowId workflow stored request observes found waiting
    next approvalCommandId context authorizationDigest approval pending =>
      simp only [bind_eq_ok, rejectIf_eq_ok, exists_const, ne_eq, not_not, pure_eq_ok,
        Decision.write.injEq] at decided
      obtain ⟨rfl, rfl⟩ := decided
      exact .declined command workflowId workflow context authorizationDigest stored approval
        observes found pending
    next => cases decided
  · apply avoids_bind (avoids_okOr (by decide))
    intro command stored
    rw [okOr_eq_ok] at stored
    apply avoids_bind (avoids_okOr (by decide))
    intro workflowId observes
    obtain ⟨workflow, found, -⟩ := coherent.observed stored (okOr_eq_ok.mp observes)
    simp only [found, okOr_some, ok_bind]
    split
    · exact avoids_ok _
    · exact avoids_bind (avoids_rejectIf (by decide)) fun _ _ => avoids_ok _
    · exact avoids_error (by decide)

theorem run_decided (book : MembershipCommandBook) (operation : BookOperation) :
    ∃ decision, Decided book operation decision := by
  cases operation with
  | recordJoinRequest command membership => exact recordJoinRequest_decided command membership
  | approveJoin command membership => exact approveJoin_decided command membership
  | observeSequencerResolution commandId resolution =>
    exact observeSequencerResolution_decided commandId resolution
  | rejectLocally commandId rejection => exact rejectLocally_decided commandId rejection

end MembershipCommandBook

end Dirextalk.Membership
