import Dirextalk.Membership.Runs

/-!
# The graph of the command book along runs

Each write keeps the graph of commands, keys and workflows intact, so every book
of a run has it, and no operation ever meets an inconsistency.
-/

namespace Dirextalk.Membership

open Domain Dirextalk.Group Lib Wire

open MembershipCommandError

namespace MembershipCommandBook

variable [Sha256] {book next : MembershipCommandBook}

/-! ## Writes keep the graph intact -/

variable {command : StoredCommand} {operation : BookOperation} {workflow : JoinWorkflow}
  {workflows : TreeMap JoinRequestId JoinWorkflow}

theorem CommandFits.keep {after : TreeMap JoinRequestId JoinWorkflow} {scope : GroupScope}
    (fits : CommandFits workflows scope command)
    (kept : ∀ (workflowId : JoinRequestId) workflow, command.workflowId = some workflowId →
      workflows[workflowId]? = some workflow →
      ∃ same, after[workflowId]? = some same ∧ same.context = workflow.context) :
    CommandFits after scope command := by
  cases fits with
  | request found sameScope =>
    obtain ⟨same, foundSame, context⟩ := kept _ _ rfl found
    rw [← context] at sameScope ⊢
    exact .request foundSame sameScope
  | approval found sameScope =>
    obtain ⟨same, foundSame, context⟩ := kept _ _ rfl found
    rw [← context] at sameScope
    exact .approval foundSame sameScope
  | turnedDown => exact .turnedDown
  | member sameScope => exact .member sameScope

variable {workflow : JoinWorkflow} {workflowId : JoinRequestId} {phase : WorkflowPhase}

/-- The approvals of a workflow are all that its phase rests on. -/
theorem PhaseFits.keep {commands after : TreeMap MembershipCommandId StoredCommand}
    (fits : PhaseFits commands workflowId workflow phase)
    (kept : ∀ (commandId : MembershipCommandId) command, commands[commandId]? = some command →
      command.kind = .approveJoin → after[commandId]? = some command)
    (added : ∀ (commandId : MembershipCommandId) command, after[commandId]? = some command →
      command.kind = .approveJoin → command.workflowId = some workflowId →
      commands[commandId]? = some command) : PhaseFits after workflowId workflow phase := by
  cases fits with
  | waiting unapproved =>
    apply PhaseFits.waiting
    intro commandId command stored approval observes
    exact unapproved commandId command (added commandId command stored approval observes)
      approval observes
  | flying flight inFlight named stored => exact .flying flight inFlight named (kept _ _ stored rfl)
  | applied sameScope stored => exact .applied sameScope (kept _ _ stored rfl)
  | member sameScope commandId requestDigest stored =>
    exact .member sameScope commandId requestDigest (kept _ _ stored rfl)
  | rejected commandId requestDigest stored =>
    exact .rejected commandId requestDigest (kept _ _ stored rfl)

theorem PhaseFits.of_context {commands : TreeMap MembershipCommandId StoredCommand}
    {other : JoinWorkflow} (fits : PhaseFits commands workflowId workflow phase)
    (same : other.context = workflow.context) : PhaseFits commands workflowId other phase := by
  cases fits with
  | waiting unapproved => exact .waiting unapproved
  | flying flight inFlight named stored =>
    refine .flying flight inFlight ?_ stored
    rwa [JoinWorkflow.matches, same]
  | applied sameScope stored => exact .applied (same ▸ sameScope) stored
  | member sameScope commandId requestDigest stored =>
    exact .member (same ▸ sameScope) commandId requestDigest stored
  | rejected commandId requestDigest stored => exact .rejected commandId requestDigest stored

theorem WorkflowFits.keep (fits : WorkflowFits book workflowId workflow)
    (lookups : ∀ (lookup : IdempotencyLookup) commandId,
      book.idempotency[lookup]? = some commandId → next.idempotency[lookup]? = some commandId)
    (kept : ∀ (commandId : MembershipCommandId) command, book.commands[commandId]? = some command →
      command.kind = .approveJoin ∨ command.workflowId = some workflowId →
      next.commands[commandId]? = some command)
    (added : ∀ (commandId : MembershipCommandId) command,
      next.commands[commandId]? = some command → command.kind = .approveJoin →
      command.workflowId = some workflowId → book.commands[commandId]? = some command) :
    WorkflowFits next workflowId workflow := by
  obtain ⟨named, self, ⟨commandId, mapped, stored⟩, phase⟩ := fits
  refine ⟨named, self, ⟨commandId, lookups _ _ mapped, kept _ _ stored (.inr rfl)⟩, ?_⟩
  exact phase.keep (fun commandId command found approval => kept _ _ found (.inl approval)) added

variable {context : MembershipCommandContext}

/-- Adding a command under a new key, with workflows that keep their contexts. -/
theorem Coherent.addCommand (coherent : book.Coherent) (new : book.NewCommand context)
    (fits : CommandFits workflows context.scope command)
    (kept : ∀ (workflowId : JoinRequestId) workflow, book.workflows[workflowId]? = some workflow →
      ∃ same, workflows[workflowId]? = some same ∧ same.context = workflow.context)
    (alone : ∀ (commandId : MembershipCommandId) stored workflowId,
      book.commands[commandId]? = some stored → stored.workflowId = some workflowId →
      command.workflowId = some workflowId → stored.kind ≠ command.kind)
    (workflow : ∀ (workflowId : JoinRequestId) workflow, workflows[workflowId]? = some workflow →
      WorkflowFits { book.store context command with workflows } workflowId workflow) :
    Coherent { book.store context command with workflows } where
  mapped := by
    intro lookup commandId mapped
    simp only [store, lookup_insert] at mapped ⊢
    split at mapped
    next same =>
      cases mapped
      rw [if_pos rfl, same]
      exact ⟨command, rfl, fits⟩
    next =>
      obtain ⟨stored, found, storedFits⟩ := coherent.mapped lookup commandId mapped
      rw [if_neg (key_ne_of_fresh found new.fresh)]
      exact ⟨stored, found, storedFits.keep fun workflowId workflow _ => kept workflowId workflow⟩
  distinct := by
    apply coherent.distinct.insert
    intro lookup commandId mapped same
    obtain ⟨stored, found, -⟩ := coherent.mapped lookup commandId mapped
    exact key_ne_of_fresh found new.fresh same
  indexed := by
    intro commandId present
    rcases mem_insert_key.mp present with rfl | old
    · exact ⟨_, lookup_insert_self _ _ _⟩
    · obtain ⟨lookup, mapped⟩ := coherent.indexed commandId old
      refine ⟨lookup, ?_⟩
      simp only [store, lookup_insert, if_neg (key_ne_of_fresh mapped new.unused), mapped]
  single := by
    intro first second firstCommand secondCommand workflowId firstStored secondStored
      firstObserves secondObserves sameKind
    simp only [store, lookup_insert] at firstStored secondStored
    split at firstStored <;> split at secondStored
    · rw [‹first = _›, ‹second = _›]
    · cases firstStored
      exact absurd sameKind.symm
        (alone second secondCommand workflowId secondStored secondObserves firstObserves)
    · cases secondStored
      exact absurd sameKind
        (alone first firstCommand workflowId firstStored firstObserves secondObserves)
    · exact coherent.single first second firstCommand secondCommand workflowId firstStored
        secondStored firstObserves secondObserves sameKind
  workflow := workflow

/-- Other workflows do not notice a new command. -/
theorem WorkflowFits.addCommand (new : book.NewCommand context)
    (fits : WorkflowFits book workflowId workflow)
    (other : command.kind = .approveJoin → command.workflowId ≠ some workflowId) :
    WorkflowFits { book.store context command with workflows } workflowId workflow := by
  apply fits.keep
  · intro lookup commandId mapped
    simp only [store, lookup_insert, if_neg (key_ne_of_fresh mapped new.unused), mapped]
  · intro commandId stored found _
    simp only [store, lookup_insert, if_neg (key_ne_of_fresh found new.fresh), found]
  · intro commandId stored found approval observes
    simp only [store, lookup_insert] at found
    split at found
    · cases found
      exact absurd observes (other approval)
    · exact found

/-- Moving a workflow to a phase that fits. -/
theorem Coherent.setPhase (coherent : book.Coherent)
    (found : book.workflows[workflowId]? = some workflow)
    (fits : PhaseFits book.commands workflowId workflow phase) :
    (book.setPhase workflowId workflow phase).Coherent where
  mapped := by
    intro lookup commandId mapped
    obtain ⟨command, stored, commandFits⟩ := coherent.mapped lookup commandId mapped
    refine ⟨command, stored, commandFits.keep fun other kept _ present => ?_⟩
    rw [MembershipCommandBook.setPhase, lookup_insert]
    split
    next same =>
      rw [same, found] at present
      cases present
      exact ⟨_, rfl, rfl⟩
    next => exact ⟨kept, present, rfl⟩
  distinct := coherent.distinct
  indexed := coherent.indexed
  single := coherent.single
  workflow := by
    intro other kept present
    simp only [MembershipCommandBook.setPhase, lookup_insert] at present
    split at present
    next same =>
      cases present
      obtain ⟨named, self, requested, -⟩ := coherent.workflow workflowId workflow found
      rw [same]
      exact ⟨named, self, requested, fits.of_context rfl⟩
    next =>
      obtain ⟨named, self, requested, phaseFits⟩ := coherent.workflow other kept present
      exact ⟨named, self, requested, phaseFits⟩

/-- A workflow that waits for approval has none. -/
theorem Coherent.unapproved (coherent : book.Coherent) {workflowId : JoinRequestId}
    (found : book.workflows[workflowId]? = some workflow)
    (waiting : workflow.phase = .pendingApproval) {commandId : MembershipCommandId}
    {command : StoredCommand} (stored : book.commands[commandId]? = some command)
    (approval : command.kind = .approveJoin) : command.workflowId ≠ some workflowId := by
  have fits := (coherent.workflow workflowId workflow found).phase
  rw [waiting] at fits
  cases fits with
  | waiting unapproved => exact unapproved commandId command stored approval
  | flying flight inFlight => cases inFlight

/-- Rejecting a request that waits takes its workflow away. -/
theorem Coherent.withdraw (coherent : book.Coherent) {commandId : MembershipCommandId}
    (stored : book.commands[commandId]? = some command) (request : command.kind = .requestJoin)
    (observes : command.workflowId = some workflowId)
    (found : book.workflows[workflowId]? = some workflow)
    (waiting : workflow.phase = .pendingApproval) (rejection : MembershipRejection) :
    Coherent { book with
      workflows := book.workflows.erase workflowId
      commands := book.commands.insert commandId
        (.terminal .requestJoin command.requestDigest (.rejected rejection)) } := by
  -- nothing else observes the workflow
  have alone : ∀ (other : MembershipCommandId) kept, book.commands[other]? = some kept →
      kept.workflowId = some workflowId → other = commandId := by
    intro other kept present watches
    cases kind : kept.kind with
    | requestJoin =>
      exact coherent.single other commandId kept command workflowId present stored watches
        observes (kind.trans request.symm)
    | approveJoin => exact absurd watches (coherent.unapproved found waiting present kind)
  constructor
  case mapped =>
    intro lookup other mapped
    obtain ⟨kept, present, fits⟩ := coherent.mapped lookup other mapped
    rw [lookup_insert]
    split
    · exact ⟨_, rfl, .turnedDown⟩
    next distinct =>
      refine ⟨kept, present, fits.keep fun watched other watches present => ?_⟩
      rw [lookup_erase, if_neg]
      · exact ⟨other, present, rfl⟩
      · rintro rfl
        exact distinct (alone _ _ ‹_› watches)
  case distinct => exact coherent.distinct
  case indexed =>
    intro other present
    rcases mem_insert_key.mp present with rfl | old
    · exact coherent.indexed _ (mem_iff_lookup.mpr ⟨command, stored⟩)
    · exact coherent.indexed other old
  case single =>
    intro first second firstCommand secondCommand watched firstStored secondStored
      firstObserves secondObserves sameKind
    rw [lookup_insert] at firstStored secondStored
    split at firstStored
    · cases firstStored
      cases firstObserves
    · split at secondStored
      · cases secondStored
        cases secondObserves
      · exact coherent.single first second firstCommand secondCommand watched firstStored
          secondStored firstObserves secondObserves sameKind
  case workflow =>
    intro watched kept present
    rw [lookup_erase] at present
    split at present
    · cases present
    next distinct =>
      apply (coherent.workflow watched kept present).keep
      · exact fun _ _ mapped => mapped
      · intro other held heldStored needed
        rw [lookup_insert, if_neg]
        · exact heldStored
        · rintro rfl
          rw [stored] at heldStored
          cases heldStored
          rcases needed with approval | watches
          · rw [request] at approval
            cases approval
          · rw [observes] at watches
            exact distinct (Option.some.inj watches).symm
      · intro other held heldStored approval _
        rw [lookup_insert] at heldStored
        split at heldStored
        · cases heldStored
          cases approval
        · exact heldStored

omit [Sha256] in
theorem scope_of_matches (named : workflow.matches context = true) :
    workflow.context.scope = context.scope := by
  simp only [JoinWorkflow.matches, decide_eq_true_eq] at named
  exact named.1

/-- The approval that owns a commit in flight. -/
theorem Coherent.flying (coherent : book.Coherent) {workflowId : JoinRequestId} {flight : Flight}
    (found : book.workflows[workflowId]? = some workflow)
    (inFlight : workflow.phase.flight = some flight) :
    workflow.matches flight.context = true ∧
      book.commands[flight.commandId]? = some (.workflow .approveJoin
        (ApproveJoinCommand.requestDigest ⟨flight.context, flight.authorizationDigest⟩)
        workflowId) := by
  have fits := (coherent.workflow workflowId workflow found).phase
  generalize workflow.phase = phase at fits inFlight
  cases fits with
  | flying same sameFlight named stored =>
    rw [inFlight] at sameFlight
    cases sameFlight
    exact ⟨named, stored⟩
  | _ => cases inFlight

theorem Coherent.addTerminal (coherent : book.Coherent) (new : book.NewCommand context)
    {kind : CommandKind} {requestDigest : Sha256Digest} {reference : MembershipCommitReference}
    (sameScope : reference.scope = context.scope) :
    (book.store context (.terminal kind requestDigest
      (.committed (.alreadyMember reference)))).Coherent := by
  apply coherent.addCommand new (.member sameScope)
  · intro workflowId workflow found
    exact ⟨workflow, found, rfl⟩
  · intro commandId stored workflowId _ _ observes
    cases observes
  · intro workflowId workflow found
    exact (coherent.workflow workflowId workflow found).addCommand new nofun

theorem Coherent.addRequest (coherent : book.Coherent) {command : JoinRequestCommand}
    (new : book.NewCommand command.context)
    (self : command.context.actorIdentityId = command.context.candidateIdentityId)
    (unknown : command.context.joinRequestId ∉ book.workflows) :
    Coherent { book.store command.context
        (.workflow .requestJoin command.requestDigest command.context.joinRequestId) with
      workflows := book.workflows.insert command.context.joinRequestId
        (.pending command.context) } := by
  -- no command observes a workflow that does not exist
  have unobserved : ∀ (commandId : MembershipCommandId) stored,
      book.commands[commandId]? = some stored →
      stored.workflowId ≠ some command.context.joinRequestId := by
    intro commandId stored present observes
    obtain ⟨workflow, found, -⟩ := coherent.observed present observes
    exact unknown (mem_iff_lookup.mpr ⟨workflow, found⟩)
  have requested := lookup_insert_self book.workflows command.context.joinRequestId
    (.pending command.context)
  apply coherent.addCommand new
  · exact .request requested rfl
  · intro workflowId workflow found
    rw [lookup_insert, if_neg (key_ne_of_fresh found unknown)]
    exact ⟨workflow, found, rfl⟩
  · intro commandId stored workflowId present observes same
    cases same
    exact absurd observes (unobserved commandId stored present)
  · intro workflowId workflow found
    rw [lookup_insert] at found
    split at found
    next same =>
      cases found
      subst same
      refine ⟨rfl, self, ⟨command.context.commandId, ?_, ?_⟩, .waiting ?_⟩
      · exact lookup_insert_self _ _ _
      · exact lookup_insert_self _ _ _
      · intro commandId stored present approval
        simp only [store, lookup_insert] at present
        split at present
        · cases present
          cases approval
        · exact unobserved commandId stored present
    next =>
      apply (coherent.workflow workflowId workflow found).addCommand new
      intro impossible
      cases impossible

theorem Coherent.addApproval (coherent : book.Coherent) {command : ApproveJoinCommand}
    (new : book.NewCommand command.context)
    (found : book.workflows[command.context.joinRequestId]? = some workflow)
    (named : workflow.matches command.context = true) (waiting : workflow.phase = .pendingApproval)
    :
    ((book.store command.context
      (.workflow .approveJoin command.requestDigest command.context.joinRequestId)).setPhase
        command.context.joinRequestId workflow (.pendingCommit command.context.commandId
          command.context command.authorizationDigest)).Coherent := by
  apply coherent.addCommand new
  · exact .approval (lookup_insert_self _ _ _) (scope_of_matches named)
  · intro workflowId kept present
    simp only [store, lookup_insert]
    split
    next same =>
      rw [same, found] at present
      cases present
      exact ⟨_, rfl, rfl⟩
    next => exact ⟨kept, present, rfl⟩
  · intro commandId stored workflowId present observes same approval
    cases same
    exact coherent.unapproved found waiting present approval observes
  · intro workflowId kept present
    simp only [store, lookup_insert] at present
    split at present
    next same =>
      cases present
      subst same
      obtain ⟨namedSelf, self, ⟨requestId, mapped, stored⟩, -⟩ :=
        coherent.workflow _ workflow found
      refine ⟨namedSelf, self, ⟨requestId, ?_, ?_⟩, ?_⟩
      · simp only [store, lookup_insert, if_neg (key_ne_of_fresh mapped new.unused), mapped]
      · simp only [store, lookup_insert, if_neg (key_ne_of_fresh stored new.fresh), stored]
      · exact .flying ⟨_, _, _, .submitting⟩ rfl named (lookup_insert_self _ _ _)
    next distinct =>
      exact (coherent.workflow workflowId kept present).addCommand new
        fun _ same => distinct (Option.some.inj same).symm

/-- Every write keeps the graph intact. -/
theorem Coherent.effect (coherent : book.Coherent) (effect : Effect book operation next) :
    next.Coherent := by
  cases effect with
  | requested new self unknown => exact coherent.addRequest new self unknown
  | requestKnown new sameScope | approveKnown new sameScope =>
    exact coherent.addTerminal new sameScope
  | approved new workflow found named waiting => exact coherent.addApproval new found named waiting
  | settled new sameScope workflow found named going =>
    apply (coherent.addTerminal new sameScope).setPhase found
    exact .member (sameScope.trans (scope_of_matches named).symm) _ _ (lookup_insert_self _ _ _)
  | @resolved _ resolution command workflowId workflow flight phase stored approval observes found
      flying owner resolves bound =>
      subst owner
      obtain ⟨named, owned⟩ := coherent.flying found flying
      apply coherent.setPhase found
      cases resolution with
      | unknown => exact .flying _ resolves named owned
      | absent => exact .flying _ resolves.2 named owned
      | rejected rejection =>
        cases resolves
        exact .rejected _ _ owned
      | committed reference =>
        cases resolves
        obtain ⟨sameScope, sameCommand, sameDigest⟩ := bound
        refine .applied sameScope ?_
        rw [stored] at owned
        cases owned
        rw [sameCommand, sameDigest]
        exact stored
  | withdrawn command workflowId workflow stored request observes found waiting =>
    exact coherent.withdraw stored request observes found waiting _
  | declined command workflowId workflow context authorizationDigest stored approval observes found
      pending =>
      have owned := (coherent.flying found (by rw [pending]; rfl)).2
      exact coherent.setPhase found (.rejected _ _ owned)

/-! ## Runs -/

/-- A call leaves the book as it is, or has the effect of its operation. -/
theorem run_cases (book : MembershipCommandBook) (operation : BookOperation) :
    (book.run operation).2 = book ∨ Effect book operation (book.run operation).2 := by
  obtain ⟨decision, decided⟩ := book.run_decided operation
  rw [decided.run_eq]
  rcases decision with error | receipt | written
  · exact .inl rfl
  · exact .inl rfl
  · exact .inr (decided.effect written rfl)

theorem Coherent.run (coherent : book.Coherent) (operation : BookOperation) :
    (book.run operation).2.Coherent := by
  rcases book.run_cases operation with same | effect
  · rw [same]
    exact coherent
  · exact coherent.effect effect

/-- The command of a write is stored afterwards. -/
theorem Effect.stores (effect : Effect book operation next) :
    operation.commandId ∈ next.commands := by
  cases effect with
  | resolved command _ _ _ _ stored => exact mem_iff_lookup.mpr ⟨command, stored⟩
  | declined command _ _ _ _ stored => exact mem_iff_lookup.mpr ⟨command, stored⟩
  | _ => exact mem_insert_key.mpr (.inl rfl)

/-- A rejected call leaves the book as it is, and is no internal inconsistency. -/
theorem Coherent.run_rejected (coherent : book.Coherent) {error : MembershipCommandError}
    (rejected : book.run operation = (.error error, next)) :
    next = book ∧ error ≠ invariantViolation := by
  obtain ⟨decision, decided⟩ := book.run_decided operation
  rw [decided.run_eq] at rejected
  rcases decision with found | receipt | written
  · cases rejected
    exact ⟨rfl, fun same => decided.avoids coherent (congrArg _ same)⟩
  · cases rejected
  · have effect := decided.effect written rfl
    obtain ⟨receipt, answered⟩ := (coherent.effect effect).receiptFor_ok effect.stores
    simp only [conclude, answered, Prod.mk.injEq, reduceCtorEq, false_and] at rejected

end MembershipCommandBook

/-- A new book. -/
def Opened (book : MembershipCommandBook) : Prop := book = .new

/-- A call of an operation, accepted or not. -/
def BookCall [Sha256] (book : MembershipCommandBook) (operation : BookOperation)
    (next : MembershipCommandBook) : Prop :=
  (book.run operation).2 = next

theorem book_coherent [Sha256] {book : MembershipCommandBook}
    (reached : Reached Opened BookCall book) : book.Coherent := by
  apply reached.invariant MembershipCommandBook.Coherent
  · intro book opened
    cases opened
    exact .new
  · intro book operation next coherent called
    cases called
    exact coherent.run operation

/-! ## A sample run -/

section Sample

/-- A hash for runs on fixed inputs. -/
abbrev flatSha256 : Sha256 := ⟨fun _ => taggedBytes 0⟩

/-- A command on the join that candidate 1 asks for. -/
def sampleContext (commandTag actorTag : UInt8) : MembershipCommandContext where
  commandId := .tagged commandTag
  idempotencyKeyHash := ⟨taggedBytes commandTag⟩
  scope := .privateConversation (.tagged 9)
  actorIdentityId := .tagged actorTag
  actorDeviceId := .tagged actorTag
  joinRequestId := .tagged 2
  candidateIdentityId := .tagged 1
  candidateDeviceId := .tagged 1
  inviteId := .tagged 1
  fence := { policyRevision := .initial, sequencerHead := ⟨taggedBytes 0⟩ }
  candidateKeyPackageDigest := none

def sampleRequest : JoinRequestCommand := ⟨sampleContext 3 1⟩

def sampleApproval : ApproveJoinCommand := ⟨sampleContext 4 0, ⟨taggedBytes 5⟩⟩

attribute [local instance] flatSha256

/-- Candidate 1 has asked to join. -/
def requestedBook : MembershipCommandBook :=
  (MembershipCommandBook.new.run (.recordJoinRequest sampleRequest .notMember)).2

/-- The request has been approved. -/
def approvedBook : MembershipCommandBook :=
  (requestedBook.run (.approveJoin sampleApproval .notMember)).2

theorem approvedBook_reached : Reached Opened BookCall approvedBook :=
  .next (.approveJoin sampleApproval .notMember)
    (.next (.recordJoinRequest sampleRequest .notMember) (.initial rfl) rfl) rfl

end Sample

end Dirextalk.Membership
