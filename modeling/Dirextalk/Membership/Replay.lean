import Dirextalk.Membership.Graph

/-!
# Replays and submissions along runs

Commands stay recorded, terminal results stay what they are, and the one approval
that takes a workflow off the ground keeps its submission for as long as the
sequencer has not answered for good.
-/

namespace Dirextalk.Membership

open Domain Dirextalk.Group Lib Wire

/-- The digest of the command that a call submits. -/
def BookOperation.requestDigest [Sha256] : BookOperation → Option Sha256Digest
  | .recordJoinRequest command _ => some command.requestDigest
  | .approveJoin command _ => some command.requestDigest
  | .observeSequencerResolution _ _ | .rejectLocally _ _ => none

namespace MembershipCommandBook

variable [Sha256] {book next later : MembershipCommandBook} {operation : BookOperation}

/-- What every call keeps in a coherent book holds after any further calls. -/
theorem kept_by_calls (further : ReachedFrom book BookCall later) (coherent : book.Coherent)
    (property : MembershipCommandBook → Prop) (holds : property book)
    (step : ∀ state operation next, Coherent state → Effect state operation next →
      property state → property next) : later.Coherent ∧ property later := by
  apply further.invariant (fun state => state.Coherent ∧ property state)
  · intro state initial
    cases initial
    exact ⟨coherent, holds⟩
  · intro state operation next kept called
    cases called
    refine ⟨kept.1.run operation, ?_⟩
    rcases state.run_cases operation with same | effect
    · rw [same]
      exact kept.2
    · exact step state operation _ kept.1 effect kept.2

/-! ## What a write leaves alone -/

variable {commandId : MembershipCommandId} {requestDigest : Sha256Digest}

/-- A stored command stays, unless it is a request whose waiting workflow is rejected. -/
theorem Effect.command (effect : Effect book operation next) {command : StoredCommand}
    (stored : book.commands[commandId]? = some command) :
    next.commands[commandId]? = some command ∨
      command.kind = .requestJoin ∧
        (∃ workflowId workflow, command.workflowId = some workflowId ∧
          book.workflows[workflowId]? = some workflow ∧ workflow.phase = .pendingApproval) ∧
        ∃ rejection, next.commands[commandId]? =
          some (.terminal .requestJoin command.requestDigest (.rejected rejection)) := by
  cases effect with
  | requested new | requestKnown new | approved new | approveKnown new | settled new =>
    left
    exact lookup_insert.trans ((if_neg (key_ne_of_fresh stored new.fresh)).trans stored)
  | resolved | declined => exact .inl stored
  | @withdrawn withdrawnId rejection withdrawn workflowId workflow found request observes present
      waiting =>
      by_cases same : commandId = withdrawnId
      · subst same
        rw [stored] at found
        cases found
        exact .inr ⟨request, ⟨workflowId, workflow, observes, present, waiting⟩, rejection,
          lookup_insert_self _ _ _⟩
      · exact .inl (lookup_insert.trans ((if_neg same).trans stored))

theorem Effect.approval (effect : Effect book operation next) {workflowId : JoinRequestId}
    (stored : book.commands[commandId]? = some (.workflow .approveJoin requestDigest workflowId)) :
    next.commands[commandId]? = some (.workflow .approveJoin requestDigest workflowId) := by
  rcases effect.command stored with kept | ⟨request, -⟩
  · exact kept
  · cases request

/-- A workflow with a result stays as it is. -/
theorem Effect.terminal (effect : Effect book operation next) {workflowId : JoinRequestId}
    {workflow : JoinWorkflow} (found : book.workflows[workflowId]? = some workflow)
    (terminal : workflow.phase.asPublic.isTerminal = true) :
    next.workflows[workflowId]? = some workflow := by
  -- the write is on another workflow, one without a result
  have elsewhere : ∀ {otherId : JoinRequestId} {other : JoinWorkflow},
      book.workflows[otherId]? = some other → other.phase.asPublic.isTerminal = false →
      workflowId ≠ otherId := by
    intro otherId other present going same
    subst same
    rw [found] at present
    cases present
    rw [terminal] at going
    cases going
  have flying : ∀ {phase : WorkflowPhase} {flight : Flight}, phase.flight = some flight →
      phase.asPublic.isTerminal = false := by
    intro phase flight inFlight
    cases phase <;> first | rfl | cases inFlight
  cases effect with
  | requestKnown | approveKnown => exact found
  | requested new self unknown =>
    exact lookup_insert.trans ((if_neg (key_ne_of_fresh found unknown)).trans found)
  | approved new other present named waiting =>
    have apart := elsewhere present (by rw [waiting]; rfl)
    exact lookup_insert.trans ((if_neg apart).trans found)
  | settled new sameScope other present named going =>
    exact lookup_insert.trans ((if_neg (elsewhere present going)).trans found)
  | resolved command otherId other flight phase stored approval observes present inFlight =>
    have apart := elsewhere present (flying inFlight)
    exact lookup_insert.trans ((if_neg apart).trans found)
  | withdrawn command otherId other stored request observes present waiting =>
    have apart := elsewhere present (by rw [waiting]; rfl)
    exact lookup_erase.trans ((if_neg apart).trans found)
  | declined command otherId other context digest stored approval observes present pending =>
    have apart := elsewhere present (by rw [pending]; rfl)
    exact lookup_insert.trans ((if_neg apart).trans found)

/-! ## Receipts and replays -/

/-- A terminal receipt is not changed by a write. -/
theorem Effect.receipt (effect : Effect book operation next) (coherent : book.Coherent)
    {receipt : MembershipReceipt} (answered : book.receiptFor commandId = .ok receipt)
    (terminal : receipt.phase.isTerminal = true) : next.receiptFor commandId = .ok receipt := by
  obtain ⟨command, stored⟩ := mem_iff_lookup.mp (receiptFor_commandId answered).2
  obtain ⟨lookup, -, fits⟩ := coherent.fits stored
  cases fits with
  | request found | approval found =>
    obtain ⟨phase, shown, rfl⟩ := (receiptFor_workflow stored).mp answered
    simp only [phaseAt, found, Option.map_some, Option.some.injEq] at shown
    subst shown
    have kept := effect.terminal found terminal
    have storedAfter := (effect.command stored).resolve_right (by
      rintro ⟨-, ⟨workflowId, workflow, observes, present, waiting⟩, -⟩
      cases observes
      rw [found] at present
      cases present
      rw [waiting] at terminal
      cases terminal)
    exact (receiptFor_workflow storedAfter).mpr ⟨_, by rw [phaseAt, kept]; rfl, rfl⟩
  | turnedDown | member =>
    have storedAfter := (effect.command stored).resolve_right (by
      rintro ⟨-, ⟨workflowId, workflow, observes, -⟩, -⟩
      cases observes)
    rw [← answered, receiptFor, receiptFor, stored, storedAfter]
    rfl

/-- The command is recorded under its id. -/
def Holds (book : MembershipCommandBook) (commandId : MembershipCommandId)
    (requestDigest : Sha256Digest) : Prop :=
  ∃ command, book.commands[commandId]? = some command ∧ command.requestDigest = requestDigest

theorem Effect.holds (effect : Effect book operation next)
    (holds : book.Holds commandId requestDigest) :
    next.Holds commandId requestDigest := by
  obtain ⟨command, stored, digest⟩ := holds
  rcases effect.command stored with kept | ⟨-, -, rejection, kept⟩
  · exact ⟨command, kept, digest⟩
  · exact ⟨_, kept, digest⟩

theorem Coherent.existingOrConflict_holds (coherent : book.Coherent)
    (holds : book.Holds commandId requestDigest) (lookup : IdempotencyLookup) :
    ∃ receipt, book.receiptFor commandId = .ok receipt ∧
      book.existingOrConflict commandId requestDigest lookup = .ok (some receipt) := by
  obtain ⟨command, stored, digest⟩ := holds
  obtain ⟨receipt, answered⟩ := coherent.receiptFor_ok (mem_iff_lookup.mpr ⟨command, stored⟩)
  refine ⟨receipt, answered, ?_⟩
  simp only [existingOrConflict, stored, digest, answered, ok_bind, rejectIf, ne_eq, not_true,
    if_false]
  rfl

/-- A recorded request is answered with its receipt, whatever is said about the
candidate. -/
theorem Coherent.recordJoinRequest_replay (coherent : book.Coherent)
    {command : JoinRequestCommand}
    (holds : book.Holds command.context.commandId command.requestDigest)
    (candidateMembership : CandidateMembership) :
    ∃ receipt, book.receiptFor command.context.commandId = .ok receipt ∧
      book.recordJoinRequest command candidateMembership = (.ok receipt, book) := by
  obtain ⟨receipt, answered, replayed⟩ :=
    coherent.existingOrConflict_holds holds (.new command.context)
  refine ⟨receipt, answered, ?_⟩
  simp only [recordJoinRequest, replayed, ok_bind]
  rfl

theorem Coherent.approveJoin_replay (coherent : book.Coherent) {command : ApproveJoinCommand}
    (holds : book.Holds command.context.commandId command.requestDigest)
    (candidateMembership : CandidateMembership) :
    ∃ receipt, book.receiptFor command.context.commandId = .ok receipt ∧
      book.approveJoin command candidateMembership = (.ok receipt, book) := by
  obtain ⟨receipt, answered, replayed⟩ :=
    coherent.existingOrConflict_holds holds (.new command.context)
  refine ⟨receipt, answered, ?_⟩
  simp only [approveJoin, replayed, ok_bind]
  rfl

omit [Sha256] in
theorem existingOrConflict_names {lookup : IdempotencyLookup} {receipt : MembershipReceipt}
    (replayed : book.existingOrConflict commandId requestDigest lookup = .ok (some receipt))
    (names : receipt.commandId = commandId) : book.Holds commandId requestDigest := by
  unfold existingOrConflict at replayed
  split at replayed
  next existing found =>
    simp only [bind_eq_ok, rejectIf_eq_ok, exists_const, ne_eq, not_not] at replayed
    exact ⟨existing, found, replayed.1⟩
  next absent =>
    split at replayed
    next existingId mapped =>
      simp only [bind_eq_ok, rejectIf_eq_ok, exists_const, pure_eq_ok, Option.some.injEq,
        okOr_eq_ok] at replayed
      obtain ⟨existing, -, -, _, answered, rfl⟩ := replayed
      obtain ⟨same, present⟩ := receiptFor_commandId answered
      rw [← same, names] at present
      exact absurd present (lookup_eq_none.mp absent)
    next => cases replayed

/-- A submitted command is recorded, once it is answered for. -/
theorem holds_of_run {receipt : MembershipReceipt}
    (accepted : book.run operation = (.ok receipt, next))
    (submits : operation.requestDigest = some requestDigest)
    (names : receipt.commandId = operation.commandId) :
    next.Holds operation.commandId requestDigest := by
  obtain ⟨decision, decided⟩ := book.run_decided operation
  rw [decided.run_eq] at accepted
  rcases decision with error | answer | written
  · cases accepted
  · cases accepted
    have answers := decided.answers receipt rfl
    cases operation with
    | recordJoinRequest | approveJoin =>
      cases submits
      exact existingOrConflict_names answers names
    | observeSequencerResolution | rejectLocally => cases submits
  · obtain rfl : written = next := congrArg Prod.snd accepted
    cases decided.effect _ rfl with
    | requested | requestKnown | approved | approveKnown | settled =>
      cases submits
      exact ⟨_, lookup_insert_self _ _ _, rfl⟩
    | resolved | withdrawn | declined => cases submits

end MembershipCommandBook

/-- Terminal receipts stay what they are, a recorded command is answered with its
current receipt, and a rejected call changes nothing. -/
theorem replays_along_runs [Sha256] {book : MembershipCommandBook}
    (reached : Reached Opened BookCall book) :
    (∀ commandId receipt, book.receiptFor commandId = .ok receipt →
      receipt.phase.isTerminal = true → ∀ later, ReachedFrom book BookCall later →
      later.receiptFor commandId = .ok receipt) ∧
    (∀ command candidateMembership receipt after,
      book.recordJoinRequest command candidateMembership = (.ok receipt, after) →
      receipt.commandId = command.context.commandId →
      ∀ later, ReachedFrom after BookCall later → ∀ laterMembership, ∃ current,
        later.receiptFor command.context.commandId = .ok current ∧
        later.recordJoinRequest command laterMembership = (.ok current, later)) ∧
    (∀ command candidateMembership receipt after,
      book.approveJoin command candidateMembership = (.ok receipt, after) →
      receipt.commandId = command.context.commandId →
      ∀ later, ReachedFrom after BookCall later → ∀ laterMembership, ∃ current,
        later.receiptFor command.context.commandId = .ok current ∧
        later.approveJoin command laterMembership = (.ok current, later)) ∧
    ∀ operation error after, book.run operation = (.error error, after) → after = book := by
  have coherent := book_coherent reached
  have stays : ∀ operation receipt requestDigest after,
      book.run operation = (.ok receipt, after) → operation.requestDigest = some requestDigest →
      receipt.commandId = operation.commandId → ∀ later, ReachedFrom after BookCall later →
      later.Coherent ∧ later.Holds operation.commandId requestDigest := by
    intro operation receipt requestDigest after accepted submits names later further
    have afterCoherent := coherent.run operation
    rw [accepted] at afterCoherent
    exact MembershipCommandBook.kept_by_calls further afterCoherent
      (·.Holds operation.commandId requestDigest)
      (MembershipCommandBook.holds_of_run accepted submits names)
      fun state operation next coherent effect holds => effect.holds holds
  refine ⟨?_, ?_, ?_, ?_⟩
  · intro commandId receipt answered terminal later further
    exact (MembershipCommandBook.kept_by_calls further coherent
      (·.receiptFor commandId = .ok receipt) answered
      fun state operation next coherent effect answered =>
        effect.receipt coherent answered terminal).2
  · intro command candidateMembership receipt after accepted names later further laterMembership
    obtain ⟨laterCoherent, holds⟩ := stays (.recordJoinRequest command candidateMembership) receipt
      _ after accepted rfl names later further
    exact laterCoherent.recordJoinRequest_replay holds laterMembership
  · intro command candidateMembership receipt after accepted names later further laterMembership
    obtain ⟨laterCoherent, holds⟩ := stays (.approveJoin command candidateMembership) receipt _
      after accepted rfl names later further
    exact laterCoherent.approveJoin_replay holds laterMembership
  · intro operation error after rejected
    exact (coherent.run_rejected rejected).1

theorem sample_request_is_replayed :
    letI := flatSha256
    ∃ current,
      approvedBook.receiptFor (.tagged 3) = .ok current ∧
      approvedBook.recordJoinRequest sampleRequest .notMember =
        (.ok current, approvedBook) := by
  let _ := flatSha256
  have opened : Reached Opened BookCall MembershipCommandBook.new := .initial rfl
  have further : ReachedFrom requestedBook BookCall approvedBook :=
    .next (.approveJoin sampleApproval .notMember) (.initial rfl) rfl
  exact (replays_along_runs opened).2.1 sampleRequest .notMember
    { commandId := .tagged 3, requestDigest := sampleRequest.requestDigest
      phase := .pendingApproval } requestedBook (Prod.ext (by decide +kernel) rfl) rfl
    approvedBook further .notMember

/-! ## Submissions to the sequencer -/

/-- The submission for a commit in flight. -/
def Flight.submission (flight : Flight) (requestDigest : Sha256Digest) : SequencerSubmit :=
  { flight, flight.context with requestDigest }

namespace MembershipCommandBook

variable {book next : MembershipCommandBook} {operation : BookOperation}
variable {workflowId : JoinRequestId} {commandId : MembershipCommandId}

/-- The action is offered for the workflow to a command that observes it. -/
def Offers (book : MembershipCommandBook) (workflowId : JoinRequestId)
    (commandId : MembershipCommandId) (action : SequencerAction) : Prop :=
  (∃ command, book.commands[commandId]? = some command ∧ command.workflowId = some workflowId) ∧
    book.nextSequencerAction commandId = .ok (some action)

/-- An action is offered to the approval of a commit in flight, and a submission only
while the commit is to be submitted. -/
theorem flight_of_offers {action : SequencerAction}
    (offers : book.Offers workflowId commandId action) :
    ∃ command workflow flight, book.commands[commandId]? = some command ∧
      command.workflowId = some workflowId ∧
      book.workflows[workflowId]? = some workflow ∧ workflow.phase.flight = some flight ∧
      flight.commandId = commandId ∧ ∀ submit, action = .submit submit →
        flight.stage = .submitting ∧ submit = flight.submission command.requestDigest := by
  obtain ⟨⟨command, stored, observes⟩, offered⟩ := offers
  simp only [nextSequencerAction, stored, okOr_some, ok_bind, observes] at offered
  split at offered
  · cases offered
  · simp only [bind_eq_ok, okOr_eq_ok] at offered
    obtain ⟨workflow, found, offered⟩ := offered
    split at offered
    next approvalCommandId context authorizationDigest phase =>
      split at offered
      next owns =>
        cases offered
        refine ⟨command, workflow, ⟨commandId, context, authorizationDigest, .submitting⟩, stored,
          observes, found, by rw [phase, owns]; rfl, rfl, ?_⟩
        intro submit same
        cases same
        exact ⟨rfl, rfl⟩
      next => cases offered
    next approvalCommandId context authorizationDigest phase =>
      split at offered
      next owns =>
        cases offered
        refine ⟨command, workflow, ⟨commandId, context, authorizationDigest, .reconciling⟩, stored,
          observes, found, by rw [phase, owns]; rfl, rfl, ?_⟩
        intro submit impossible
        cases impossible
      next => cases offered
    next => cases offered

/-! ## Workflows that have left the ground -/

/-- The approval of the flight owns the workflow, which is still in flight or has a
result. -/
structure Launched (book : MembershipCommandBook) (workflowId : JoinRequestId) (flight : Flight)
    (requestDigest : Sha256Digest) (stages : FlightStage → Prop) : Prop where
  stored : book.commands[flight.commandId]? =
    some (.workflow .approveJoin requestDigest workflowId)
  workflow : ∃ workflow, book.workflows[workflowId]? = some workflow ∧
    (workflow.phase.asPublic.isTerminal = true ∨
      ∃ stage, stages stage ∧ workflow.phase.flight = some { flight with stage })

variable [Sha256]

/-- Whether a lookup that found nothing re-arms the workflow. -/
def Rearms (book : MembershipCommandBook) (workflowId : JoinRequestId)
    (operation : BookOperation) : Prop :=
  ∃ commandId flight, operation = .observeSequencerResolution commandId .absent ∧
    book.flightAt workflowId = some flight ∧ flight.commandId = commandId ∧
    flight.stage = .reconciling

variable {flight : Flight} {stages : FlightStage → Prop}

/-- A write keeps the owner of a workflow; unless it re-arms the workflow, it does not
take it back to being submitted. -/
theorem Effect.launched (effect : Effect book operation next) {requestDigest : Sha256Digest}
    (launched : book.Launched workflowId flight requestDigest stages)
    (reconciles : stages .reconciling)
    (submits : book.Rearms workflowId operation → stages .submitting) :
    next.Launched workflowId flight requestDigest stages := by
  obtain ⟨stored, workflow, found, progress⟩ := launched
  refine ⟨effect.approval stored, ?_⟩
  rcases progress with terminal | ⟨stage, allowed, inFlight⟩
  · exact ⟨workflow, effect.terminal found terminal, .inl terminal⟩
  -- the workflow of a write is this one, or this one is kept
  have waits : ∀ {otherId : JoinRequestId} {other : JoinWorkflow},
      book.workflows[otherId]? = some other → other.phase = .pendingApproval →
      workflowId ≠ otherId := by
    rintro otherId other present waiting rfl
    rw [found] at present
    cases present
    rw [waiting] at inFlight
    cases inFlight
  have kept : next.workflows[workflowId]? = some workflow → ∃ workflow,
      next.workflows[workflowId]? = some workflow ∧
        (workflow.phase.asPublic.isTerminal = true ∨
          ∃ stage, stages stage ∧ workflow.phase.flight = some { flight with stage }) :=
    fun same => ⟨workflow, same, .inr ⟨stage, allowed, inFlight⟩⟩
  cases effect with
  | requestKnown | approveKnown => exact kept found
  | requested new self unknown =>
    exact kept (lookup_insert.trans ((if_neg (key_ne_of_fresh found unknown)).trans found))
  | approved new other present named waiting =>
    exact kept (lookup_insert.trans ((if_neg (waits present waiting)).trans found))
  | withdrawn command otherId other held request observes present waiting =>
    exact kept (lookup_erase.trans ((if_neg (waits present waiting)).trans found))
  | @settled command reference new sameScope other present =>
    by_cases same : workflowId = command.context.joinRequestId
    · exact ⟨_, lookup_insert.trans (if_pos same), .inl rfl⟩
    · exact kept (lookup_insert.trans ((if_neg same).trans found))
  | declined command otherId other context digest held approval observes present =>
    by_cases same : workflowId = otherId
    · exact ⟨_, lookup_insert.trans (if_pos same), .inl rfl⟩
    · exact kept (lookup_insert.trans ((if_neg same).trans found))
  | @resolved resolvedId resolution command otherId other otherFlight phase held approval observes
      present flying owner resolves =>
      by_cases same : workflowId = otherId
      · subst same
        rw [found] at present
        cases present
        rw [inFlight] at flying
        cases flying
        refine ⟨_, lookup_insert.trans (if_pos rfl), ?_⟩
        cases resolution with
        | unknown => exact .inr ⟨.reconciling, reconciles, resolves⟩
        | absent =>
          refine .inr ⟨.submitting, submits ?_, resolves.2⟩
          exact ⟨resolvedId, _, rfl, flightAt_eq_some.mpr ⟨workflow, found, inFlight⟩, owner,
            resolves.1⟩
        | rejected rejection =>
          cases resolves
          exact .inl rfl
        | committed reference =>
          cases resolves
          exact .inl rfl
      · exact kept (lookup_insert.trans ((if_neg same).trans found))

/-- The commit that an action is offered for has left the ground. -/
theorem Coherent.launched (coherent : book.Coherent) {workflow : JoinWorkflow}
    (found : book.workflows[workflowId]? = some workflow)
    (inFlight : workflow.phase.flight = some flight) (allowed : stages flight.stage) :
    book.Launched workflowId flight
      (ApproveJoinCommand.requestDigest ⟨flight.context, flight.authorizationDigest⟩) stages :=
  ⟨(coherent.flying found inFlight).2, workflow, found, .inr ⟨flight.stage, allowed, inFlight⟩⟩

omit [Sha256] in
/-- What is offered for a launched workflow is offered to its owner. -/
theorem Launched.offers {requestDigest : Sha256Digest}
    (launched : book.Launched workflowId flight requestDigest stages) {action : SequencerAction}
    (offers : book.Offers workflowId commandId action) :
    commandId = flight.commandId ∧ ∀ submit, action = .submit submit →
      stages .submitting ∧ submit = flight.submission requestDigest := by
  obtain ⟨command, workflow, offered, stored, -, found, inFlight, owner, submission⟩ :=
    flight_of_offers offers
  obtain ⟨owned, same, sameFound, progress⟩ := launched
  rw [found] at sameFound
  cases sameFound
  rcases progress with terminal | ⟨stage, allowed, sameFlight⟩
  · cases phase : workflow.phase <;> simp [phase, WorkflowPhase.flight] at inFlight <;>
      simp [phase, WorkflowPhase.asPublic, MembershipCommandPhase.isTerminal] at terminal
  · rw [inFlight] at sameFlight
    cases sameFlight
    cases owner
    refine ⟨rfl, fun submit same => ?_⟩
    obtain ⟨submitting, rebuilt⟩ := submission submit same
    rw [owned] at stored
    cases stored
    cases submitting
    exact ⟨allowed, rebuilt⟩

/-- An unknown outcome leaves the commit to be looked up. -/
theorem Coherent.unknown_launched (coherent : book.Coherent) {command : StoredCommand}
    {receipt : MembershipReceipt} (stored : book.commands[commandId]? = some command)
    (observes : command.workflowId = some workflowId)
    (unknown : book.observeSequencerResolution commandId .unknown = (.ok receipt, next)) :
    ∃ flight requestDigest,
      next.Launched workflowId flight requestDigest (· = .reconciling) := by
  obtain ⟨decision, decided⟩ := book.run_decided (.observeSequencerResolution commandId .unknown)
  have concluded : conclude book commandId decision = (.ok receipt, next) :=
    decided.run_eq.symm.trans unknown
  rcases decision with error | answer | written
  · cases concluded
  · exact absurd rfl (decided.answers answer rfl).2.2
  · obtain rfl : written = next := congrArg Prod.snd concluded
    have effect := decided.effect written rfl
    have nextCoherent := coherent.effect effect
    cases effect with
    | resolved same sameId workflow flight phase sameStored approval sameObserves found flying owner
        resolves =>
        rw [stored] at sameStored
        cases sameStored
        rw [observes] at sameObserves
        cases sameObserves
        exact ⟨_, _, nextCoherent.launched (lookup_insert_self _ _ _) resolves rfl⟩

end MembershipCommandBook

/-- A call that does not re-arm the workflow. -/
def QuietCall [Sha256] (workflowId : JoinRequestId) (book : MembershipCommandBook)
    (operation : BookOperation) (next : MembershipCommandBook) : Prop :=
  ¬book.Rearms workflowId operation ∧ BookCall book operation next

/-- Once an action was offered for a workflow, the workflow stays, every later action
is offered to the same approval, and every submission is the same; and after an unknown
outcome nothing is submitted until the workflow is re-armed. -/
theorem submissions_along_runs [Sha256] {book : MembershipCommandBook}
    (reached : Reached Opened BookCall book) (workflowId : JoinRequestId) :
    (∀ commandId action, book.Offers workflowId commandId action →
      ∀ later, ReachedFrom book BookCall later → workflowId ∈ later.workflows ∧
        ∀ laterId laterAction, later.Offers workflowId laterId laterAction →
          laterId = commandId ∧ ∀ submit laterSubmit, action = .submit submit →
            laterAction = .submit laterSubmit → laterSubmit = submit) ∧
    ∀ commandId command receipt after, book.commands[commandId]? = some command →
      command.workflowId = some workflowId →
      book.observeSequencerResolution commandId .unknown = (.ok receipt, after) →
      ∀ later, ReachedFrom after (QuietCall workflowId) later →
        ∀ laterId submit, ¬later.Offers workflowId laterId (.submit submit) := by
  have coherent := book_coherent reached
  constructor
  · intro commandId action offers later further
    obtain ⟨command, workflow, flight, -, -, found, inFlight, -⟩ :=
      MembershipCommandBook.flight_of_offers offers
    have launched : book.Launched workflowId flight _ fun _ => True :=
      coherent.launched found inFlight trivial
    have stays := (MembershipCommandBook.kept_by_calls further coherent
      (·.Launched workflowId flight _ fun _ => True) launched
      fun state operation next coherent effect launched =>
        effect.launched launched trivial fun _ => trivial).2
    obtain ⟨workflow, present, -⟩ := stays.workflow
    refine ⟨mem_iff_lookup.mpr ⟨workflow, present⟩, fun laterId laterAction laterOffers => ?_⟩
    have here := launched.offers offers
    have there := stays.offers laterOffers
    refine ⟨there.1.trans here.1.symm, fun submit laterSubmit same laterSame => ?_⟩
    rw [(there.2 laterSubmit laterSame).2, (here.2 submit same).2]
  · intro commandId command receipt after stored observes unknown later further laterId submit
      offers
    obtain ⟨flight, requestDigest, launched⟩ := coherent.unknown_launched stored observes unknown
    have stays : later.Launched workflowId flight requestDigest (· = .reconciling) := by
      apply further.invariant
        (fun state => state.Launched workflowId flight requestDigest (· = .reconciling))
      · intro state initial
        cases initial
        exact launched
      · intro state operation next launched called
        obtain ⟨quiet, rfl⟩ := called
        rcases state.run_cases operation with same | effect
        · rw [same]
          exact launched
        · exact effect.launched launched rfl fun rearms => absurd rearms quiet
    cases ((stays.offers offers).2 submit rfl).1

section Sample

attribute [local instance] flatSha256

/-- The submission of the sample approval. -/
def sampleSubmission : SequencerSubmit :=
  Flight.submission ⟨.tagged 4, sampleApproval.context, sampleApproval.authorizationDigest,
    .submitting⟩ sampleApproval.requestDigest

/-- The outcome of the submission is not known. -/
def uncertainBook : MembershipCommandBook :=
  (approvedBook.run (.observeSequencerResolution (.tagged 4) .unknown)).2

/-- The lookup has found nothing. -/
def rearmedBook : MembershipCommandBook :=
  (uncertainBook.run (.observeSequencerResolution (.tagged 4) .absent)).2

theorem sample_offers :
    approvedBook.Offers (.tagged 2) (.tagged 4) (.submit sampleSubmission) ∧
      rearmedBook.Offers (.tagged 2) (.tagged 4) (.submit sampleSubmission) :=
  ⟨⟨⟨.workflow .approveJoin sampleApproval.requestDigest (.tagged 2), by decide +kernel, rfl⟩,
      by decide +kernel⟩,
    ⟨.workflow .approveJoin sampleApproval.requestDigest (.tagged 2), by decide +kernel, rfl⟩,
      by decide +kernel⟩

end Sample

theorem sample_submission_is_kept :
    letI := flatSha256
    (∀ laterId laterSubmit, rearmedBook.Offers (.tagged 2) laterId (.submit laterSubmit) →
      laterSubmit = sampleSubmission) ∧
    ∀ laterId submit, ¬uncertainBook.Offers (.tagged 2) laterId (.submit submit) := by
  let _ := flatSha256
  have along := submissions_along_runs approvedBook_reached (.tagged 2)
  constructor
  · intro laterId laterSubmit offers
    have further : ReachedFrom approvedBook BookCall rearmedBook :=
      .next _ (.next _ (.initial rfl) rfl) rfl
    have kept := (along.1 _ _ sample_offers.1 rearmedBook further).2 laterId _ offers
    exact kept.2 _ _ rfl rfl
  · exact along.2 (.tagged 4) (.workflow .approveJoin sampleApproval.requestDigest (.tagged 2))
      { commandId := .tagged 4, requestDigest := sampleApproval.requestDigest
        phase := .reconciling } uncertainBook (by decide +kernel) rfl
      (Prod.ext (by decide +kernel) rfl) uncertainBook (.initial rfl)

end Dirextalk.Membership
