import Dirextalk.Membership.Book
import Dirextalk.Wire.Sizes

/-!
# What the operations of the command book do

One inversion lemma per operation: the checks that it has passed and the book
it leaves.
-/

namespace Dirextalk.Membership

open Domain Dirextalk.Group Lib Wire

/-! ## Transcripts -/

/-- Room for any field of the transcripts. -/
abbrev TranscriptField (value : CanonicalValue) : Prop := Within 2 5 173 value

theorem field_of_small {value : CanonicalValue} (small : SmallField value) :
    TranscriptField value :=
  small.mono (by decide) (by decide) (by decide)

theorem field_unsigned (value : UInt64) : TranscriptField (.unsigned value) :=
  field_of_small (smallField_unsigned value)

theorem field_null : TranscriptField .null := within_null.mono (by decide) (by decide) (by decide)

theorem field_uuid {kind : UuidKind} (id : UuidV7 kind) : TranscriptField (.text id.toText) :=
  field_of_small (smallField_uuid id)

theorem field_publicId {kind : PublicIdKind} (id : PublicId kind) :
    TranscriptField (.text id.toText) :=
  field_of_small (smallField_publicId id)

theorem field_digest (digest : Sha256Digest) : TranscriptField (toCanonicalValue digest) :=
  field_of_small (smallField_bytes digest.bytes (by decide))

/-- A record of at most 21 fields has an encoding. -/
theorem encode_record {fields : List CanonicalValue}
    (bounded : ∀ field ∈ fields, TranscriptField field) (few : fields.length ≤ 21) :
    encodeDeterministicCbor (record fields) = .ok (wire (record fields)) ∧
      (wire (record fields)).length ≤ 3831 := by
  have within := within_record 21 bounded few (by decide)
  exact ⟨(within.roundTrip (by decide) (by decide) (by decide)).1, within.bytes_le⟩

theorem field_scope (scope : GroupScope) : TranscriptField (scopeValue scope) := by
  have entries {number : UInt64} {text : String} (small : SmallField (.text text)) :
      TranscriptField (record [.unsigned number, .text text]) := by
    have fields : ∀ field ∈ [.unsigned number, .text text], SmallField field := by
      rw [List.forall_mem_cons, List.forall_mem_singleton]
      exact ⟨smallField_unsigned number, small⟩
    exact within_record 2 fields (by simp) (by decide)
  cases scope with
  | privateConversation identifier => exact entries (smallField_uuid identifier)
  | controlledPublicChannel identifier => exact entries (smallField_publicId identifier)

/-- The encoding that the digest of a command expects succeeds. -/
theorem encode_commandValue (kind : CommandKind) (context : MembershipCommandContext)
    (authorizationDigest : Option Sha256Digest) :
    encodeDeterministicCbor (commandValue kind context authorizationDigest) =
      .ok (wire (commandValue kind context authorizationDigest)) := by
  have authorization : TranscriptField (authorizationDigest.elim .null digestValue) := by
    cases authorizationDigest with
    | none => exact field_null
    | some digest => exact field_digest digest
  have fields : ∀ field ∈ [.unsigned kind.code, .text context.commandId.toText,
      scopeValue context.scope, .text context.actorIdentityId.toText,
      .text context.actorDeviceId.toText, .text context.joinRequestId.toText,
      .text context.candidateIdentityId.toText, .text context.candidateDeviceId.toText,
      .text context.inviteId.toText, .unsigned (.ofNat context.fence.policyRevision.value),
      digestValue context.fence.sequencerHead, authorizationDigest.elim .null digestValue],
      TranscriptField field := by
    simp only [List.forall_mem_cons]
    exact ⟨field_unsigned _, field_uuid _, field_scope _, field_publicId _, field_uuid _,
      field_uuid _, field_publicId _, field_uuid _, field_uuid _, field_unsigned _,
      field_digest _, authorization, List.forall_mem_nil _⟩
  unfold commandValue
  cases context.candidateKeyPackageDigest with
  | none => exact (encode_record fields (by simp)).1
  | some digest =>
    have more := List.forall_mem_append.mpr
      ⟨fields, List.forall_mem_singleton.mpr (field_digest digest)⟩
    exact (encode_record more (by simp)).1

/-! ## Commits in flight -/

/-- What the sequencer is asked for while a commit is in flight. -/
inductive FlightStage where
  | submitting
  | reconciling
  deriving DecidableEq

/-- A commit in flight: the approval that owns it and how far it is. -/
structure Flight where
  commandId : MembershipCommandId
  context : MembershipCommandContext
  authorizationDigest : Sha256Digest
  stage : FlightStage
  deriving DecidableEq

/-- The commit that a phase waits for. -/
def WorkflowPhase.flight : WorkflowPhase → Option Flight
  | .pendingCommit commandId context authorizationDigest =>
      some { commandId, context, authorizationDigest, stage := .submitting }
  | .reconciling commandId context authorizationDigest =>
      some { commandId, context, authorizationDigest, stage := .reconciling }
  | _ => none

theorem WorkflowPhase.flight_eq_some {phase : WorkflowPhase} {flight : Flight} :
    phase.flight = some flight ↔
      phase = match flight.stage with
        | .submitting =>
          .pendingCommit flight.commandId flight.context flight.authorizationDigest
        | .reconciling =>
          .reconciling flight.commandId flight.context flight.authorizationDigest := by
  obtain ⟨commandId, context, authorizationDigest, stage⟩ := flight
  cases phase <;> cases stage <;> simp [WorkflowPhase.flight]

/-- The phase that a result for a commit in flight leads to. -/
def Flight.Resolves (flight : Flight) (phase : WorkflowPhase) : SequencerResolution → Prop
  | .unknown => phase.flight = some { flight with stage := .reconciling }
  | .absent =>
      flight.stage = .reconciling ∧ phase.flight = some { flight with stage := .submitting }
  | .rejected rejection => phase = .rejected rejection
  | .committed reference => phase = .committed (.applied reference)

namespace MembershipCommandBook

variable {book next : MembershipCommandBook} {commandId : MembershipCommandId}
variable {receipt : MembershipReceipt}

/-- The phase of a workflow. -/
def phaseAt (book : MembershipCommandBook) (workflowId : JoinRequestId) : Option WorkflowPhase :=
  book.workflows[workflowId]?.map (·.phase)

/-- The commit that a workflow waits for. -/
def flightAt (book : MembershipCommandBook) (workflowId : JoinRequestId) : Option Flight :=
  (book.phaseAt workflowId).bind WorkflowPhase.flight

/-! ## Answers -/

theorem receiptFor_commandId (answered : book.receiptFor commandId = .ok receipt) :
    receipt.commandId = commandId ∧ commandId ∈ book.commands := by
  simp only [receiptFor, bind_eq_ok, okOr_eq_ok, pure_eq_ok] at answered
  obtain ⟨command, found, phase, -, rfl⟩ := answered
  exact ⟨rfl, mem_iff_lookup.mpr ⟨command, found⟩⟩

/-- The receipt of a command that observes a workflow shows its phase. -/
theorem receiptFor_workflow {kind : CommandKind} {requestDigest : Sha256Digest}
    {workflowId : JoinRequestId}
    (found : book.commands[commandId]? = some (.workflow kind requestDigest workflowId)) :
    book.receiptFor commandId = .ok receipt ↔
      ∃ phase, book.phaseAt workflowId = some phase ∧
        { commandId, requestDigest, phase := phase.asPublic } = receipt := by
  simp only [receiptFor, commandPhase, found, okOr_some, ok_bind, StoredCommand.workflow,
    bind_eq_ok, okOr_eq_ok, pure_eq_ok, phaseAt, Option.map_eq_some_iff]
  constructor
  · rintro ⟨_, ⟨workflow, present, rfl⟩, rfl⟩
    exact ⟨_, ⟨workflow, present, rfl⟩, rfl⟩
  · rintro ⟨_, ⟨workflow, present, rfl⟩, rfl⟩
    exact ⟨_, ⟨workflow, present, rfl⟩, rfl⟩

section Replay

variable {requestDigest : Sha256Digest} {lookup : IdempotencyLookup}

theorem existingOrConflict_eq_none :
    book.existingOrConflict commandId requestDigest lookup = .ok none ↔
      commandId ∉ book.commands ∧ lookup ∉ book.idempotency := by
  unfold existingOrConflict
  rw [← lookup_eq_none, ← lookup_eq_none]
  split
  next existing found =>
    simp only [bind_eq_ok, rejectIf_eq_ok, exists_const, pure_eq_ok, reduceCtorEq, and_false,
      exists_false, found, false_and]
  next absent =>
    split
    next existingId mapped =>
      simp only [bind_eq_ok, rejectIf_eq_ok, exists_const, pure_eq_ok, okOr_eq_ok, reduceCtorEq,
        and_false, exists_false, mapped]
    next unmapped => simp [absent, unmapped]

end Replay

/-! ## Sequencer actions and results -/

theorem flightAt_eq_some {workflowId : JoinRequestId} {flight : Flight} :
    book.flightAt workflowId = some flight ↔
      ∃ workflow, book.workflows[workflowId]? = some workflow ∧
        workflow.phase.flight = some flight := by
  simp [flightAt, phaseAt, Option.bind_eq_some_iff]

theorem resolves_of_resolvedPhase {workflow : JoinWorkflow} {command : StoredCommand}
    {flight : Flight} {resolution : SequencerResolution} {phase : WorkflowPhase}
    (resolved : resolvedPhase workflow command flight.commandId flight.context
      flight.authorizationDigest (flight.stage = .reconciling) resolution = .ok phase) :
    flight.Resolves phase resolution := by
  cases resolution with
  | unknown =>
    cases resolved
    rfl
  | absent =>
    simp only [resolvedPhase, decide_eq_true_eq] at resolved
    split at resolved
    next reconciling =>
      cases resolved
      exact ⟨reconciling, rfl⟩
    next => cases resolved
  | rejected rejection =>
    cases resolved
    rfl
  | committed reference =>
    simp only [resolvedPhase, bind_eq_ok, pure_eq_ok] at resolved
    obtain ⟨-, -, rfl⟩ := resolved
    rfl

end MembershipCommandBook

end Dirextalk.Membership
