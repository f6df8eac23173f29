import Dirextalk.Control.Delivery

/-!
# The terminal revoke

A terminal revoke closes its log while it is pending, and for good once the log is marked
revoked.  An acknowledgement between the two opens the log again: commands are appended
behind the revoke, the fence moves, and the log can no longer be marked.  In runs whose
acknowledgements of a revoke come after the mark, the revoke is the last command.
-/

namespace Dirextalk.Control

open Lib Wire CommandError

namespace CommandLog

variable [Sha256] {log next : CommandLog}

/-- Nothing is appended any more, the fence does not move, and the log can be marked. -/
structure Closed (log : CommandLog) : Prop where
  appends : ∀ generation specRevision operationId payload payloadDigest exactBytes command next,
    log.append generation specRevision operationId payload payloadDigest exactBytes =
      .ok (command, next) → next = log
  advances : ∀ expectedGeneration expectedSpecRevision nextGeneration nextSpecRevision next,
    log.advanceFence expectedGeneration expectedSpecRevision nextGeneration nextSpecRevision ≠
      .ok next
  revokes : ∃ next, log.revoke = .ok next

/-- A terminal revoke is acknowledged only after the log was marked revoked. -/
def PatientAck (log : CommandLog) (operation : LogOperation) : Prop :=
  ∀ acknowledgement, operation = .acknowledge acknowledgement →
    acknowledgement.sequence = log.acknowledgedSequence + 1 → log.state = .active →
    ∀ command, log.commands[log.acknowledgedSequence]? = some command →
      command.isTerminalRevoke = false

/-- While the log is active, no acknowledged command is a terminal revoke. -/
def Unended (log : CommandLog) : Prop :=
  log.state = .active → ∀ command ∈ log.commands.take log.acknowledgedSequence,
    command.isTerminalRevoke = false

/-! ## Closed logs -/

variable {command : DurableServerCommand}

omit [Sha256] in
theorem Unended.mem_pending (unended : log.Unended) (active : log.state = .active)
    (listed : command ∈ log.commands) (terminal : command.isTerminalRevoke = true) :
    command ∈ log.pending := by
  rw [← List.take_append_drop log.acknowledgedSequence log.commands] at listed
  cases List.mem_append.mp listed with
  | inl acknowledged => simp [unended active command acknowledged] at terminal
  | inr pending => exact pending

theorem Sound.endsInRevoke (sound : log.Sound) (pending : command ∈ log.pending)
    (terminal : command.isTerminalRevoke = true) :
    endsInRevoke log.commands = true := by
  have occupied : log.pending ≠ [] := List.ne_nil_of_mem pending
  have last : log.pending.getLast occupied = command := by
    rw [← List.dropLast_append_getLast occupied] at pending
    cases List.mem_append.mp pending with
    | inl earlier => simp [sound.lastRevoke command earlier] at terminal
    | inr final => exact (List.mem_singleton.mp final).symm
  rw [CommandLog.endsInRevoke, ← getLast?_pending occupied,
    List.getLast?_eq_getLast_of_ne_nil occupied, last]
  exact terminal

/-- An append finds no terminal revoke in the log. -/
theorem Unended.appends (unended : log.Unended) {added : DurableServerCommand}
    (appends : log.Appends added) (listed : command ∈ log.commands) :
    command.isTerminalRevoke = false := by
  by_contra terminal
  rw [Bool.not_eq_false] at terminal
  have pending := unended.mem_pending appends.active listed terminal
  simp [appends.unrevoked command pending] at terminal

theorem Sound.closed (sound : log.Sound) (unended : log.Unended) (listed : command ∈ log.commands)
    (terminal : command.isTerminalRevoke = true) :
    log.Closed where
  appends := by
    intro _ _ _ _ _ _ _ next accepted
    cases append_effect accepted with
    | same => rfl
    | appends appends => simp [unended.appends appends listed] at terminal
  advances := by
    intro _ _ _ _ next accepted
    simp only [advanceFence, bind_eq_ok, rejectIf_eq_ok, Unique.exists_iff, not_not, ne_eq]
      at accepted
    obtain ⟨-, unmarked, drained, -⟩ := accepted
    have pending := unended.mem_pending (active_of_not_revoked unmarked) listed terminal
    rw [CommandLog.pending, drained, List.drop_length] at pending
    cases pending
  revokes := by
    unfold revoke
    split
    case isTrue => exact ⟨log, rfl⟩
    case isFalse unmarked =>
      have pending := unended.mem_pending (active_of_not_revoked unmarked) listed terminal
      rw [sound.endsInRevoke pending terminal]
      exact ⟨_, rfl⟩

/-! ## Runs -/

theorem Effect.unended {operation : LogOperation} (effect : log.Effect operation next)
    (sound : log.Sound) (unended : log.Unended) (patient : log.PatientAck operation) :
    next.Unended := by
  cases effect with
  | same => exact unended
  | appends =>
    intro active
    rw [List.take_append_of_le_length sound.cursor]
    exact unended active
  | acknowledges found _ sequence =>
    intro active
    rw [List.take_add_one, found]
    exact forall_mem_concat.mpr ⟨unended active, patient _ rfl sequence active _ found⟩
  | advances => exact unended
  | revokes | finalizes =>
    intro impossible
    cases impossible

theorem Effect.commands_eq {operation : LogOperation} (effect : log.Effect operation next)
    (unended : log.Unended) (listed : command ∈ log.commands)
    (terminal : command.isTerminalRevoke = true) : next.commands = log.commands := by
  cases effect with
  | appends appends => simp [unended.appends appends listed] at terminal
  | same | acknowledges | advances | revokes | finalizes => rfl

end CommandLog

/-- A call that acknowledges no terminal revoke of an active log. -/
def PatientLogCall [Sha256] (log : CommandLog) (operation : LogOperation) (next : CommandLog) :
    Prop :=
  log.PatientAck operation ∧ LogCall log operation next

theorem reached_unended [Sha256] {log : CommandLog}
    (reached : Reached LogStart PatientLogCall log) : log.Sound ∧ log.Unended := by
  apply reached.invariant fun log => log.Sound ∧ log.Unended
  · intro log started
    obtain ⟨tenantId, connectorId, generation, specRevision, created⟩ := started
    refine ⟨CommandLog.new_sound created, ?_⟩
    simp only [CommandLog.new, bind_eq_ok, pure_eq_ok] at created
    obtain ⟨-, -, rfl⟩ := created
    exact fun _ => List.forall_mem_nil _
  · intro log operation next kept called
    have effect := CommandLog.effect_of_run called.2
    exact ⟨effect.sound kept.1, effect.unended kept.1 kept.2 called.1⟩

/-- After a terminal revoke, every later log of such a run has the same commands, moves its
fence no more and can be marked revoked. -/
theorem terminal_revoke_closes [Sha256] {log later : CommandLog}
    (reached : Reached LogStart PatientLogCall log)
    (appended : ∃ command ∈ log.commands, command.isTerminalRevoke = true)
    (further : ReachedFrom log PatientLogCall later) :
    later.commands = log.commands ∧ later.Closed := by
  obtain ⟨command, listed, terminal⟩ := appended
  have same : Reached LogStart PatientLogCall later ∧ later.commands = log.commands := by
    apply further.invariant fun state =>
      Reached LogStart PatientLogCall state ∧ state.commands = log.commands
    · intro state same
      exact ⟨same ▸ reached, same ▸ rfl⟩
    · intro state operation next kept called
      have effect := CommandLog.effect_of_run called.2
      have unended := (reached_unended kept.1).2
      exact ⟨kept.1.next operation called,
        (effect.commands_eq unended (kept.2 ▸ listed) terminal).trans kept.2⟩
  obtain ⟨sound, unended⟩ := reached_unended same.1
  exact ⟨same.2, sound.closed unended (same.2 ▸ listed) terminal⟩

/-! ### A revoke that is acknowledged too early -/

section Sample

attribute [local instance] fixedSha256

theorem finalizedLog_closed :
    finalizedLog.commands = revokingLog.commands ∧ finalizedLog.Closed := by
  have revokes : sampleLog.PatientAck (sampleClose sampleLog 2 .revoked) := by
    intro acknowledgement impossible
    cases impossible
  have finalizes : revokingLog.PatientAck (.finalizeRevokeFence 1 .initial 1 secondRevision) := by
    intro acknowledgement impossible
    cases impossible
  have started : Reached LogStart PatientLogCall sampleLog :=
    .initial ⟨.tagged 0, .tagged 1, 1, .initial, rfl⟩
  have revoking : Reached LogStart PatientLogCall revokingLog :=
    started.next _ ⟨revokes, logCall_ran (by decide +kernel)⟩
  have finalized : ReachedFrom revokingLog PatientLogCall finalizedLog :=
    .next _ (.initial rfl) ⟨finalizes, logCall_ran (by decide +kernel)⟩
  exact terminal_revoke_closes revoking (by decide +kernel) finalized

/-- The log whose pending terminal revoke was acknowledged. -/
def acknowledgedLog : CommandLog := revokingLog.ran (sampleAck revokingLog)

/-- A command behind the acknowledged revoke. -/
def reopenedLog : CommandLog := acknowledgedLog.ran (sampleClose acknowledgedLog 3 .reconnect)

theorem acknowledged_revoke_reopens :
    Reached LogStart LogCall acknowledgedLog ∧
      acknowledgedLog.commands.map (·.isTerminalRevoke) = [true] ∧
      LogCall acknowledgedLog (sampleAdvance acknowledgedLog secondRevision)
        (acknowledgedLog.ran (sampleAdvance acknowledgedLog secondRevision)) ∧
      Reached LogStart LogCall reopenedLog ∧
      reopenedLog.commands.map (·.isTerminalRevoke) = [true, false] ∧
      reopenedLog.revoke = .error missingRevokeCommand := by
  have acknowledged : Reached LogStart LogCall acknowledgedLog :=
    finalizedLog_reached.1.next _ (logCall_ran (by decide +kernel))
  exact ⟨acknowledged, by decide +kernel, logCall_ran (by decide +kernel),
    acknowledged.next _ (logCall_ran (by decide +kernel)), by decide +kernel, by decide +kernel⟩

end Sample

end Dirextalk.Control
