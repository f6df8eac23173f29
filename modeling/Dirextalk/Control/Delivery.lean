import Dirextalk.Control.LogRehydration

/-!
# Delivery of commands

Commands are appended under one fence, kept for ever and acknowledged one by one, so a
connector that resumes is given every command it has not acknowledged, in order.  They
carry the fence it resumes under, except in a log that `finalize_revoke_fence` has ended:
there all that was pending stays one revision behind.  A connector that acknowledges what
it was given, in order and under the fence of the log, comes to its end.
-/

namespace Dirextalk.Control

open Domain Lib Wire CommandError

namespace CommandLog

variable [Sha256] {log next : CommandLog}

/-! ## One call -/

/-- Commands are only added. -/
def Extends (log next : CommandLog) : Prop := ∃ added, next.commands = log.commands ++ added

/-- The acknowledgement names the next command by both digests. -/
def NextAcknowledged (log : CommandLog) (operation : LogOperation) : Prop :=
  ∃ acknowledgement command, operation = .acknowledge acknowledgement ∧
    log.commands[log.acknowledgedSequence]? = some command ∧
    acknowledgement.payloadDigest = command.payloadDigest ∧
    acknowledgement.encodedCommandDigest = command.encodedCommandDigest

variable {operation : LogOperation}

theorem Effect.extends (effect : log.Effect operation next) : log.Extends next := by
  cases effect with
  | appends => exact ⟨_, rfl⟩
  | same | acknowledges | advances | revokes | finalizes => exact ⟨[], (List.append_nil _).symm⟩

theorem Effect.acknowledged (effect : log.Effect operation next)
    (moved : next.acknowledgedSequence ≠ log.acknowledgedSequence) :
    next.acknowledgedSequence = log.acknowledgedSequence + 1 ∧ log.NextAcknowledged operation := by
  cases effect with
  | acknowledges found digests => exact ⟨rfl, _, _, rfl, found, digests⟩
  | same | appends | advances | revokes | finalizes => exact absurd rfl moved

/-- A retry under the fence of the stored command changes nothing. -/
theorem Sound.retry (sound : log.Sound) {command : DurableServerCommand}
    (listed : command ∈ log.commands) (generation : command.generation = log.generation)
    (specRevision : command.specRevision = log.specRevision) :
    log.append command.generation command.specRevision command.operationId command.payload
      command.payloadDigest command.exactBytes = .ok (command, log) := by
  have located : log.commands.find? (·.operationId = command.operationId) = some command := by
    apply find?_eq_some_of_key sound.distinct listed (decide_eq_true rfl)
    intro other _ matched
    exact of_decide_eq_true matched
  obtain ⟨valid, digest, -⟩ := sound.valid command listed
  simp only [CommandLog.append, validateFence, bind_eq_ok, rejectIf_eq_ok, Unique.exists_iff,
    located, pure_eq_ok]
  exact ⟨by simp [generation, specRevision], valid, by simp [digest], trivial⟩

/-! ## Pending commands -/

/-- A pending configuration or rotation is followed by nothing but one terminal revoke. -/
theorem Sound.after_barrier (sound : log.Sound) {earlier after : List DurableServerCommand}
    {barrier : DurableServerCommand} (pending : log.pending = earlier ++ barrier :: after)
    (isBarrier : barrier.isFenceBarrier = true) :
    after = [] ∨ ∃ revoke, after = [revoke] ∧ revoke.isTerminalRevoke = true := by
  have barriers := sound.barriers
  have lastRevoke := sound.lastRevoke
  rw [pending] at barriers lastRevoke
  obtain ⟨-, follows, -⟩ := List.pairwise_append.mp barriers
  obtain ⟨revokes, -⟩ := List.pairwise_cons.mp follows
  cases after with
  | nil => exact .inl rfl
  | cons revoke rest =>
    have terminal := revokes revoke List.mem_cons_self isBarrier
    cases rest with
    | nil => exact .inr ⟨revoke, rfl, terminal⟩
    | cons other rest =>
      have inside : revoke ∈ (earlier ++ barrier :: revoke :: other :: rest).dropLast := by
        simp
      simp [lastRevoke revoke inside] at terminal

/-- All that is pending carries the fence of the log. -/
def Current (log : CommandLog) : Prop :=
  ∀ command ∈ log.pending,
    command.generation = log.generation ∧ command.specRevision = log.specRevision

/-- The log has ended, one revision after all that is pending. -/
def Lagging (log : CommandLog) : Prop :=
  log.state = .revoked ∧ ∀ command ∈ log.pending,
    command.generation = log.generation ∧
      command.specRevision.checkedNext = .ok log.specRevision

/-- An active log was ended by `finalize_revoke_fence` on the way to this one. -/
def Finalized (log : CommandLog) : Prop :=
  ∃ before expectedGeneration expectedSpecRevision nextGeneration nextSpecRevision ended,
    Reached LogStart LogCall before ∧ before.state = .active ∧
      LogCall before (.finalizeRevokeFence expectedGeneration expectedSpecRevision nextGeneration
        nextSpecRevision) ended ∧ ReachedFrom ended LogCall log

theorem Effect.current (effect : log.Effect operation next) (sound : log.Sound)
    (current : log.Current) : next.Current ∨ log.state = .active ∧
      ∃ expectedGeneration expectedSpecRevision nextGeneration nextSpecRevision,
        operation = .finalizeRevokeFence expectedGeneration expectedSpecRevision nextGeneration
          nextSpecRevision := by
  cases effect with
  | same | revokes => exact .inl current
  | appends appends =>
    left
    unfold Current
    rw [pending_append sound.cursor]
    exact forall_mem_concat.mpr ⟨current, appends.fence⟩
  | acknowledges =>
    left
    intro command listed
    rw [pending_acknowledged] at listed
    exact current command (List.mem_of_mem_tail listed)
  | advances active drained =>
    left
    intro command listed
    have empty : log.pending = [] := List.drop_eq_nil_of_le (Nat.le_of_eq drained.symm)
    have none : command ∈ log.pending := listed
    simp [empty] at none
  | finalizes active => exact .inr ⟨active, _, _, _, _, rfl⟩

theorem Effect.lagging (effect : log.Effect operation next) (lagging : log.Lagging) :
    next.Lagging := by
  have ended : log.state ≠ .active := by simp [lagging.1]
  cases effect with
  | same => exact lagging
  | revokes => exact ⟨rfl, lagging.2⟩
  | appends appends => exact absurd appends.active ended
  | advances active | finalizes active => exact absurd active ended
  | acknowledges =>
    refine ⟨lagging.1, fun command listed => ?_⟩
    rw [pending_acknowledged] at listed
    exact lagging.2 command (List.mem_of_mem_tail listed)

/-! ## Resuming -/

theorem Sound.resume_eq_ok (sound : log.Sound) {cursor generation : Nat} {specRevision : Revision}
    {commands : List DurableServerCommand} :
    log.resume cursor generation specRevision = .ok commands ↔
      (generation = log.generation ∧ specRevision = log.specRevision) ∧
        (log.acknowledgedSequence ≤ cursor ∧ cursor ≤ log.commands.length) ∧
        commands = log.commands.drop log.acknowledgedSequence := by
  simp only [resume, validateFence, bind_eq_ok, rejectIf_eq_ok, Unique.exists_iff, pure_eq_ok,
    not_or, not_not, ne_eq, Nat.not_lt]
  constructor
  · intro accepted
    obtain ⟨fence, below, above, -, rfl⟩ := accepted
    exact ⟨fence, ⟨below, above⟩, rfl⟩
  · intro accepted
    obtain ⟨fence, ⟨below, above⟩, rfl⟩ := accepted
    exact ⟨fence, below, above, sound.cursor, rfl⟩

end CommandLog

variable {log : CommandLog}

/-- Pending commands carry the fence of the log until it is finalized. -/
theorem reached_current [Sha256] (reached : Reached LogStart LogCall log) :
    log.Current ∨ log.Finalized := by
  induction reached with
  | initial started =>
    obtain ⟨tenantId, connectorId, generation, specRevision, created⟩ := started
    simp only [CommandLog.new, bind_eq_ok, pure_eq_ok] at created
    obtain ⟨-, -, rfl⟩ := created
    exact .inl (List.forall_mem_nil _)
  | @next log next operation before called kept =>
    obtain current | finalized := kept
    · apply ((CommandLog.effect_of_run called).current (reached_log_sound before) current).imp id
      rintro ⟨active, _, _, _, _, rfl⟩
      exact ⟨log, _, _, _, _, next, before, active, called, .initial rfl⟩
    · obtain ⟨active, _, _, _, _, ended, reached, state, finalizes, further⟩ := finalized
      exact .inr ⟨active, _, _, _, _, ended, reached, state, finalizes,
        further.next operation called⟩

/-- After it, all that was pending stays one revision behind. -/
theorem CommandLog.Finalized.lagging [Sha256] (finalized : log.Finalized) : log.Lagging := by
  obtain ⟨before, _, _, _, _, ended, reached, active, finalizes, further⟩ := finalized
  apply further.invariant CommandLog.Lagging
  · rintro _ rfl
    cases CommandLog.effect_of_run finalizes with
    | finalizes _ counted =>
      refine ⟨rfl, fun command listed => ?_⟩
      obtain ⟨generation, specRevision⟩ := (reached_log_sound reached).fence active command listed
      exact ⟨generation, specRevision ▸ counted⟩
    | same =>
      simp only [LogCall, CommandLog.run, CommandLog.finalizeRevokeFence, active, reduceCtorEq,
        if_false, bind_eq_ok, pure_eq_ok] at finalizes
      obtain ⟨-, -, _, -, -, -, -, -, same⟩ := finalizes
      exact absurd (congrArg CommandLog.state same) (by simp [active])
  · intro log operation next lagging called
    exact (CommandLog.effect_of_run called).lagging lagging

theorem reachedFrom_extends [Sha256] {later : CommandLog}
    (further : ReachedFrom log LogCall later) : log.Extends later := by
  apply further.invariant log.Extends
  · intro state same
    exact ⟨[], same ▸ (List.append_nil _).symm⟩
  · intro state operation next extended called
    obtain ⟨added, grown⟩ := extended
    obtain ⟨more, called⟩ := (CommandLog.effect_of_run called).extends
    exact ⟨added ++ more, by rw [called, grown, List.append_assoc]⟩

/-- Delivery along every run: commands are kept, numbered, acknowledged one by one and
resumed in full, under their own fence until the log is finalized, and then all of them one
revision behind. -/
theorem command_log_delivers [Sha256] {log : CommandLog} (reached : Reached LogStart LogCall log) :
    (∀ index command, log.commands[index]? = some command → command.sequence = index + 1) ∧
    (log.commands.map (·.operationId)).Nodup ∧
    (∀ later, ReachedFrom log LogCall later → log.Extends later) ∧
    (∀ operation next, LogCall log operation next →
      next.acknowledgedSequence ≠ log.acknowledgedSequence →
        next.acknowledgedSequence = log.acknowledgedSequence + 1 ∧
          log.NextAcknowledged operation) ∧
    (∀ command ∈ log.commands, command.generation = log.generation →
      command.specRevision = log.specRevision →
        log.append command.generation command.specRevision command.operationId command.payload
          command.payloadDigest command.exactBytes = .ok (command, log)) ∧
    (log.state = .active → ∀ command ∈ log.commands.drop log.acknowledgedSequence,
      command.generation = log.generation ∧ command.specRevision = log.specRevision) ∧
    (∀ earlier barrier after,
      log.commands.drop log.acknowledgedSequence = earlier ++ barrier :: after →
      barrier.isFenceBarrier = true →
        after = [] ∨ ∃ revoke, after = [revoke] ∧ revoke.isTerminalRevoke = true) ∧
    ∀ cursor generation specRevision commands,
      (log.resume cursor generation specRevision = .ok commands ↔
        (generation = log.generation ∧ specRevision = log.specRevision) ∧
          (log.acknowledgedSequence ≤ cursor ∧ cursor ≤ log.commands.length) ∧
          commands = log.commands.drop log.acknowledgedSequence) ∧
      (log.resume cursor generation specRevision = .ok commands →
        (¬log.Finalized → ∀ command ∈ commands,
          command.generation = generation ∧ command.specRevision = specRevision) ∧
        (log.Finalized → log.state = .revoked ∧ ∀ command ∈ commands,
          command.generation = generation ∧
            command.specRevision.checkedNext = .ok specRevision)) := by
  have sound := reached_log_sound reached
  refine ⟨sound.numbered, sound.distinct, fun _ => reachedFrom_extends, ?_, ?_, sound.fence, ?_,
    ?_⟩
  · intro operation next called moved
    exact (CommandLog.effect_of_run called).acknowledged moved
  · intro command listed generation specRevision
    exact sound.retry listed generation specRevision
  · intro earlier barrier after pending isBarrier
    exact sound.after_barrier pending isBarrier
  · intro cursor generation specRevision commands
    refine ⟨sound.resume_eq_ok, ?_⟩
    intro resumed
    obtain ⟨⟨rfl, rfl⟩, -, rfl⟩ := sound.resume_eq_ok.mp resumed
    exact ⟨(reached_current reached).resolve_right, CommandLog.Finalized.lagging⟩

/-! ### A log that is ended at its next revision -/

section Sample

attribute [local instance] fixedSha256

/-- A log with a pending terminal revoke. -/
def revokingLog : CommandLog := sampleLog.ran (sampleClose sampleLog 2 .revoked)

/-- The log after the revocation was made final without an acknowledgement. -/
def finalizedLog : CommandLog :=
  revokingLog.ran (.finalizeRevokeFence 1 .initial 1 secondRevision)

theorem finalizedLog_reached :
    Reached LogStart LogCall revokingLog ∧ Reached LogStart LogCall finalizedLog := by
  have started : Reached LogStart LogCall sampleLog :=
    .initial ⟨.tagged 0, .tagged 1, 1, .initial, rfl⟩
  have revoking : Reached LogStart LogCall revokingLog :=
    started.next _ (logCall_ran (by decide +kernel))
  exact ⟨revoking, revoking.next _ (logCall_ran (by decide +kernel))⟩

theorem revokingLog_delivers :
    revokingLog.resume 0 1 .initial = .ok revokingLog.commands ∧
      revokingLog.commands.length = 1 ∧
      (∀ command ∈ revokingLog.commands,
        command.generation = 1 ∧ command.specRevision = .initial) ∧
      ∀ command ∈ finalizedLog.commands,
        command.generation = 1 ∧ command.specRevision.checkedNext = .ok secondRevision := by
  obtain ⟨revoking, finalized⟩ := finalizedLog_reached
  obtain ⟨-, -, -, -, -, -, -, resumes⟩ := command_log_delivers revoking
  have resumed : revokingLog.resume 0 1 .initial = .ok revokingLog.commands :=
    (resumes 0 1 .initial revokingLog.commands).1.mpr (by decide +kernel)
  have unfinalized : ¬revokingLog.Finalized := by
    intro finalized
    exact absurd finalized.lagging.1 (by decide +kernel)
  obtain ⟨-, -, -, -, -, -, -, again⟩ := command_log_delivers finalized
  have ended : finalizedLog.Finalized :=
    ⟨revokingLog, 1, .initial, 1, secondRevision, finalizedLog, revoking, by decide +kernel,
      logCall_ran (by decide +kernel), .initial rfl⟩
  have replayed : finalizedLog.resume 0 1 secondRevision = .ok finalizedLog.commands :=
    (again 0 1 secondRevision finalizedLog.commands).1.mpr (by decide +kernel)
  exact ⟨resumed, by decide +kernel,
    ((resumes 0 1 .initial revokingLog.commands).2 resumed).1 unfinalized,
    (((again 0 1 secondRevision finalizedLog.commands).2 replayed).2 ended).2⟩

/-- The revoke is delivered under the revision after its own. -/
theorem finalizedLog_delivers_old_fence :
    Reached LogStart LogCall finalizedLog ∧
      (finalizedLog.resume 0 1 (sampleRevision 1)).toOption.map
        (·.map fun command => (command.sequence, command.generation, command.specRevision.value)) =
          some [(1, 1, 1)] ∧
      (sampleRevision 1).value = 2 :=
  ⟨finalizedLog_reached.2, by decide +kernel, rfl⟩

end Sample

/-! ## Draining a backlog -/

namespace CommandLog

variable {log : CommandLog}

/-- The acknowledgement of a command under the fence of the log. -/
def ackOf (log : CommandLog) (command : DurableServerCommand) : CommandAck :=
  { command with generation := log.generation, specRevision := log.specRevision }

variable [Sha256]

theorem Sound.acknowledge_next (sound : log.Sound) {cursor : Nat} {command : DurableServerCommand}
    (found : log.commands[cursor]? = some command)
    (generation : command.generation = log.generation) {result : CommandLog} :
    ({ log with acknowledgedSequence := cursor } : CommandLog).acknowledge (log.ackOf command) =
        .ok result ↔
      command.specRevision = log.specRevision ∧
        { log with acknowledgedSequence := cursor + 1 } = result := by
  have sequence := sound.numbered cursor command found
  obtain ⟨bound, -⟩ := List.getElem?_eq_some_iff.mp found
  have room : cursor < 9007199254740991 := bound.trans_le sound.count
  simp only [CommandLog.acknowledge, validateFence, ackOf, CommandLog.command, sequence,
    if_neg (Nat.succ_ne_self cursor), if_neg (Nat.succ_ne_zero cursor), Nat.add_sub_cancel, found,
    bind_eq_ok, rejectIf_eq_ok, okOr_eq_ok, Unique.exists_iff]
  simp [generation, room]

/-- Induction on what is left of the log behind the cursor. -/
theorem Sound.drains (sound : log.Sound) {cursor : Nat} {pending : List DurableServerCommand}
    (within : cursor ≤ log.commands.length) (rest : log.commands.drop cursor = pending)
    (generation : ∀ command ∈ pending, command.generation = log.generation) :
    (pending.map log.ackOf).foldlM CommandLog.acknowledge
        { log with acknowledgedSequence := cursor } =
      .ok { log with acknowledgedSequence := log.commands.length } ↔
      ∀ command ∈ pending, command.specRevision = log.specRevision := by
  induction pending generalizing cursor with
  | nil =>
    have drained := within.antisymm (List.drop_eq_nil_iff.mp rest)
    simp [drained, pure_eq_ok]
  | cons command pending ih =>
    have found : log.commands[cursor]? = some command := by
      rw [← List.head?_drop, rest, List.head?_cons]
    obtain ⟨bound, -⟩ := List.getElem?_eq_some_iff.mp found
    have left : log.commands.drop (cursor + 1) = pending := by
      rw [← List.tail_drop, rest, List.tail_cons]
    obtain ⟨carried, generation⟩ := List.forall_mem_cons.mp generation
    simp only [List.map_cons, List.foldlM_cons, bind_eq_ok, sound.acknowledge_next found carried,
      List.forall_mem_cons, ← ih bound left generation]
    constructor
    · rintro ⟨_, ⟨same, rfl⟩, drains⟩
      exact ⟨same, drains⟩
    · rintro ⟨same, drains⟩
      exact ⟨_, ⟨same, rfl⟩, drains⟩

end CommandLog

/-- Acknowledging the backlog in order succeeds exactly if its commands carry the revision of
the log; so every active log drains, and then its fence can move. -/
theorem backlog_drains [Sha256] {log : CommandLog} (reached : Reached LogStart LogCall log) :
    let drained := { log with acknowledgedSequence := log.commands.length }
    ((log.pending.map log.ackOf).foldlM CommandLog.acknowledge log = .ok drained ↔
      ∀ command ∈ log.pending, command.specRevision = log.specRevision) ∧
    (log.state = .active →
      (log.pending.map log.ackOf).foldlM CommandLog.acknowledge log = .ok drained ∧
      ∀ next, log.specRevision.checkedNext = .ok next →
        drained.advanceFence log.generation log.specRevision log.generation next =
          .ok { drained with specRevision := next }) := by
  have sound := reached_log_sound reached
  have generation : ∀ command ∈ log.pending, command.generation = log.generation := by
    intro command listed
    obtain current | finalized := reached_current reached
    · exact (current command listed).1
    · exact (finalized.lagging.2 command listed).1
  have drains := sound.drains sound.cursor rfl generation
  refine ⟨drains, fun active => ⟨drains.mpr fun command listed =>
    (sound.fence active command listed).2, ?_⟩⟩
  intro next counted
  simp [CommandLog.advanceFence, CommandLog.validateFence, active, counted, rejectIf_neg]

section Sample

attribute [local instance] fixedSha256

/-- The pending revoke is acknowledged. -/
theorem revokingLog_drains : revokingLog.pending.length = 1 ∧
    (revokingLog.pending.map revokingLog.ackOf).foldlM CommandLog.acknowledge revokingLog =
      .ok { revokingLog with acknowledgedSequence := revokingLog.commands.length } :=
  ⟨by decide +kernel, ((backlog_drains finalizedLog_reached.1).2 rfl).1⟩

end Sample

end Dirextalk.Control
