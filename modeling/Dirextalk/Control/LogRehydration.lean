import Dirextalk.Control.CommandLogSpec

/-!
# Rehydration of command logs

The audit of a log's image wants the generations of neighbouring commands to be at most
one apart.  The fence of a drained log may move any number of times before the next
command, so a log is given back exactly if its commands were appended before their
generation was left behind by more than one.
-/

namespace Dirextalk.Control

open Domain Lib Wire CommandError

namespace CommandLog

variable {log next : CommandLog} {command : DurableServerCommand} {index : Nat}

/-- The generations of neighbouring commands are at most one apart. -/
def Contiguous (log : CommandLog) : Prop :=
  log.commands.IsChain fun earlier later => later.generation ≤ earlier.generation + 1

theorem contiguous_iff :
    log.Contiguous ↔ ∀ index command, log.commands[index]? = some command → ∀ previous,
      0 < index → log.commands[index - 1]? = some previous →
        command.generation ≤ previous.generation + 1 := by
  constructor
  · intro contiguous index command found previous later before
    obtain ⟨position, rfl⟩ := Nat.exists_eq_add_one.mpr later
    exact isChain_getElem? contiguous before found
  · intro close
    apply List.isChain_iff_getElem.mpr
    intro index bound
    exact close (index + 1) _ (List.getElem?_eq_getElem bound) _ (Nat.succ_pos index)
      (List.getElem?_eq_getElem (Nat.lt_of_succ_lt bound))

variable [Sha256]

/-! ## The audit -/

theorem Sound.validateDurableCommandSnapshot (sound : log.Sound)
    (found : log.commands[index]? = some command) :
    Control.validateDurableCommandSnapshot command = .ok () := by
  obtain ⟨bound, -⟩ := List.getElem?_eq_some_iff.mp found
  have member := List.mem_of_getElem? found
  obtain ⟨valid, digest, positive⟩ := sound.valid command member
  have sequence := sound.numbered index command found
  have below := (sound.below command member).1
  have highest := sound.generation.2
  have count := sound.count
  simp only [Control.validateDurableCommandSnapshot, rejectIf_eq_ok, not_or, ne_eq, not_not]
  refine ⟨by omega, by omega, by omega, by omega, digest, ?_⟩
  simp [valid, Except.toOption]

/-- A command passes exactly if its generation is at most one after the previous. -/
theorem Sound.checkCommand_eq_ok (sound : log.Sound)
    (found : log.commands[index]? = some command) :
    log.snapshot.checkCommand (command, index) = .ok () ↔
      ∀ previous, 0 < index → log.commands[index - 1]? = some previous →
        command.generation ≤ previous.generation + 1 := by
  have member := List.mem_of_getElem? found
  obtain ⟨generation, specRevision⟩ := sound.below command member
  have first : ¬(command.sequence ≠ index + 1 ∨
      (Control.validateDurableCommandSnapshot command).toOption = none ∨
      command.generation > log.generation ∨ command.specRevision > log.specRevision ∨
      command.operationId ∈ (log.commands.take index).map (·.operationId)) := by
    simp only [not_or, ne_eq, not_not]
    refine ⟨sound.numbered index command found, ?_, Nat.not_lt.mpr generation,
      Revision.not_lt.mpr specRevision, key_notMem_take sound.distinct found⟩
    simp [sound.validateDurableCommandSnapshot found, Except.toOption]
  simp only [CommandLogSnapshot.checkCommand, bind_eq_ok, rejectIf_eq_ok, Unique.exists_iff]
  constructor
  · intro checked previous later before
    have passed := checked.2
    by_contra apart
    apply passed
    refine ⟨later, (Option.any_eq_true _ _).mpr ⟨previous, before, decide_eq_true ?_⟩⟩
    exact .inr (.inr ⟨by omega, by omega⟩)
  · intro close
    refine ⟨first, ?_⟩
    intro refused
    obtain ⟨later, refused⟩ := refused
    obtain ⟨previous, before, invalid⟩ := (Option.any_eq_true _ _).mp refused
    have near := close previous later before
    obtain ⟨position, rfl⟩ := Nat.exists_eq_add_one.mpr later
    have ordered := isChain_getElem? sound.ordered before found
    obtain shrinks | regresses | jumps := of_decide_eq_true invalid
    · exact Nat.not_lt.mpr ordered.1 shrinks
    · exact Revision.not_lt.mpr ordered.2 regresses
    · omega

theorem Sound.checkPending (sound : log.Sound) (found : log.pending[index]? = some command) :
    CommandLogSnapshot.checkPending log.pending (command, index) = .ok () := by
  obtain ⟨bound, -⟩ := List.getElem?_eq_some_iff.mp found
  simp only [CommandLogSnapshot.checkPending, bind_eq_ok, rejectIf_eq_ok, Unique.exists_iff]
  constructor
  · intro refused
    obtain ⟨seen, other⟩ := refused
    obtain ⟨earlier, taken, isBarrier⟩ := List.any_eq_true.mp seen
    obtain ⟨position, before, rfl⟩ := List.mem_take_iff_getElem.mp taken
    obtain ⟨_, rfl⟩ := List.getElem?_eq_some_iff.mp found
    have follows := List.pairwise_iff_getElem.mp sound.barriers position index (by omega) bound
      (by omega) isBarrier
    simp [follows] at other
  · intro refused
    obtain ⟨revokes, early⟩ := refused
    have listed : command ∈ log.pending.dropLast := by
      rw [List.dropLast_eq_take]
      exact List.mem_of_getElem? ((List.getElem?_take_of_lt (by omega)).trans found)
    simp [sound.lastRevoke command listed] at revokes

/-- The audit gives a sound log back exactly if its generations are contiguous. -/
theorem Sound.tryFromSnapshot_eq_ok (sound : log.Sound) :
    CommandLog.tryFromSnapshot log.snapshot = .ok log ↔ log.Contiguous := by
  have rebuilt : ({ log.snapshot with } : CommandLog) = log := rfl
  have commands : log.snapshot.commands.zipIdx.forM log.snapshot.checkCommand = .ok () ↔
      log.Contiguous := by
    rw [forM_eq_ok, contiguous_iff]
    constructor
    · intro checked index command found
      exact (sound.checkCommand_eq_ok found).mp
        (checked (command, index) (List.mk_mem_zipIdx_iff_getElem?.mpr found))
    · intro close entry listed
      have found := List.mk_mem_zipIdx_iff_getElem?.mp listed
      exact (sound.checkCommand_eq_ok found).mpr (close _ _ found)
  have pending : log.pending.zipIdx.forM (CommandLogSnapshot.checkPending log.pending) =
      .ok () := by
    rw [forM_eq_ok]
    intro entry listed
    exact sound.checkPending (List.mk_mem_zipIdx_iff_getElem?.mp listed)
  simp only [CommandLog.tryFromSnapshot, CommandLogSnapshot.validate, validateGeneration,
    bind_eq_ok, rejectIf_eq_ok, Unique.exists_iff, pure_eq_ok, rebuilt, and_true, commands]
  constructor
  · intro accepted
    exact accepted.2.2.1
  · intro contiguous
    have positive := sound.generation
    refine ⟨?_, ?_, contiguous, pending, ?_, ?_⟩
    · change ¬(log.generation = 0 ∨ log.generation > 2 ^ 53 - 1)
      omega
    · simp only [not_or]
      refine ⟨Nat.not_lt.mpr sound.count, Nat.not_lt.mpr sound.cursor, ?_⟩
      intro refused
      obtain ⟨exceeded, unended⟩ := refused
      cases sound.backlog with
      | inl within => exact Nat.not_lt.mpr (length_pending log ▸ within) exceeded
      | inr overflow => exact unended ⟨length_pending log ▸ overflow.1, overflow.2⟩
    · intro refused
      obtain ⟨last, found, ahead⟩ := (Option.any_eq_true _ _).mp refused
      obtain ⟨generation, specRevision⟩ := sound.below last (List.mem_of_getLast? found)
      cases of_decide_eq_true ahead with
      | inl newer => exact Nat.not_lt.mpr generation newer
      | inr newer => exact Revision.not_lt.mpr specRevision newer
    · intro refused
      obtain ⟨revoked, unended⟩ := refused
      have ends : endsInRevoke log.snapshot.commands = true := sound.ended revoked
      simp [ends] at unended

/-! ## Runs -/

/-- A command is added only in the generation of the last one or the next. -/
def CarefulAppend (log : CommandLog) (operation : LogOperation) : Prop :=
  ∀ operationId, operation.appended = some operationId →
    operationId ∉ log.commands.map (·.operationId) →
    ∀ last, log.commands.getLast? = some last → log.generation ≤ last.generation + 1

theorem Effect.contiguous_iff {operation : LogOperation} (effect : log.Effect operation next)
    (contiguous : log.Contiguous) : next.Contiguous ↔ log.CarefulAppend operation := by
  cases effect with
  | same known =>
    refine iff_of_true contiguous ?_
    intro operationId appended fresh
    exact absurd (known operationId appended) fresh
  | appends appends =>
    unfold Contiguous
    rw [isChain_concat, appends.fence.1]
    constructor
    · intro close operationId _ _
      exact close.2
    · intro careful
      exact ⟨contiguous, careful _ rfl appends.fresh⟩
  | acknowledges | advances | revokes | finalizes =>
    refine iff_of_true contiguous ?_
    intro operationId impossible
    cases impossible

end CommandLog

/-- A call that adds no command more than one generation after the last. -/
def CarefulLogCall [Sha256] (log : CommandLog) (operation : LogOperation) (next : CommandLog) :
    Prop :=
  log.CarefulAppend operation ∧ LogCall log operation next

/-- In a run of careful calls the audit gives the log back; and from any reachable log that
it gives back, it gives the next log back exactly when the call is careful. -/
theorem log_rehydration_along_runs [Sha256] (log : CommandLog) :
    (Reached LogStart CarefulLogCall log → CommandLog.tryFromSnapshot log.snapshot = .ok log) ∧
    ∀ operation next, Reached LogStart LogCall log →
      CommandLog.tryFromSnapshot log.snapshot = .ok log → LogCall log operation next →
        (CommandLog.tryFromSnapshot next.snapshot = .ok next ↔ log.CarefulAppend operation) := by
  constructor
  · intro reached
    have sound : log.Sound :=
      reached_log_sound (reached.mono fun _ _ _ taken => taken.2)
    rw [sound.tryFromSnapshot_eq_ok]
    apply reached.invariant CommandLog.Contiguous
    · intro log started
      obtain ⟨tenantId, connectorId, generation, specRevision, created⟩ := started
      simp only [CommandLog.new, bind_eq_ok, pure_eq_ok] at created
      obtain ⟨-, -, rfl⟩ := created
      exact List.IsChain.nil
    · intro log operation next contiguous called
      exact ((CommandLog.effect_of_run called.2).contiguous_iff contiguous).mpr called.1
  · intro operation next reached restored called
    have sound := reached_log_sound reached
    have effect := CommandLog.effect_of_run called
    rw [(effect.sound sound).tryFromSnapshot_eq_ok]
    exact effect.contiguous_iff (sound.tryFromSnapshot_eq_ok.mp restored)

/-! ### Two fences without a command between them -/

section Sample

/-- A digest for concrete runs. -/
abbrev fixedSha256 : Sha256 := ⟨fun _ => taggedBytes 1⟩

attribute [local instance] fixedSha256

/-- The log after a call; a call that is turned down changes nothing. -/
def CommandLog.ran (log : CommandLog) (operation : LogOperation) : CommandLog :=
  (log.run operation).toOption.getD log

theorem logCall_ran {log : CommandLog} {operation : LogOperation}
    (accepted : (log.run operation).toOption.isSome = true) :
    LogCall log operation (log.ran operation) := by
  unfold LogCall CommandLog.ran
  cases result : log.run operation with
  | error refusal => simp [result, Except.toOption] at accepted
  | ok next => rfl

def sampleDigest : Sha256Digest := ⟨taggedBytes 1⟩

def sampleBytes : ExactCommandBytes := ⟨[1], by decide⟩

def sampleRevision (value : Fin 8) : Revision := ⟨value + 1, by omega, by omega⟩

def secondRevision : Revision := sampleRevision 1

def sampleLog : CommandLog where
  tenantId := .tagged 0
  connectorId := .tagged 1
  generation := 1
  specRevision := .initial
  acknowledgedSequence := 0
  state := .active
  commands := []

/-- An append of a stream close at the fence of the log. -/
def sampleClose (log : CommandLog) (tag : UInt8) (reason : CloseStreamReason) : LogOperation :=
  .append log.generation log.specRevision (.tagged tag) (.closeStream ⟨reason, "CLOSED", ""⟩)
    sampleDigest sampleBytes

/-- The acknowledgement of the next command at the fence of the log. -/
def sampleAck (log : CommandLog) : LogOperation :=
  .acknowledge ⟨log.acknowledgedSequence + 1, sampleDigest, sampleDigest, log.generation,
    log.specRevision⟩

/-- The next generation at the next revision. -/
def sampleAdvance (log : CommandLog) (specRevision : Revision) : LogOperation :=
  .advanceFence log.generation log.specRevision (log.generation + 1) specRevision

/-- A log with one command. -/
def closedLog : CommandLog := sampleLog.ran (sampleClose sampleLog 2 .reconnect)

def drainedLog : CommandLog := closedLog.ran (sampleAck closedLog)

def onceMovedLog : CommandLog := drainedLog.ran (sampleAdvance drainedLog secondRevision)

/-- A drained log whose generation has moved twice since its only command. -/
def movedLog : CommandLog := onceMovedLog.ran (sampleAdvance onceMovedLog (sampleRevision 2))

theorem movedLog_reached : Reached LogStart CarefulLogCall movedLog := by
  have started : Reached LogStart CarefulLogCall sampleLog :=
    .initial ⟨.tagged 0, .tagged 1, 1, .initial, rfl⟩
  have first : sampleLog.CarefulAppend (sampleClose sampleLog 2 .reconnect) := by
    intro operationId _ _ last impossible
    cases impossible
  have steady (log : CommandLog) {operation : LogOperation} (other : operation.appended = none) :
      log.CarefulAppend operation := by
    intro operationId appended
    cases other.symm.trans appended
  have closed : Reached LogStart CarefulLogCall closedLog :=
    started.next _ ⟨first, logCall_ran (by decide +kernel)⟩
  have drained : Reached LogStart CarefulLogCall drainedLog :=
    closed.next _ ⟨steady _ rfl, logCall_ran (by decide +kernel)⟩
  have moved : Reached LogStart CarefulLogCall onceMovedLog :=
    drained.next _ ⟨steady _ rfl, logCall_ran (by decide +kernel)⟩
  exact moved.next _ ⟨steady _ rfl, logCall_ran (by decide +kernel)⟩

theorem movedLog_restored :
    CommandLog.tryFromSnapshot movedLog.snapshot = .ok movedLog ∧
      (CommandLog.tryFromSnapshot
          (movedLog.ran (sampleClose movedLog 3 .reconnect)).snapshot =
          .ok (movedLog.ran (sampleClose movedLog 3 .reconnect)) ↔
        movedLog.CarefulAppend (sampleClose movedLog 3 .reconnect)) := by
  have restored := (log_rehydration_along_runs movedLog).1 movedLog_reached
  have reached : Reached LogStart LogCall movedLog :=
    movedLog_reached.mono fun _ _ _ taken => taken.2
  exact ⟨restored, (log_rehydration_along_runs movedLog).2 _ _ reached restored
    (logCall_ran (by decide +kernel))⟩

/-- A command after two moves of the fence: the log accepts it and its image is refused. -/
theorem skipped_generation_blocks_rehydration :
    Reached LogStart LogCall (movedLog.ran (sampleClose movedLog 3 .reconnect)) ∧
      (movedLog.ran (sampleClose movedLog 3 .reconnect)).commands.map (·.generation) = [1, 3] ∧
      CommandLog.tryFromSnapshot (movedLog.ran (sampleClose movedLog 3 .reconnect)).snapshot =
        .error invalidSnapshot := by
  have reached : Reached LogStart LogCall movedLog :=
    movedLog_reached.mono fun _ _ _ taken => taken.2
  refine ⟨.next _ reached (logCall_ran (by decide +kernel)), ?_⟩
  decide +kernel

end Sample

end Dirextalk.Control
