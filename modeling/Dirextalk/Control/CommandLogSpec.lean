import Dirextalk.Control.CommandLog
import Dirextalk.Lib.History

/-!
# What the calls of a command log do

Every accepted call repeats, appends one command, acknowledges the next command, moves
the fence of a drained log, or ends the log.  Pending commands therefore carry the fence
of an active log, and a pending barrier is followed by a terminal revoke only.
-/

namespace Dirextalk.Control

open Domain Lib Wire CommandError

namespace CommandLog

variable {log next : CommandLog}

/-! ## Pending commands -/

theorem active_of_not_revoked (unended : log.state ≠ .revoked) : log.state = .active := by
  cases state : log.state with
  | active => rfl
  | revoked => exact absurd state unended

theorem length_pending (log : CommandLog) :
    log.pending.length = log.commands.length - log.acknowledgedSequence :=
  List.length_drop

/-- The commands that are pending after an append. -/
theorem pending_append (cursor : log.acknowledgedSequence ≤ log.commands.length)
    (command : DurableServerCommand) :
    ({ log with commands := log.commands ++ [command] } : CommandLog).pending =
      log.pending ++ [command] :=
  List.drop_append_of_le_length cursor

theorem endsInRevoke_concat (commands : List DurableServerCommand)
    (command : DurableServerCommand) :
    endsInRevoke (commands ++ [command]) = command.isTerminalRevoke := by
  simp [endsInRevoke]

/-- A pending backlog of any size ends with the last command. -/
theorem getLast?_pending (occupied : log.pending ≠ []) :
    log.pending.getLast? = log.commands.getLast? := by
  rw [pending, List.getLast?_drop]
  have bound : ¬log.commands.length ≤ log.acknowledgedSequence := by
    intro drained
    exact occupied (List.drop_eq_nil_of_le drained)
  simp [bound]

theorem pending_acknowledged :
    ({ log with acknowledgedSequence := log.acknowledgedSequence + 1 } : CommandLog).pending =
      log.pending.tail :=
  List.tail_drop.symm

variable [Sha256]

/-! ## Effects of calls -/

/-- The command can be appended. -/
structure Appends (log : CommandLog) (command : DurableServerCommand) : Prop where
  sequence : command.sequence = log.commands.length + 1
  room : log.commands.length + 1 ≤ 2 ^ 53 - 1
  fence : command.generation = log.generation ∧ command.specRevision = log.specRevision
  valid : validatePayload command.payload command.specRevision = .ok ()
  digest : command.encodedCommandDigest = command.exactBytes.encodedCommandDigest
  fresh : command.operationId ∉ log.commands.map (·.operationId)
  active : log.state = .active
  unrevoked : ∀ earlier ∈ log.pending, earlier.isTerminalRevoke = false
  barrier : ∀ earlier ∈ log.pending, earlier.isFenceBarrier = true →
    command.isTerminalRevoke = true
  backlog : maxCommandBacklog ≤ log.commands.length - log.acknowledgedSequence →
    command.isTerminalRevoke = true

/-- What an accepted call does. -/
inductive Effect (log : CommandLog) : LogOperation → CommandLog → Prop
  | same {operation : LogOperation} (known : ∀ operationId, operation.appended = some operationId →
      operationId ∈ log.commands.map (·.operationId)) : Effect log operation log
  | appends {generation : Nat} {specRevision : Revision} {operationId : RequestId}
      {payload : ServerCommandPayload} {payloadDigest : Sha256Digest}
      {exactBytes : ExactCommandBytes}
      (appends : log.Appends (log.newCommand generation specRevision operationId payload
        payloadDigest exactBytes)) :
      Effect log (.append generation specRevision operationId payload payloadDigest exactBytes)
        { log with commands := log.commands ++
          [log.newCommand generation specRevision operationId payload payloadDigest exactBytes] }
  | acknowledges {acknowledgement : CommandAck} {command : DurableServerCommand}
      (found : log.commands[log.acknowledgedSequence]? = some command)
      (digests : acknowledgement.payloadDigest = command.payloadDigest ∧
        acknowledgement.encodedCommandDigest = command.encodedCommandDigest)
      (sequence : acknowledgement.sequence = log.acknowledgedSequence + 1) :
      Effect log (.acknowledge acknowledgement)
        { log with acknowledgedSequence := log.acknowledgedSequence + 1 }
  | advances {expectedGeneration nextGeneration : Nat}
      {expectedSpecRevision nextSpecRevision : Revision}
      (active : log.state = .active)
      (drained : log.acknowledgedSequence = log.commands.length)
      (counted : log.specRevision.checkedNext = .ok nextSpecRevision)
      (grows : nextGeneration = log.generation ∨
        nextGeneration = log.generation + 1 ∧ log.generation + 1 ≤ 2 ^ 53 - 1) :
      Effect log (.advanceFence expectedGeneration expectedSpecRevision nextGeneration
          nextSpecRevision)
        { log with generation := nextGeneration, specRevision := nextSpecRevision }
  | revokes (ends : endsInRevoke log.commands = true) :
      Effect log .revoke { log with state := .revoked }
  | finalizes {expectedGeneration nextGeneration : Nat}
      {expectedSpecRevision nextSpecRevision : Revision} (active : log.state = .active)
      (counted : log.specRevision.checkedNext = .ok nextSpecRevision)
      (ends : endsInRevoke log.commands = true) :
      Effect log (.finalizeRevokeFence expectedGeneration expectedSpecRevision nextGeneration
          nextSpecRevision)
        { log with specRevision := nextSpecRevision, state := .revoked }

variable {command : DurableServerCommand}

theorem append_effect {generation : Nat} {specRevision : Revision} {operationId : RequestId}
    {payload : ServerCommandPayload} {payloadDigest : Sha256Digest} {exactBytes : ExactCommandBytes}
    (accepted : log.append generation specRevision operationId payload payloadDigest exactBytes =
      .ok (command, next)) :
    log.Effect (.append generation specRevision operationId payload payloadDigest exactBytes)
      next := by
  simp only [append, validateFence, bind_eq_ok, rejectIf_eq_ok, Unique.exists_iff, not_or, ne_eq,
    not_not] at accepted
  obtain ⟨⟨rfl, rfl⟩, valid, accepted⟩ := accepted
  split at accepted
  case h_1 existing located =>
    simp only [bind_eq_ok, rejectIf_eq_ok, Unique.exists_iff, pure_eq_ok] at accepted
    cases (Prod.mk.inj accepted.2).2
    apply Effect.same
    intro other same
    cases same
    have matched : existing.operationId = operationId := by simpa using List.find?_some located
    exact List.mem_map.mpr ⟨existing, List.mem_of_find?_eq_some located, matched⟩
  case h_2 absent =>
    simp only [bind_eq_ok, rejectIf_eq_ok, Unique.exists_iff, pure_eq_ok, not_or, not_and,
      Bool.not_eq_true, Bool.not_eq_false] at accepted
    obtain ⟨active, -, ⟨unrevoked, barrier⟩, backlog, room, same⟩ := accepted
    cases same
    apply Effect.appends
    exact {
      sequence := rfl
      room := Nat.not_lt.mp room
      fence := ⟨rfl, rfl⟩
      valid
      digest := rfl
      fresh := by
        intro member
        obtain ⟨existing, listed, same⟩ := List.mem_map.mp member
        exact List.find?_eq_none.mp absent existing listed (decide_eq_true same)
      active := active_of_not_revoked active
      unrevoked := by simpa using unrevoked
      barrier := by
        intro earlier listed isBarrier
        exact barrier (List.any_eq_true.mpr ⟨earlier, listed, isBarrier⟩)
      backlog }

theorem acknowledge_effect {acknowledgement : CommandAck}
    (accepted : log.acknowledge acknowledgement = .ok next) :
    log.Effect (.acknowledge acknowledgement) next := by
  simp only [acknowledge, validateFence, bind_eq_ok, rejectIf_eq_ok, Unique.exists_iff, not_or,
    ne_eq, not_not] at accepted
  obtain ⟨-, ⟨positive, -⟩, accepted⟩ := accepted
  split at accepted
  case isTrue =>
    simp only [bind_eq_ok, rejectIf_eq_ok, okOr_eq_ok, Unique.exists_iff, pure_eq_ok] at accepted
    obtain ⟨-, -, -, rfl⟩ := accepted
    apply Effect.same
    intro operationId impossible
    cases impossible
  case isFalse =>
    simp only [bind_eq_ok, rejectIf_eq_ok, okOr_eq_ok, Unique.exists_iff, pure_eq_ok, not_or,
      not_not, Nat.not_lt] at accepted
    obtain ⟨above, below, command, found, -, digests, rfl⟩ := accepted
    have exactly : acknowledgement.sequence = log.acknowledgedSequence + 1 :=
      Nat.le_antisymm below above
    have here : log.commands[log.acknowledgedSequence]? = some command := by
      rw [exactly] at found
      exact found
    rw [exactly]
    exact .acknowledges here ⟨digests.1.symm, digests.2.symm⟩ exactly

variable {nextGeneration : Nat} {nextSpecRevision : Revision}

theorem advanceFence_effect {expectedGeneration : Nat} {expectedSpecRevision : Revision}
    (accepted : log.advanceFence expectedGeneration expectedSpecRevision nextGeneration
      nextSpecRevision = .ok next) :
    log.Effect (.advanceFence expectedGeneration expectedSpecRevision nextGeneration
      nextSpecRevision) next := by
  simp only [advanceFence, bind_eq_ok, rejectIf_eq_ok, Unique.exists_iff, mapError_eq_ok,
    pure_eq_ok, not_or, not_not, ne_eq, not_and_or] at accepted
  obtain ⟨-, active, drained, _, counted, ⟨rfl, grows⟩, rfl⟩ := accepted
  exact .advances (active_of_not_revoked active) drained counted grows

theorem revoke_effect (accepted : log.revoke = .ok next) : log.Effect .revoke next := by
  simp only [revoke] at accepted
  split at accepted
  case isTrue =>
    cases pure_eq_ok.mp accepted
    apply Effect.same
    intro operationId impossible
    cases impossible
  case isFalse =>
    simp only [bind_eq_ok, rejectIf_eq_ok, Unique.exists_iff, pure_eq_ok,
      Bool.not_eq_false] at accepted
    obtain ⟨ends, rfl⟩ := accepted
    exact .revokes ends

theorem finalizeRevokeFence_effect {expectedGeneration : Nat} {expectedSpecRevision : Revision}
    (accepted : log.finalizeRevokeFence expectedGeneration expectedSpecRevision nextGeneration
      nextSpecRevision = .ok next) :
    log.Effect (.finalizeRevokeFence expectedGeneration expectedSpecRevision nextGeneration
      nextSpecRevision) next := by
  simp only [finalizeRevokeFence] at accepted
  split at accepted
  case isTrue =>
    simp only [bind_eq_ok, rejectIf_eq_ok, Unique.exists_iff, pure_eq_ok] at accepted
    obtain ⟨-, rfl⟩ := accepted
    apply Effect.same
    intro operationId impossible
    cases impossible
  case isFalse unended =>
    simp only [bind_eq_ok, rejectIf_eq_ok, Unique.exists_iff, mapError_eq_ok, pure_eq_ok, not_or,
      not_not, ne_eq, Bool.not_eq_false] at accepted
    obtain ⟨-, _, counted, ⟨-, rfl⟩, ends, rfl⟩ := accepted
    exact .finalizes (active_of_not_revoked unended) counted ends

/-- Every accepted call has one of the effects. -/
theorem effect_of_run {operation : LogOperation} (accepted : log.run operation = .ok next) :
    log.Effect operation next := by
  cases operation with
  | append generation specRevision operationId payload payloadDigest exactBytes =>
    obtain ⟨⟨command, appended⟩, called, rfl⟩ := map_eq_ok.mp accepted
    exact append_effect called
  | acknowledge acknowledgement => exact acknowledge_effect accepted
  | advanceFence => exact advanceFence_effect accepted
  | revoke => exact revoke_effect accepted
  | finalizeRevokeFence => exact finalizeRevokeFence_effect accepted

/-! ## The log along runs -/

/-- What every reached log satisfies. -/
structure Sound (log : CommandLog) : Prop where
  generation : 1 ≤ log.generation ∧ log.generation ≤ 2 ^ 53 - 1
  count : log.commands.length ≤ 2 ^ 53 - 1
  cursor : log.acknowledgedSequence ≤ log.commands.length
  numbered : ∀ index command, log.commands[index]? = some command → command.sequence = index + 1
  distinct : (log.commands.map (·.operationId)).Nodup
  valid : ∀ command ∈ log.commands,
    validatePayload command.payload command.specRevision = .ok () ∧
      command.encodedCommandDigest = command.exactBytes.encodedCommandDigest ∧
      1 ≤ command.generation
  below : ∀ command ∈ log.commands, command.generation ≤ log.generation ∧
    command.specRevision ≤ log.specRevision
  ordered : log.commands.IsChain fun earlier later =>
    earlier.generation ≤ later.generation ∧ earlier.specRevision ≤ later.specRevision
  backlog : log.pending.length ≤ maxCommandBacklog ∨
    log.pending.length = maxCommandBacklog + 1 ∧ endsInRevoke log.commands = true
  barriers : log.pending.Pairwise fun earlier later =>
    earlier.isFenceBarrier = true → later.isTerminalRevoke = true
  lastRevoke : ∀ command ∈ log.pending.dropLast, command.isTerminalRevoke = false
  fence : log.state = .active → ∀ command ∈ log.pending,
    command.generation = log.generation ∧ command.specRevision = log.specRevision
  ended : log.state = .revoked → endsInRevoke log.commands = true

theorem new_sound {tenantId : TenantId} {connectorId : ConnectorId} {generation : Nat}
    {specRevision : Revision}
    (created : CommandLog.new tenantId connectorId generation specRevision = .ok log) :
    log.Sound := by
  simp only [CommandLog.new, validateGeneration, bind_eq_ok, rejectIf_eq_ok, Unique.exists_iff,
    pure_eq_ok, not_or, Nat.not_lt] at created
  obtain ⟨⟨positive, bounded⟩, rfl⟩ := created
  exact {
    generation := ⟨Nat.one_le_iff_ne_zero.mpr positive, bounded⟩
    count := Nat.zero_le _
    cursor := Nat.le_refl _
    numbered := by simp
    distinct := List.nodup_nil
    valid := List.forall_mem_nil _
    below := List.forall_mem_nil _
    ordered := List.IsChain.nil
    backlog := .inl (Nat.zero_le _)
    barriers := List.Pairwise.nil
    lastRevoke := List.forall_mem_nil _
    fence := fun _ => List.forall_mem_nil _
    ended := by
      intro impossible
      cases impossible }

/-- An append starts from a backlog within its bound. -/
theorem Sound.backlog_of_unrevoked (sound : log.Sound)
    (unrevoked : ∀ earlier ∈ log.pending, earlier.isTerminalRevoke = false) :
    log.pending.length ≤ maxCommandBacklog := by
  cases sound.backlog with
  | inl within => exact within
  | inr overflow =>
    have occupied : log.pending ≠ [] := by
      intro empty
      simp [empty] at overflow
    obtain ⟨last, found, revokes⟩ := (Option.any_eq_true _ _).mp overflow.2
    have member := List.mem_of_getLast? ((getLast?_pending occupied).trans found)
    simp [unrevoked last member] at revokes

theorem Sound.append (sound : log.Sound) (appends : log.Appends command) :
    ({ log with commands := log.commands ++ [command] } : CommandLog).Sound := by
  have grown := pending_append sound.cursor command
  obtain ⟨generation, specRevision⟩ := appends.fence
  exact {
    generation := sound.generation
    count := by simpa using appends.room
    cursor := by simpa using Nat.le_succ_of_le sound.cursor
    numbered := by
      intro index found here
      obtain before | ⟨rfl, rfl⟩ := getElem?_concat_eq_some.mp here
      · exact sound.numbered index found before
      · exact appends.sequence
    distinct := by
      rw [List.map_append, List.map_singleton, ← List.concat_eq_append]
      exact List.Nodup.concat appends.fresh sound.distinct
    valid := forall_mem_concat.mpr ⟨sound.valid, appends.valid, appends.digest,
      generation ▸ sound.generation.1⟩
    below := forall_mem_concat.mpr ⟨sound.below, Nat.le_of_eq generation,
      Nat.le_of_eq (congrArg Revision.value specRevision)⟩
    ordered := by
      refine isChain_concat.mpr ⟨sound.ordered, ?_⟩
      intro last found
      rw [generation, specRevision]
      exact sound.below last (List.mem_of_getLast? found)
    backlog := by
      have within := sound.backlog_of_unrevoked appends.unrevoked
      rw [grown, List.length_append, List.length_singleton]
      by_cases full : maxCommandBacklog ≤ log.pending.length
      · refine .inr ⟨by omega, ?_⟩
        rw [endsInRevoke_concat]
        exact appends.backlog (length_pending log ▸ full)
      · exact .inl (by omega)
    barriers := by
      rw [grown, List.pairwise_append]
      refine ⟨sound.barriers, List.pairwise_singleton _ _, ?_⟩
      intro earlier listed later same isBarrier
      rw [List.mem_singleton.mp same]
      exact appends.barrier earlier listed isBarrier
    lastRevoke := by
      rw [grown, List.dropLast_concat]
      exact appends.unrevoked
    fence := by
      intro active
      rw [grown]
      exact forall_mem_concat.mpr ⟨sound.fence active, appends.fence⟩
    ended := by
      intro revoked
      cases appends.active.symm.trans revoked }

theorem Sound.acknowledge (sound : log.Sound)
    (found : log.commands[log.acknowledgedSequence]? = some command) :
    ({ log with acknowledgedSequence := log.acknowledgedSequence + 1 } : CommandLog).Sound := by
  obtain ⟨bound, -⟩ := List.getElem?_eq_some_iff.mp found
  exact {
    generation := sound.generation
    count := sound.count
    cursor := bound
    numbered := sound.numbered
    distinct := sound.distinct
    valid := sound.valid
    below := sound.below
    ordered := sound.ordered
    backlog := by
      rw [pending_acknowledged, List.length_tail]
      cases sound.backlog with
      | inl within => exact .inl (by omega)
      | inr overflow => exact .inl (by omega)
    barriers := by
      rw [pending_acknowledged]
      exact sound.barriers.tail
    lastRevoke := by
      intro later listed
      rw [pending_acknowledged, ← List.tail_dropLast] at listed
      exact sound.lastRevoke later (List.mem_of_mem_tail listed)
    fence := by
      intro active later listed
      rw [pending_acknowledged] at listed
      exact sound.fence active later (List.mem_of_mem_tail listed)
    ended := sound.ended }

/-- A drained log at any later fence. -/
theorem Sound.advance (sound : log.Sound) (active : log.state = .active)
    (drained : log.acknowledgedSequence = log.commands.length)
    (counted : log.specRevision.checkedNext = .ok nextSpecRevision)
    (grows : nextGeneration = log.generation ∨
      nextGeneration = log.generation + 1 ∧ log.generation + 1 ≤ 2 ^ 53 - 1) :
    ({ log with generation := nextGeneration, specRevision := nextSpecRevision } :
      CommandLog).Sound := by
  have empty : log.pending = [] := List.drop_eq_nil_of_le (Nat.le_of_eq drained.symm)
  have range := sound.generation
  exact { sound with
    generation := by
      change 1 ≤ nextGeneration ∧ nextGeneration ≤ 2 ^ 53 - 1
      omega
    below := by
      intro command listed
      obtain ⟨generation, revision⟩ := sound.below command listed
      refine ⟨?_, Revision.le_trans revision (Revision.le_of_checkedNext counted)⟩
      change command.generation ≤ nextGeneration
      omega
    fence := by
      intro _ command listed
      have none : command ∈ log.pending := listed
      simp [empty] at none
    ended := by
      intro revoked
      cases active.symm.trans revoked }

/-- A log that is ended, at its fence or the next revision. -/
theorem Sound.finish (sound : log.Sound) (ends : endsInRevoke log.commands = true)
    (grows : log.specRevision ≤ nextSpecRevision) :
    ({ log with specRevision := nextSpecRevision, state := .revoked } : CommandLog).Sound :=
  { sound with
    below := fun command listed => ⟨(sound.below command listed).1,
      Revision.le_trans (sound.below command listed).2 grows⟩
    fence := by
      intro impossible
      cases impossible
    ended := fun _ => ends }

/-- Every accepted call keeps the log sound. -/
theorem Effect.sound {operation : LogOperation} (effect : log.Effect operation next)
    (sound : log.Sound) : next.Sound := by
  cases effect with
  | same => exact sound
  | appends appends => exact sound.append appends
  | acknowledges found => exact sound.acknowledge found
  | advances active drained counted grows => exact sound.advance active drained counted grows
  | revokes ends => exact sound.finish ends (Revision.le_refl _)
  | finalizes _ counted ends => exact sound.finish ends (Revision.le_of_checkedNext counted)

end CommandLog

theorem reached_log_sound [Sha256] {log : CommandLog} (reached : Reached LogStart LogCall log) :
    log.Sound := by
  apply reached.invariant CommandLog.Sound
  · intro log started
    obtain ⟨tenantId, connectorId, generation, specRevision, created⟩ := started
    exact CommandLog.new_sound created
  · intro log operation next sound called
    exact (CommandLog.effect_of_run called).sound sound

end Dirextalk.Control
