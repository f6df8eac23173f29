import Dirextalk.Membership.Graph
import Dirextalk.Membership.Snapshot

/-!
# Snapshots of coherent books

A coherent book has a complete image, the loader collects its maps back from the
image, and the checks of the graph pass.
-/

namespace Dirextalk.Membership

open Domain Dirextalk.Group Lib Wire

open MembershipCommandError

open Std.ExtTreeMap (mem_toList_iff_getElem?_eq_some)

/-! ## Records and their durable forms -/

@[simp] theorem CommandKind.fromPersistence_persistenceKind (kind : CommandKind) :
    CommandKind.fromPersistence kind.persistenceKind = kind := by
  cases kind <;> rfl

@[simp] theorem WorkflowPhase.fromPersistence_persistencePhase (phase : WorkflowPhase) :
    WorkflowPhase.fromPersistence phase.persistencePhase = phase := by
  cases phase <;> rfl

@[simp] theorem StoredCommand.stored_persistence (commandId : MembershipCommandId)
    (command : StoredCommand) (lookup : IdempotencyLookup) :
    (command.persistence commandId lookup).stored = command := by
  simp [StoredCommand.persistence, MembershipCommandPersistence.stored]

/-! ## Taking a snapshot -/

theorem lookupsByCommand_eq_ok {idempotency : TreeMap IdempotencyLookup MembershipCommandId}
    {index : TreeMap MembershipCommandId IdempotencyLookup} :
    lookupsByCommand idempotency = .ok index ↔
      (idempotency.toList.map Prod.snd).Nodup ∧
        collect Prod.snd Prod.fst idempotency.toList = index := by
  refine (foldlM_eq_ok_iff (fun index entry => ¬entry.2 ∈ index)
    (fun index entry => index.insert entry.2 entry.1) ?_).trans
    (and_congr_left fun _ => (along_fresh Prod.snd (fun index key => key ∈ index)
      fun _ _ _ => mem_insert_key).trans ?_)
  · intro index entry result
    simp only [bind_eq_ok, rejectIf_eq_ok, exists_const, pure_eq_ok]
  · simp

/-- The commands are written one by one, each with the key that the index has for it. -/
theorem persistCommands {entries : List (MembershipCommandId × StoredCommand)}
    (distinct : (entries.map Prod.fst).Nodup) (written : List MembershipCommandPersistence)
    (index : TreeMap MembershipCommandId IdempotencyLookup)
    (indexed : ∀ entry ∈ entries, entry.1 ∈ index) :
    ∃ persisted, entries.foldlM persistCommand (written, index) =
        .ok (written ++ persisted, entries.foldl (fun index entry => index.erase entry.1) index) ∧
      persisted.map (·.commandId) = entries.map Prod.fst ∧
      ∀ record, record ∈ persisted ↔ ∃ entry ∈ entries, ∃ lookup,
        index[entry.1]? = some lookup ∧ record = entry.2.persistence entry.1 lookup := by
  induction entries generalizing written index with
  | nil => exact ⟨[], by simp [List.foldlM]⟩
  | cons first rest ih =>
    obtain ⟨unrepeated, restDistinct⟩ := List.nodup_cons.mp distinct
    obtain ⟨lookup, found⟩ := mem_iff_lookup.mp (indexed first List.mem_cons_self)
    have apart : ∀ entry ∈ rest, entry.1 ≠ first.1 := by
      intro entry member same
      exact unrepeated (same ▸ List.mem_map_of_mem member)
    have kept : ∀ entry ∈ rest, (index.erase first.1)[entry.1]? = index[entry.1]? := by
      intro entry member
      rw [lookup_erase, if_neg (apart entry member)]
    obtain ⟨persisted, folded, ids, members⟩ := ih restDistinct
      (written ++ [first.2.persistence first.1 lookup]) (index.erase first.1) (by
        intro entry member
        exact mem_erase_key.mpr
          ⟨apart entry member, indexed entry (List.mem_cons_of_mem _ member)⟩)
    refine ⟨first.2.persistence first.1 lookup :: persisted, ?_, ?_, ?_⟩
    · simp only [List.foldlM_cons, persistCommand, found, okOr_some, ok_bind, List.foldl_cons]
      change rest.foldlM persistCommand _ = _
      rw [folded, List.append_assoc]
      rfl
    · rw [List.map_cons, ids, List.map_cons]
      rfl
    · intro record
      rw [List.mem_cons, members, List.exists_mem_cons_iff]
      apply or_congr
      · simp [found]
      · refine exists_congr fun entry => and_congr_right fun member => ?_
        rw [kept entry member]

/-! ## Loading a snapshot -/

theorem loadWorkflows_eq_ok {persisted : List MembershipWorkflowPersistence}
    {workflows : TreeMap JoinRequestId JoinWorkflow} :
    MembershipCommandBook.loadWorkflows persisted = .ok workflows ↔
      ((∀ record ∈ persisted, record.joinRequestId = record.context.joinRequestId ∧
          record.context.actorIdentityId = record.context.candidateIdentityId) ∧
        (persisted.map (·.joinRequestId)).Nodup) ∧
      collect (·.joinRequestId)
        (fun record => { context := record.context, phase := .fromPersistence record.phase })
        persisted = workflows := by
  unfold MembershipCommandBook.loadWorkflows
  rw [foldlM_eq_ok_iff
    (fun workflows (record : MembershipWorkflowPersistence) =>
      (record.joinRequestId = record.context.joinRequestId ∧
        record.context.actorIdentityId = record.context.candidateIdentityId) ∧
      ¬record.joinRequestId ∈ workflows)
    (fun workflows record => workflows.insert record.joinRequestId
      { context := record.context, phase := .fromPersistence record.phase }) (by
      intro workflows record result
      simp only [bind_eq_ok, rejectIf_eq_ok, exists_const, pure_eq_ok, not_or, ne_eq, not_not,
        and_assoc]),
    along_and, along_const,
    along_fresh MembershipWorkflowPersistence.joinRequestId
      (fun (workflows : TreeMap JoinRequestId JoinWorkflow) key => key ∈ workflows)
      fun _ _ _ => mem_insert_key]
  simp [collect]

/-- Whether one durable command can be loaded does not depend on those before it,
apart from its id and its key. -/
theorem loadCommands_eq_ok {workflows : TreeMap JoinRequestId JoinWorkflow}
    {persisted : List MembershipCommandPersistence}
    (scopes : ∀ record ∈ persisted,
      scopeForCommand record workflows = .ok record.idempotency.scope)
    (lookups : (persisted.map fun record =>
      IdempotencyLookup.fromPersistence record.idempotency).Nodup)
    (commandIds : (persisted.map (·.commandId)).Nodup) :
    MembershipCommandBook.loadCommands workflows persisted =
      .ok (collect (fun record => .fromPersistence record.idempotency) (·.commandId) persisted,
        collect (·.commandId) (·.stored) persisted) := by
  unfold MembershipCommandBook.loadCommands
  rw [foldlM_eq_ok_iff
    (fun loaded (record : MembershipCommandPersistence) =>
      scopeForCommand record workflows = .ok record.idempotency.scope ∧
      ¬IdempotencyLookup.fromPersistence record.idempotency ∈ loaded.1 ∧
      ¬record.commandId ∈ loaded.2)
    (fun loaded record =>
      (loaded.1.insert (.fromPersistence record.idempotency) record.commandId,
        loaded.2.insert record.commandId record.stored)) (by
      intro loaded record result
      simp only [bind_eq_ok, rejectIf_eq_ok, exists_const, pure_eq_ok, not_or, ne_eq, not_not]
      constructor
      · rintro ⟨scope, expected, rfl, fresh, rfl⟩
        exact ⟨⟨expected, fresh⟩, rfl⟩
      · rintro ⟨⟨expected, fresh⟩, rfl⟩
        exact ⟨_, expected, rfl, fresh, rfl⟩),
    along_and, along_and, along_const,
    along_fresh (fun record : MembershipCommandPersistence =>
        IdempotencyLookup.fromPersistence record.idempotency)
      (fun (loaded : TreeMap IdempotencyLookup MembershipCommandId ×
        TreeMap MembershipCommandId StoredCommand) key => key ∈ loaded.1)
      fun _ _ _ => mem_insert_key,
    along_fresh (fun record : MembershipCommandPersistence => record.commandId)
      (fun (loaded : TreeMap IdempotencyLookup MembershipCommandId ×
        TreeMap MembershipCommandId StoredCommand) key => key ∈ loaded.2)
      fun _ _ _ => mem_insert_key]
  refine ⟨⟨scopes, ⟨lookups, by simp⟩, commandIds, by simp⟩, Prod.ext ?_ ?_⟩
  · exact foldl_part Prod.fst _ (fun _ _ => rfl) persisted _
  · exact foldl_part Prod.snd _ (fun _ _ => rfl) persisted _

namespace MembershipCommandBook

variable [Sha256] {book : MembershipCommandBook}

/-- Every command of the book, with the key it was recorded under. -/
structure Images (book : MembershipCommandBook) (persisted : List MembershipCommandPersistence) :
    Prop where
  commandIds : (persisted.map (·.commandId)).Nodup
  mem_iff : ∀ record, record ∈ persisted ↔
    ∃ (commandId : MembershipCommandId) (lookup : IdempotencyLookup) (command : StoredCommand),
      book.commands[commandId]? = some command ∧ book.idempotency[lookup]? = some commandId ∧
      record = command.persistence commandId lookup

/-- The durable forms of all workflows. -/
def workflowImages (book : MembershipCommandBook) : List MembershipWorkflowPersistence :=
  book.workflows.toList.map fun entry =>
    { joinRequestId := entry.1, context := entry.2.context,
      phase := entry.2.phase.persistencePhase }

theorem scopeForStoredCommand_of_fits {workflows : TreeMap JoinRequestId JoinWorkflow}
    {scope : GroupScope} {command : StoredCommand} (fits : CommandFits workflows scope command) :
    ∃ expected, scopeForStoredCommand command workflows = .ok expected ∧
      ∀ found ∈ expected, scope = found := by
  cases fits with
  | request found sameScope | approval found sameScope =>
    refine ⟨_, by simp [scopeForStoredCommand, StoredCommand.workflow, found]; rfl, ?_⟩
    simp [sameScope]
  | turnedDown => exact ⟨none, rfl, by simp⟩
  | member sameScope => exact ⟨_, rfl, by simp [MembershipAdmission.commitReference, sameScope]⟩

variable (coherent : book.Coherent)
include coherent

/-- The keys of a coherent book, read from the command side. -/
theorem Coherent.lookups_distinct : (book.idempotency.toList.map Prod.snd).Nodup := by
  apply (List.nodup_map_iff_inj_on (toList_nodup _)).mpr
  intro first firstMember second secondMember same
  rw [mem_toList_iff_getElem?_eq_some] at firstMember secondMember
  exact Prod.ext (coherent.distinct _ _ _ _ firstMember secondMember same) same

/-- A coherent book has a complete image. -/
theorem Coherent.snapshot_eq_ok :
    ∃ persisted, book.snapshot = .ok ⟨persisted, book.workflowImages⟩ ∧
      Images book persisted := by
  have collected := lookupsByCommand_eq_ok.mpr ⟨coherent.lookups_distinct, rfl⟩
  generalize index_eq : collect Prod.snd Prod.fst book.idempotency.toList = index at collected
  have index_iff : ∀ (commandId : MembershipCommandId) (lookup : IdempotencyLookup),
      index[commandId]? = some lookup ↔ book.idempotency[lookup]? = some commandId := by
    intro commandId lookup
    rw [← index_eq, lookup_collect coherent.lookups_distinct]
    simp only [Prod.exists, mem_toList_iff_getElem?_eq_some]
    constructor
    · rintro ⟨_, _, found, rfl, rfl⟩
      exact found
    · intro found
      exact ⟨lookup, commandId, found, rfl, rfl⟩
  have indexed : ∀ entry ∈ book.commands.toList, entry.1 ∈ index := by
    intro entry member
    obtain ⟨lookup, mapped⟩ := coherent.indexed entry.1 (mem_iff_lookup.mpr
      ⟨entry.2, mem_toList_iff_getElem?_eq_some.mp member⟩)
    exact mem_iff_lookup.mpr ⟨lookup, (index_iff _ _).mpr mapped⟩
  obtain ⟨persisted, folded, ids, members⟩ :=
    persistCommands (keys_toList_nodup book.commands) [] index indexed
  refine ⟨persisted, ?_, ?_, fun record => ?_⟩
  · have claimed : (book.commands.toList.foldl (fun index entry => index.erase entry.1)
        index).isEmpty = true := by
      apply Std.ExtTreeMap.isEmpty_iff.mpr (Std.ExtTreeMap.eq_empty_iff_forall_not_mem.mpr ?_)
      intro commandId left
      obtain ⟨unlisted, present⟩ := (mem_foldl_erase _ _ _).mp left
      obtain ⟨lookup, found⟩ := mem_iff_lookup.mp present
      obtain ⟨command, stored, -⟩ :=
        coherent.mapped lookup commandId ((index_iff _ _).mp found)
      exact unlisted (List.mem_map.mpr ⟨(commandId, command),
        mem_toList_iff_getElem?_eq_some.mpr stored, rfl⟩)
    simp only [snapshot, collected, ok_bind, folded, claimed, rejectIf, List.nil_append]
    rfl
  · rw [ids]
    exact keys_toList_nodup book.commands
  · rw [members]
    simp only [Prod.exists, mem_toList_iff_getElem?_eq_some, index_iff]
    constructor
    · rintro ⟨commandId, command, stored, lookup, mapped, same⟩
      exact ⟨commandId, lookup, command, stored, mapped, same⟩
    · rintro ⟨commandId, lookup, command, stored, mapped, same⟩
      exact ⟨commandId, command, stored, lookup, mapped, same⟩

theorem Coherent.loadWorkflows_images :
    loadWorkflows book.workflowImages = .ok book.workflows := by
  have ids : book.workflowImages.map (·.joinRequestId) = book.workflows.toList.map Prod.fst := by
    rw [workflowImages, List.map_map]
    rfl
  have distinct := keys_toList_nodup book.workflows
  rw [← ids] at distinct
  refine loadWorkflows_eq_ok.mpr ⟨⟨?_, distinct⟩, ?_⟩
  · intro record member
    obtain ⟨entry, listed, rfl⟩ := List.mem_map.mp member
    have fits := coherent.workflow entry.1 entry.2
      (mem_toList_iff_getElem?_eq_some.mp listed)
    exact ⟨fits.named.symm, fits.self⟩
  · refine Std.ExtTreeMap.ext_getElem? fun workflowId => Option.ext fun workflow => ?_
    rw [lookup_collect distinct]
    simp only [workflowImages, List.mem_map, Prod.exists,
      mem_toList_iff_getElem?_eq_some]
    constructor
    · rintro ⟨_, ⟨key, kept, found, rfl⟩, rfl, rfl⟩
      simpa using found
    · intro found
      exact ⟨_, ⟨workflowId, workflow, found, rfl⟩, rfl, by simp⟩

theorem Coherent.loadCommands_images {persisted : List MembershipCommandPersistence}
    (images : Images book persisted) :
    loadCommands book.workflows persisted = .ok (book.idempotency, book.commands) := by
  have listed : persisted.Nodup := images.commandIds.of_map
  have lookups : (persisted.map fun record =>
      IdempotencyLookup.fromPersistence record.idempotency).Nodup := by
    apply (List.nodup_map_iff_inj_on listed).mpr
    intro first firstMember second secondMember same
    obtain ⟨firstId, firstLookup, firstCommand, firstStored, firstMapped, rfl⟩ :=
      (images.mem_iff first).mp firstMember
    obtain ⟨secondId, secondLookup, secondCommand, secondStored, secondMapped, rfl⟩ :=
      (images.mem_iff second).mp secondMember
    have sameLookup : firstLookup = secondLookup := same
    subst sameLookup
    rw [firstMapped] at secondMapped
    cases secondMapped
    rw [firstStored] at secondStored
    cases secondStored
    rfl
  rw [loadCommands_eq_ok ?_ lookups images.commandIds]
  · congr 2
    · refine Std.ExtTreeMap.ext_getElem? fun lookup => Option.ext fun commandId => ?_
      rw [lookup_collect lookups]
      constructor
      · rintro ⟨record, member, rfl, rfl⟩
        obtain ⟨commandId, lookup, command, stored, mapped, rfl⟩ :=
          (images.mem_iff record).mp member
        exact mapped
      · intro mapped
        obtain ⟨command, stored, -⟩ := coherent.mapped lookup commandId mapped
        exact ⟨_, (images.mem_iff _).mpr ⟨commandId, lookup, command, stored, mapped, rfl⟩, rfl,
          rfl⟩
    · refine Std.ExtTreeMap.ext_getElem? fun commandId => Option.ext fun command => ?_
      rw [lookup_collect images.commandIds]
      constructor
      · rintro ⟨record, member, rfl, rfl⟩
        obtain ⟨commandId, lookup, command, stored, mapped, rfl⟩ :=
          (images.mem_iff record).mp member
        rwa [StoredCommand.stored_persistence]
      · intro stored
        obtain ⟨lookup, mapped, -⟩ := coherent.fits stored
        exact ⟨_, (images.mem_iff _).mpr ⟨commandId, lookup, command, stored, mapped, rfl⟩, rfl,
          by simp⟩
  · intro record member
    obtain ⟨commandId, lookup, command, stored, mapped, rfl⟩ := (images.mem_iff record).mp member
    obtain ⟨same, sameStored, fits⟩ := coherent.mapped lookup commandId mapped
    rw [stored] at sameStored
    cases sameStored
    cases fits with
    | request found sameScope | approval found sameScope =>
      simp [scopeForCommand, StoredCommand.persistence, StoredCommand.workflow, found, sameScope,
        IdempotencyLookup.persistence]
    | turnedDown | member => rfl

/-! ## The checks of the graph pass -/

theorem Coherent.mappedCommands_eq_ok :
    book.mappedCommands = .ok (book.idempotency.toList.foldl
      (fun mapped entry => mapped.insert entry.2) ∅) := by
  unfold mappedCommands
  rw [foldlM_eq_ok_iff
    (fun mapped (entry : IdempotencyLookup × MembershipCommandId) =>
      (∃ command, book.commands[entry.2]? = some command ∧
        ∃ expected, scopeForStoredCommand command book.workflows = .ok expected ∧
          ∀ found ∈ expected, entry.1.scope = found) ∧
      ¬entry.2 ∈ mapped)
    (fun mapped entry => mapped.insert entry.2) (by
      intro mapped entry result
      simp only [bind_eq_ok, okOr_eq_ok, rejectIf_eq_ok, exists_const, pure_eq_ok, not_exists,
        not_and, ne_eq, not_not]
      constructor
      · rintro ⟨command, stored, fresh, expected, scope, same, rfl⟩
        exact ⟨⟨⟨command, stored, expected, scope, same⟩, fresh⟩, rfl⟩
      · rintro ⟨⟨⟨command, stored, expected, scope, same⟩, fresh⟩, rfl⟩
        exact ⟨command, stored, fresh, expected, scope, same, rfl⟩),
    along_and, along_const,
    along_fresh Prod.snd (fun (mapped : TreeSet MembershipCommandId) key => key ∈ mapped)
      fun _ _ _ => mem_set_insert]
  refine ⟨⟨?_, coherent.lookups_distinct, by simp⟩, rfl⟩
  intro entry member
  obtain ⟨command, stored, fits⟩ := coherent.mapped entry.1 entry.2
    (mem_toList_iff_getElem?_eq_some.mp member)
  exact ⟨command, stored, scopeForStoredCommand_of_fits fits⟩

/-- As many commands are mapped as are stored. -/
theorem Coherent.mappedCommands_size :
    (book.idempotency.toList.foldl (fun mapped entry => mapped.insert entry.2)
      (∅ : TreeSet MembershipCommandId)).size = book.commands.size := by
  have lengths : (book.commands.toList.map Prod.fst).length = book.commands.size := by
    rw [List.length_map, Std.ExtTreeMap.length_toList]
  rw [← Std.ExtTreeSet.length_toList, ← lengths]
  apply List.Perm.length_eq
  apply (List.perm_ext_iff_of_nodup (set_toList_nodup _) (keys_toList_nodup _)).mpr
  intro commandId
  rw [Std.ExtTreeSet.mem_toList, mem_foldl_insert_set]
  simp only [List.mem_map, Prod.exists, exists_eq_right, exists_and_right,
    mem_toList_iff_getElem?_eq_some]
  constructor
  · rintro (⟨lookup, mapped⟩ | none)
    · obtain ⟨command, stored, -⟩ := coherent.mapped lookup commandId mapped
      exact ⟨command, stored⟩
    · simp at none
  · rintro ⟨command, stored⟩
    obtain ⟨lookup, mapped, -⟩ := coherent.fits stored
    exact .inl ⟨lookup, mapped⟩

/-- At most one approval observes a workflow. -/
theorem Coherent.singleWorkflowApproval_cases (workflowId : JoinRequestId) :
    (book.singleWorkflowApproval workflowId = .ok none ∧
      ∀ (commandId : MembershipCommandId) command, book.commands[commandId]? = some command →
        command.kind = .approveJoin → command.workflowId ≠ some workflowId) ∨
    ∃ approval, book.singleWorkflowApproval workflowId = .ok (some approval) ∧
      ∀ (commandId : MembershipCommandId) command, book.commands[commandId]? = some command →
        command.kind = .approveJoin → command.workflowId = some workflowId →
        approval = (commandId, command) := by
  have members : ∀ entry, entry ∈ book.commands.toList.filter (fun entry =>
      entry.2.kind = .approveJoin ∧ entry.2.workflowId = some workflowId) ↔
      book.commands[entry.1]? = some entry.2 ∧ entry.2.kind = .approveJoin ∧
        entry.2.workflowId = some workflowId := by
    intro entry
    rw [List.mem_filter, decide_eq_true_eq, mem_toList_iff_getElem?_eq_some]
  have listed : (book.commands.toList.filter (fun entry =>
      entry.2.kind = .approveJoin ∧ entry.2.workflowId = some workflowId)).Nodup :=
    (toList_nodup _).filter _
  unfold singleWorkflowApproval
  generalize book.commands.toList.filter _ = approvals at members listed
  match approvals with
  | [] =>
    left
    refine ⟨rfl, fun commandId command stored approval observes => ?_⟩
    exact absurd ((members (commandId, command)).mpr ⟨stored, approval, observes⟩)
      List.not_mem_nil
  | [approval] =>
    right
    refine ⟨approval, rfl, fun commandId command stored approves observes => ?_⟩
    have member := (members (commandId, command)).mpr ⟨stored, approves, observes⟩
    exact (List.mem_singleton.mp member).symm
  | first :: second :: rest =>
    exfalso
    obtain ⟨firstStored, firstApproves, firstObserves⟩ := (members first).mp List.mem_cons_self
    obtain ⟨secondStored, secondApproves, secondObserves⟩ :=
      (members second).mp (List.mem_cons_of_mem _ List.mem_cons_self)
    have same := coherent.single first.1 second.1 first.2 second.2 workflowId firstStored
      secondStored firstObserves secondObserves (firstApproves.trans secondApproves.symm)
    rw [same, secondStored] at firstStored
    have equal : first = second := Prod.ext same (Option.some.inj firstStored).symm
    exact (List.nodup_cons.mp listed).1 (equal ▸ List.mem_cons_self)

variable {workflowId : JoinRequestId} {commandId : MembershipCommandId}

theorem Coherent.singleWorkflowApproval_eq_some {requestDigest : Sha256Digest}
    (stored : book.commands[commandId]? = some (.workflow .approveJoin requestDigest workflowId)) :
    book.singleWorkflowApproval workflowId =
      .ok (some (commandId, .workflow .approveJoin requestDigest workflowId)) := by
  rcases coherent.singleWorkflowApproval_cases workflowId with ⟨-, none⟩ | ⟨approval, found, only⟩
  · exact absurd rfl (none _ _ stored rfl)
  · rw [found, only _ _ stored rfl rfl]

variable {workflow : JoinWorkflow}

theorem Coherent.validateWorkflowCommand_eq_ok {requestDigest : Sha256Digest}
    (stored : book.commands[commandId]? = some (.workflow .approveJoin requestDigest workflowId))
    (found : book.workflows[workflowId]? = some workflow) :
    validateWorkflowCommand commandId (.workflow .approveJoin requestDigest workflowId) workflow =
      .ok () := by
  cases inFlight : workflow.phase.flight with
  | some flight =>
    obtain ⟨named, owned⟩ := coherent.flying found inFlight
    obtain rfl : flight.commandId = commandId :=
      coherent.single _ _ _ _ workflowId owned stored rfl rfl rfl
    rw [owned] at stored
    cases stored
    have phase := WorkflowPhase.flight_eq_some.mp inFlight
    cases stage : flight.stage <;>
      simp [validateWorkflowCommand, StoredCommand.workflow, phase, stage, named, rejectIf]
  | none =>
    cases phase : workflow.phase with
    | pendingApproval => exact absurd rfl (coherent.unapproved found phase stored rfl)
    | pendingCommit | reconciling => simp [phase, WorkflowPhase.flight] at inFlight
    | committed | rejected =>
      simp [validateWorkflowCommand, StoredCommand.workflow, phase]

theorem Coherent.validateCommand_eq_ok {command : StoredCommand}
    (stored : book.commands[commandId]? = some command) :
    book.validateCommand (commandId, command) = .ok () := by
  obtain ⟨lookup, -, fits⟩ := coherent.fits stored
  cases fits with
  | request found =>
    simp [validateCommand, StoredCommand.workflow, found, validateWorkflowCommand, rejectIf]
  | approval found =>
    have valid := coherent.validateWorkflowCommand_eq_ok stored found
    simpa [validateCommand, StoredCommand.workflow, found] using valid
  | turnedDown => rfl
  | @member kind => cases kind <;> rfl

theorem Coherent.validatePhase_eq_ok (found : book.workflows[workflowId]? = some workflow) :
    book.validatePhase workflowId workflow = .ok () := by
  have fits := (coherent.workflow workflowId workflow found).phase
  generalize phase_eq : workflow.phase = phase at fits
  cases fits with
  | waiting => simp [validatePhase, phase_eq]
  | flying flight inFlight named stored =>
    have phase := WorkflowPhase.flight_eq_some.mp inFlight
    have valid : book.validateFlight workflowId workflow flight.commandId flight.context
        flight.authorizationDigest = .ok () := by
      simp [validateFlight, named, stored, StoredCommand.workflow, rejectIf]
    cases stage : flight.stage <;> simp [validatePhase, phase_eq, phase, stage, valid]
  | applied sameScope stored =>
    simp [validatePhase, phase_eq, coherent.singleWorkflowApproval_eq_some stored, sameScope,
      StoredCommand.workflow, rejectIf]
  | @member reference sameScope commandId requestDigest stored =>
    have origin : ∃ command ∈ values book.commands, command.kind = .approveJoin ∧
        command.workflowId = none ∧
        command.terminalPhase = some (.committed (.alreadyMember reference)) :=
      ⟨_, mem_values.mpr ⟨commandId, stored⟩, rfl, rfl, rfl⟩
    have single : ∃ approval, book.singleWorkflowApproval workflowId = .ok approval := by
      rcases coherent.singleWorkflowApproval_cases workflowId with ⟨none, -⟩ | ⟨_, some, -⟩
      · exact ⟨_, none⟩
      · exact ⟨_, some⟩
    obtain ⟨approval, single⟩ := single
    simp only [validatePhase, phase_eq, single, ok_bind, rejectIf, sameScope, origin, not_true,
      if_false, ne_eq]
  | rejected commandId requestDigest stored =>
    simp [validatePhase, phase_eq, coherent.singleWorkflowApproval_eq_some stored]

theorem Coherent.validateWorkflow_eq_ok (found : book.workflows[workflowId]? = some workflow) :
    book.validateWorkflow (workflowId, workflow) = .ok () := by
  obtain ⟨named, self, ⟨commandId, mapped, stored⟩, -⟩ :=
    coherent.workflow workflowId workflow found
  have requested : ∃ entry ∈ book.commands.toList, entry.2.kind = .requestJoin ∧
      entry.2.workflowId = some workflowId ∧
      entry.2.requestDigest = JoinRequestCommand.requestDigest ⟨workflow.context⟩ ∧
      ∃ lookup ∈ book.idempotency.toList, lookup.2 = entry.1 ∧ lookup.1 = .new workflow.context :=
    ⟨(commandId, _), mem_toList_iff_getElem?_eq_some.mpr stored, rfl, rfl, rfl,
      (_, commandId), mem_toList_iff_getElem?_eq_some.mpr mapped, rfl, rfl⟩
  simp only [validateWorkflow, bind_eq_ok, rejectIf_eq_ok, exists_const, not_or, ne_eq, not_not]
  exact ⟨⟨named, self⟩, requested, coherent.validatePhase_eq_ok found⟩

theorem Coherent.validateSnapshotGraph_eq_ok :
    book.validateSnapshotGraph = .ok () := by
  have commands : book.commands.toList.forM book.validateCommand = .ok () := by
    apply forM_eq_ok.mpr
    intro entry member
    exact coherent.validateCommand_eq_ok (mem_toList_iff_getElem?_eq_some.mp member)
  have workflows : book.workflows.toList.forM book.validateWorkflow = .ok () := by
    apply forM_eq_ok.mpr
    intro entry member
    exact coherent.validateWorkflow_eq_ok
      (mem_toList_iff_getElem?_eq_some.mp member)
  simp only [validateSnapshotGraph, coherent.mappedCommands_eq_ok, ok_bind, rejectIf,
    coherent.mappedCommands_size, ne_eq, not_true, if_false, commands, workflows]

/-- A coherent book is rehydrated from its own snapshot. -/
theorem Coherent.rehydrates :
    ∃ snapshot, book.snapshot = .ok snapshot ∧ tryFromSnapshot snapshot = .ok book := by
  obtain ⟨persisted, taken, images⟩ := coherent.snapshot_eq_ok
  refine ⟨_, taken, ?_⟩
  simp only [tryFromSnapshot, coherent.loadWorkflows_images, ok_bind,
    coherent.loadCommands_images images, coherent.validateSnapshotGraph_eq_ok]
  rfl

end MembershipCommandBook

/-- Every book of a run can be stored and loaded again, and no operation reports an
internal inconsistency. -/
theorem book_rehydrates [Sha256] {book : MembershipCommandBook}
    (reached : Reached Opened BookCall book) :
    (∃ snapshot, book.snapshot = .ok snapshot ∧
      MembershipCommandBook.tryFromSnapshot snapshot = .ok book) ∧
    ∀ operation, (book.run operation).1 ≠ .error .invariantViolation := by
  have coherent := book_coherent reached
  refine ⟨coherent.rehydrates, fun operation failed => ?_⟩
  rcases outcome : book.run operation with ⟨result, next⟩
  rw [outcome] at failed
  cases failed
  exact (coherent.run_rejected outcome).2 rfl

theorem approved_book_rehydrates :
    letI := flatSha256
    approvedBook.phaseAt (.tagged 2) =
        some (.pendingCommit (.tagged 4) sampleApproval.context
          sampleApproval.authorizationDigest) ∧
      ∃ snapshot, approvedBook.snapshot = .ok snapshot ∧
        MembershipCommandBook.tryFromSnapshot snapshot = .ok approvedBook := by
  let _ := flatSha256
  exact ⟨by decide +kernel, (book_rehydrates approvedBook_reached).1⟩

end Dirextalk.Membership
