import Dirextalk.Route.Bootstrap

/-!
# Replayed reports

A report is recognised by the state that it left behind, so it can be repeated while the
bootstrap stays in that state and not any longer: the next delivery or the expiry of the
bootstrap turns the same report into a conflict.  A recipient whose target was gone can be
reported again only without a health key, since the cancelled row keeps none.  While it is
installed, a bootstrap is the route of its target.
-/

namespace Dirextalk.Route

open Control Domain Lib Wire

open BootstrapState OutboxState

section Replays

variable {store after : RouteStore} {row later : Bootstrap} {key : BootstrapKey}
  {ready : RecipientReady} {resolution : TerminalResolution} {outbox : DeliveryOutbox}

/-! ## Rows and tables -/

variable {call : ConnectorCall}

@[simp] theorem ConnectorCall.commit_eq_ok :
    call.commit store = .ok after ↔ call.commits = true ∧ store = after := by
  unfold commit
  split <;> simp [*]

@[simp] theorem OwnerCall.commit_eq_ok {call : OwnerCall} :
    call.commit store = .ok after ↔ call.commits = true ∧ store = after := by
  unfold commit
  split <;> simp [*]

theorem of_bind {head : BindingHead} {now : Int64} (bound : store.bind head now = .ok after) :
    after.bootstraps = store.bootstraps ∧ ∀ target, after.head target =
      if target = head.target then some head else store.head target := by
  unfold RouteStore.bind at bound
  split at bound
  case h_1 absent =>
    cases bound
    refine ⟨rfl, fun target => ?_⟩
    split
    case isTrue here =>
      rw [here]
      exact rowAt_concat (rowAt_eq_none.mp absent)
    case isFalse other =>
      rw [RouteStore.head, rowAt_append, Option.or_eq_left_of_none]
      · rfl
      · exact rowAt_eq_none.mpr (by simpa using other)
  case h_2 present found =>
    split at bound
    case isFalse => cases bound
    case isTrue =>
      cases bound
      refine ⟨rfl, fun target => (rowAt_replace head store.heads target).trans ?_⟩
      split
      case isTrue here =>
        rw [here]
        exact congrArg (Option.map fun _ => head) found
      case isFalse => rfl

theorem bootstrap_write (key : BootstrapKey) :
    (store.write later).bootstrap key = if key = later.key then
      (store.bootstrap key).map fun _ => later else store.bootstrap key :=
  rowAt_replace later store.bootstraps key

theorem bootstrap_write_of_found (found : store.bootstrap key = some row)
    (kept : later.key = row.key) : (store.write later).bootstrap key = some later := by
  rw [bootstrap_write, if_pos (kept.trans (key_of_rowAt found)).symm, found, Option.map_some]

theorem bootstrap_append (new : List Bootstrap) (key : BootstrapKey) :
    RouteStore.bootstrap { store with bootstraps := store.bootstraps ++ new } key =
      (store.bootstrap key).or (rowAt Bootstrap.key new key) :=
  rowAt_append new

theorem of_bootstrap_expire {due : Bootstrap → Bool} {now : Int64}
    (found : (store.expire due now).bootstrap key = some row) (unexpired : row.state ≠ expired) :
    store.bootstrap key = some row := by
  have kept (row : Bootstrap) : Bootstrap.key { row with state := .expired } = row.key := rfl
  rw [RouteStore.bootstrap, RouteStore.expire, rowAt_updateWhere kept,
    Option.map_eq_some_iff] at found
  obtain ⟨held, present, rfl⟩ := found
  split at unexpired
  case isTrue => exact absurd rfl unexpired
  case isFalse live =>
    rw [if_neg live]
    exact present

/-! ## What a row becomes -/

/-- What every state says of the other columns. -/
def Bootstrap.Shaped (row : Bootstrap) : Prop :=
  match row.state with
  | .pendingRecipient =>
      row.outbox = none ∧ row.routeFence = none ∧ row.routeHealthKeyId = none ∧
        row.routeHealthPublicKey = none
  | .recipientReady => row.prepareState = .acknowledged ∧ row.outbox = none ∧ row.routeFence = none
  | .pendingDelivery => row.prepareState = .acknowledged ∧ row.routeFence = none
  | .installed | .rejected => row.prepareState = .acknowledged
  | .revoked =>
      row.prepareState = .cancelled ∧ row.outbox = none ∧ row.routeHealthKeyId = none ∧
          row.routeHealthPublicKey = none ∨ row.prepareState = .acknowledged
  | .expired => True

theorem recorded_key : (resolution.recorded row outbox).key = row.key := by
  unfold TerminalResolution.recorded
  split <;> rfl

theorem Bootstrap.Shaped.recorded (shaped : row.Shaped) (pending : row.state = pendingDelivery) :
    (resolution.recorded row outbox).Shaped := by
  simp only [Bootstrap.Shaped, pending] at shaped
  cases outcome : resolution.outcome <;>
    simpa [TerminalResolution.recorded, Bootstrap.Shaped, TerminalOutcome.bootstrapState,
      outcome] using shaped.1

theorem recorded_begun : (resolution.recorded row outbox).begun = row.begun := by
  unfold TerminalResolution.recorded
  split <;> rfl

/-- The order in which a bootstrap moves on. -/
def BootstrapState.rank : BootstrapState → Nat
  | .pendingRecipient => 0
  | .recipientReady => 1
  | .pendingDelivery => 2
  | .installed => 3
  | .rejected | .expired | .revoked => 4

/-- No command of the bootstrap is waiting for its result. -/
def Bootstrap.Closed (row : Bootstrap) : Prop :=
  row.prepareState.unresolved = false ∧ ∀ outbox ∈ row.outbox, outbox.state.unresolved = false

/-- States are left for good, and in its state a closed row does not change. -/
structure Evolves (row later : Bootstrap) : Prop where
  moves : row.state.rank < later.state.rank ∨ later.state = row.state ∧ (row.Closed → later = row)
  acknowledged : row.prepareState = acknowledged → later.prepareState = acknowledged
  installed : row.state = installed ∨ row.state = expired →
    later.state = installed ∨ later.state = expired

theorem Evolves.of_same (evolves : Evolves row later) (same : later.state = row.state)
    (closed : row.Closed) : later = row := by
  rcases evolves.moves with forward | ⟨_, kept⟩
  · simp [same] at forward
  · exact kept closed

theorem Evolves.trans {last : Bootstrap} (first : Evolves row later) (second : Evolves later last) :
    Evolves row last where
  moves := by
    rcases first.moves with forward | ⟨same, kept⟩
    · left
      rcases second.moves with further | ⟨same, _⟩
      · exact forward.trans further
      · rw [same]
        exact forward
    · rcases second.moves with forward | ⟨again, keeps⟩
      · left
        rw [← same]
        exact forward
      · right
        refine ⟨again.trans same, fun closed => ?_⟩
        have unchanged := kept closed
        rw [keeps (unchanged ▸ closed), unchanged]
  acknowledged := fun held => second.acknowledged (first.acknowledged held)
  installed := fun held => second.installed (first.installed held)

theorem DeliveryOutbox.dispatch_resolved {sequence : Nat}
    (resolved : outbox.state.unresolved = false) : outbox.dispatch sequence = outbox := by
  unfold dispatch
  split
  case isTrue pending => simp [pending.2, OutboxState.unresolved] at resolved
  case isFalse => rfl

theorem evolves_recorded (pending : row.state = pendingDelivery) :
    Evolves row (resolution.recorded row outbox) := by
  cases outcome : resolution.outcome <;>
    exact ⟨.inl (by simp [pending, outcome, TerminalResolution.recorded,
      TerminalOutcome.bootstrapState, rank]),
      by simp [TerminalResolution.recorded, outcome], by simp [pending]⟩

theorem closed_of_listed (listed : row.outbox = some outbox)
    (prepared : row.prepareState = acknowledged) (resolved : outbox.state.unresolved = false) :
    row.Closed := by
  refine ⟨by rw [prepared]; rfl, fun held member => ?_⟩
  obtain rfl := Option.some.inj (listed.symm.trans member)
  exact resolved

theorem unresolved_outboxState (outcome : TerminalOutcome) :
    outcome.outboxState.unresolved = false := by
  cases outcome <;> rfl

/-! ## What reports find and write -/

variable [Sha256]

theorem RecipientReady.check_eq_ok :
    ready.check row = .ok () ↔ ready.checkCommand row.begun row.prepare = .ok () ∧
      (ready.healthKeyMatches row = true ∨ freshPending row = true) ∧
      ready.checkReceiptKey row.begun = .ok () := by
  simp only [check, bind_eq_ok, rejectIf_eq_ok, Unique.exists_iff, not_and_or, Bool.not_eq_false]

/-- The row holds what the report says. -/
structure RecipientReady.Stored (ready : RecipientReady) (row : Bootstrap) : Prop where
  state : row.state = recipientReady
  prepareState : row.prepareState = acknowledged
  recipient : row.recipient = some ready.recipient
  result : row.prepareResult = some ready.resultDigest
  healthKeyId : row.routeHealthKeyId = ready.routeHealthKeyId
  healthPublicKey : row.routeHealthPublicKey = ready.routeHealthPublicKey

/-- The report finds its own outcome. -/
def RecipientReady.Settled (ready : RecipientReady) (row : Bootstrap) : Prop :=
  ready.Stored row ∨ row.state = revoked ∧ row.prepareState = cancelled

/-- A recorded report has found its own outcome, or a bootstrap that waits for its recipient. -/
theorem of_recordRecipientReady (recorded : recordRecipientReady ready call store = .ok after) :
    ∃ row, store.bootstrap (ready.tenantId, ready.bootstrapId) = some row ∧
      row.begun.connectorId = ready.connectorId ∧ ready.check row = .ok () ∧
      (ready.Settled row ∧ after = store ∨
        (row.state = pendingRecipient ∧ row.prepareState.unresolved = true) ∧
          (ready.routeHealthKeyId.isSome = ready.routeHealthPublicKey.isSome ∧
              after = store.write (ready.recorded row) ∨
            after = store.write row.cancelled)) := by
  simp only [recordRecipientReady, bind_eq_ok, rejectIf_eq_ok, okOr_eq_ok, Unique.exists_iff,
    Option.filter_eq_some_iff, decide_eq_true_eq] at recorded
  obtain ⟨_, row, ⟨found, connector⟩, checked, outcome⟩ := recorded
  refine ⟨row, found, connector, checked, ?_⟩
  split at outcome
  case isTrue ready =>
    simp only [bind_eq_ok, rejectIf_eq_ok, ConnectorCall.commit_eq_ok, Unique.exists_iff, not_or,
      ne_eq, not_not] at outcome
    obtain ⟨⟨recipient, result, keyId, publicKey⟩, _, same⟩ := outcome
    exact .inl ⟨.inl ⟨ready.1, ready.2, recipient, result, keyId, publicKey⟩, same.symm⟩
  case isFalse =>
    split at outcome
    case isTrue gone => exact .inl ⟨.inr gone, (ConnectorCall.commit_eq_ok.mp outcome).2.symm⟩
    case isFalse =>
      simp only [bind_eq_ok, rejectIf_eq_ok, Unique.exists_iff, not_or, ne_eq, not_not,
        Bool.not_eq_false] at outcome
      obtain ⟨_, waiting, _, written⟩ := outcome
      refine .inr ⟨waiting, ?_⟩
      split at written
      · simp only [bind_eq_ok, rejectIf_eq_ok, ConnectorCall.commit_eq_ok, Unique.exists_iff,
          not_not] at written
        exact .inl ⟨written.1, written.2.2.symm⟩
      · exact .inr (ConnectorCall.commit_eq_ok.mp written).2.symm

/-- A report that finds its own outcome changes nothing. -/
theorem recordRecipientReady_replay (valid : call.fenceValid = true) (commits : call.commits = true)
    (found : store.bootstrap (ready.tenantId, ready.bootstrapId) = some row)
    (connector : row.begun.connectorId = ready.connectorId) (checked : ready.check row = .ok ())
    (settled : ready.Settled row) : recordRecipientReady ready call store = .ok store := by
  have done : call.commit store = .ok store := ConnectorCall.commit_eq_ok.mpr ⟨commits, rfl⟩
  simp only [recordRecipientReady, bind_eq_ok, rejectIf_eq_ok, okOr_eq_ok, Unique.exists_iff,
    Option.filter_eq_some_iff, decide_eq_true_eq]
  refine ⟨by simp [valid], row, ⟨found, connector⟩, checked, ?_⟩
  cases settled with
  | inl stored =>
    rw [if_pos ⟨stored.state, stored.prepareState⟩, rejectIf_neg _ (by
      simp [stored.recipient, stored.result, stored.healthKeyId, stored.healthPublicKey])]
    exact done
  | inr gone =>
    rw [if_neg (by simp [gone.1]), if_pos gone]
    exact done

namespace TerminalResolution

/-- The row and the delivery that the report is about. -/
structure Admitted (resolution : TerminalResolution) (row : Bootstrap) (outbox : DeliveryOutbox) :
    Prop where
  connectorId : row.begun.connectorId = resolution.connectorId
  deliveryId : row.delivery.map (·.deliveryId) = some resolution.deliveryId
  listed : row.outbox = some outbox
  checked : resolution.check row outbox.command = .ok ()

/-- The row holds what the report says. -/
structure Stored (resolution : TerminalResolution) (row : Bootstrap) (outbox : DeliveryOutbox) :
    Prop where
  state : row.state = resolution.outcome.bootstrapState
  outboxState : outbox.state = resolution.outcome.outboxState
  result : outbox.resultDigest = some resolution.resultDigest
  rejectionCode : outbox.rejectionCode = resolution.outcome.rejectionCode
  routeFence : row.routeFence = resolution.outcome.routeFence

/-- The report finds its own outcome. -/
def Settled (resolution : TerminalResolution) (row : Bootstrap) (outbox : DeliveryOutbox) : Prop :=
  resolution.Stored row outbox ∨ row.state = revoked ∧ outbox.state = cancelled

end TerminalResolution

theorem of_resolveTerminal (recorded : resolveTerminal resolution call store = .ok after) :
    ∃ row outbox, store.bootstrap (resolution.tenantId, resolution.bootstrapId) = some row ∧
      resolution.Admitted row outbox ∧
      (resolution.Settled row outbox ∧ after = store ∧
          (row.state ≠ revoked → store.boundTo row.begun.target resolution = true) ∨
        (row.state = pendingDelivery ∧ outbox.state.unresolved = true) ∧
          (after = store.write (row.undelivered outbox) ∨
            (∃ code, resolution.outcome = .rejected code) ∧
              after = store.write (resolution.recorded row outbox) ∨
            ∃ routeFence now, resolution.outcome = .installed routeFence ∧
              (store.write (resolution.recorded row outbox)).bind
                (resolution.binding row.begun routeFence) now = .ok after)) := by
  simp only [resolveTerminal, bind_eq_ok, rejectIf_eq_ok, okOr_eq_ok, Unique.exists_iff,
    Option.filter_eq_some_iff, decide_eq_true_eq] at recorded
  obtain ⟨_, row, ⟨found, connector, delivery⟩, outbox, listed, checked, outcome⟩ := recorded
  refine ⟨row, outbox, found, ⟨connector, delivery, listed, checked⟩, ?_⟩
  split at outcome
  case isTrue resolved =>
    simp only [bind_eq_ok, rejectIf_eq_ok, ConnectorCall.commit_eq_ok, Unique.exists_iff, not_or,
      ne_eq, not_not, Bool.not_eq_false] at outcome
    obtain ⟨⟨result, code, fence⟩, bound, _, same⟩ := outcome
    exact .inl ⟨.inl ⟨resolved.1, resolved.2, result, code, fence⟩, same.symm, fun _ => bound⟩
  case isFalse =>
    split at outcome
    case isTrue gone =>
      exact .inl ⟨.inr gone, (ConnectorCall.commit_eq_ok.mp outcome).2.symm,
        fun live => absurd gone.1 live⟩
    case isFalse =>
      simp only [bind_eq_ok, rejectIf_eq_ok, Unique.exists_iff, not_or, ne_eq, not_not,
        Bool.not_eq_false] at outcome
      obtain ⟨_, waiting, _, written⟩ := outcome
      refine .inr ⟨waiting, ?_⟩
      split at written
      case isTrue =>
        right
        split at written
        case h_1 code rejects =>
          exact .inl ⟨⟨code, rejects⟩, (ConnectorCall.commit_eq_ok.mp written).2.symm⟩
        case h_2 routeFence installs =>
          simp only [bind_eq_ok, ConnectorCall.commit_eq_ok] at written
          obtain ⟨_, binds, _, rfl⟩ := written
          exact .inr ⟨routeFence, call.now, installs, binds⟩
      case isFalse => exact .inl (ConnectorCall.commit_eq_ok.mp written).2.symm

theorem resolveTerminal_replay (valid : call.fenceValid = true) (commits : call.commits = true)
    (found : store.bootstrap (resolution.tenantId, resolution.bootstrapId) = some row)
    (admitted : resolution.Admitted row outbox) (settled : resolution.Settled row outbox)
    (bound : row.state ≠ revoked → store.boundTo row.begun.target resolution = true) :
    resolveTerminal resolution call store = .ok store := by
  have done : call.commit store = .ok store := ConnectorCall.commit_eq_ok.mpr ⟨commits, rfl⟩
  have other : resolution.outcome.bootstrapState ≠ revoked := by
    cases resolution.outcome <;> nofun
  simp only [resolveTerminal, bind_eq_ok, rejectIf_eq_ok, okOr_eq_ok, Unique.exists_iff,
    Option.filter_eq_some_iff, decide_eq_true_eq]
  refine ⟨by simp [valid], row, ⟨found, admitted.connectorId, admitted.deliveryId⟩, outbox,
    admitted.listed, admitted.checked, ?_⟩
  cases settled with
  | inl stored =>
    rw [if_pos ⟨stored.state, stored.outboxState⟩, rejectIf_neg _ (by
      simp [stored.result, stored.rejectionCode, stored.routeFence]), ok_bind,
      rejectIf_neg _ (by simp [bound (stored.state ▸ other)])]
    exact done
  | inr gone =>
    rw [if_neg (fun resolved => other (resolved.1.symm.trans gone.1)), if_pos gone]
    exact done

/-! ## What a transaction does to one row -/

/-- The row after one transaction. -/
inductive RowStep (row : Bootstrap) : Bootstrap → Prop
  | kept : RowStep row row
  | expired (live : row.state.live = true) : RowStep row { row with state := .expired }
  | dispatchedPrepare (pending : row.prepareState = .pending) :
      RowStep row { row with prepareState := .dispatched }
  | dispatchedDelivery (sequence : Nat) :
      RowStep row { row with outbox := row.outbox.map (·.dispatch sequence) }
  | closed (waits : row.state = .pendingRecipient ∨ row.state = .expired)
      (unresolved : row.prepareState.unresolved = true) :
      RowStep row { row with
        state := .expired, prepareState := .cancelled, prepareResult := none }
  | ready (ready : RecipientReady) (waits : row.state = .pendingRecipient) :
      RowStep row (ready.recorded row)
  | cancelled (waits : row.state = .pendingRecipient)
      (unresolved : row.prepareState.unresolved = true) : RowStep row row.cancelled
  | delivered (command : DeliveryCommand) (call : OwnerCall) (ready : row.state = .recipientReady) :
      RowStep row (row.delivered command call)
  | revoked (delivery : Delivery) (ready : row.state = .recipientReady) :
      RowStep row (row.revokedDelivery delivery)
  | undelivered (outbox : DeliveryOutbox) (pending : row.state = .pendingDelivery) :
      RowStep row (row.undelivered outbox)
  | rejected (resolution : TerminalResolution) (outbox : DeliveryOutbox)
      (rejects : ∃ code, resolution.outcome = .rejected code)
      (pending : row.state = .pendingDelivery) : RowStep row (resolution.recorded row outbox)

theorem RowStep.shaped (step : RowStep row later) (shaped : row.Shaped) : later.Shaped := by
  cases step with
  | kept => exact shaped
  | expired => trivial
  | closed => trivial
  | dispatchedPrepare pending =>
    unfold Bootstrap.Shaped at shaped ⊢
    dsimp only
    split <;> simp_all
  | dispatchedDelivery sequence =>
    unfold Bootstrap.Shaped at shaped ⊢
    dsimp only
    split <;> simp_all
  | ready ready waits =>
    simp only [Bootstrap.Shaped, waits] at shaped
    exact ⟨rfl, shaped.1, shaped.2.1⟩
  | cancelled waits =>
    simp only [Bootstrap.Shaped, waits] at shaped
    exact .inl ⟨rfl, shaped.1, shaped.2.2⟩
  | delivered command call ready =>
    simp only [Bootstrap.Shaped, ready] at shaped
    exact ⟨shaped.1, shaped.2.2⟩
  | revoked delivery ready =>
    simp only [Bootstrap.Shaped, ready] at shaped
    exact .inr shaped.1
  | undelivered outbox pending =>
    simp only [Bootstrap.Shaped, pending] at shaped
    exact .inr shaped.1
  | rejected resolution outbox _ pending => exact shaped.recorded pending

theorem RowStep.evolves (step : RowStep row later) : Evolves row later := by
  cases step with
  | kept => exact ⟨.inr ⟨rfl, fun _ => rfl⟩, id, id⟩
  | expired live =>
    refine ⟨.inl ?_, id, fun _ => .inr rfl⟩
    cases state : row.state <;> simp_all [BootstrapState.live, rank]
  | dispatchedPrepare pending =>
    refine ⟨.inr ⟨rfl, fun closed => ?_⟩, by simp [pending], id⟩
    simp [Bootstrap.Closed, pending, OutboxState.unresolved] at closed
  | dispatchedDelivery sequence =>
    refine ⟨.inr ⟨rfl, fun closed => ?_⟩, id, id⟩
    have same : row.outbox.map (·.dispatch sequence) = row.outbox := by
      cases listed : row.outbox with
      | none => rfl
      | some held => rw [Option.map_some, DeliveryOutbox.dispatch_resolved (closed.2 held listed)]
    rw [same]
  | closed waits unresolved =>
    refine ⟨?_, fun held => ?_, fun _ => .inr rfl⟩
    · rcases waits with waits | waits
      · simp [waits, rank]
      · exact .inr ⟨waits.symm, fun closed => by simp [closed.1] at unresolved⟩
    · simp [held, OutboxState.unresolved] at unresolved
  | ready ready waits =>
    exact ⟨.inl (by simp [waits, rank, RecipientReady.recorded]), fun _ => rfl,
      by simp [waits]⟩
  | cancelled waits unresolved =>
    refine ⟨.inl (by simp [waits, rank, Bootstrap.cancelled]), fun held => ?_,
      by simp [waits]⟩
    simp [held, OutboxState.unresolved] at unresolved
  | delivered command call ready =>
    exact ⟨.inl (by simp [ready, rank, Bootstrap.delivered]), id, by simp [ready]⟩
  | revoked delivery ready =>
    exact ⟨.inl (by simp [ready, rank, Bootstrap.revokedDelivery]), id,
      by simp [ready]⟩
  | undelivered outbox pending =>
    exact ⟨.inl (by simp [pending, rank, Bootstrap.undelivered]), id,
      by simp [pending]⟩
  | rejected resolution outbox _ pending => exact evolves_recorded pending

/-- No transaction brings a bootstrap back to life or gives it another target. -/
theorem RowStep.of_live (step : RowStep row later) (live : later.state.live = true) :
    row.state.live = true ∧ row.begun.target = later.begun.target := by
  cases step with
  | expired | closed | cancelled | revoked | undelivered => cases live
  | rejected resolution outbox rejects =>
    obtain ⟨code, rejects⟩ := rejects
    simp [TerminalResolution.recorded, rejects, TerminalOutcome.bootstrapState,
      BootstrapState.live] at live
  | kept | dispatchedPrepare | dispatchedDelivery => exact ⟨live, rfl⟩
  | ready _ waits => exact ⟨by rw [waits]; rfl, rfl⟩
  | delivered _ _ ready => exact ⟨by rw [ready]; rfl, rfl⟩

/-- Only its report installs a bootstrap. -/
theorem RowStep.of_installed (step : RowStep row later) (installs : later.state = installed) :
    row.state = installed ∧ row.routeFence = later.routeFence ∧ row.delivery = later.delivery ∧
      row.sealedBootstrap = later.sealedBootstrap := by
  cases step with
  | expired | closed | cancelled | revoked | undelivered | ready | delivered => cases installs
  | rejected resolution outbox rejects =>
    obtain ⟨code, rejects⟩ := rejects
    simp [TerminalResolution.recorded, rejects, TerminalOutcome.bootstrapState] at installs
  | kept | dispatchedPrepare | dispatchedDelivery => exact ⟨installs, rfl, rfl, rfl⟩

/-! ## What a transaction does to the table -/

/-- What is found under one key before and after a transaction. -/
inductive Moved (fresh : Bootstrap → Prop) : Option Bootstrap → Option Bootstrap → Prop
  | absent : Moved fresh none none
  | began {later : Bootstrap} (begins : fresh later) : Moved fresh none (some later)
  | stepped {row later : Bootstrap} (step : RowStep row later) :
      Moved fresh (some row) (some later)

/-- A transaction that leaves the routes alone. -/
structure Steps (fresh : Bootstrap → Prop) (store after : RouteStore) : Prop where
  moved : ∀ key, Moved fresh (store.bootstrap key) (after.bootstrap key)
  heads : after.heads = store.heads

variable {fresh : Bootstrap → Prop}

theorem Moved.map {change : Bootstrap → Bootstrap} (steps : ∀ row, RowStep row (change row))
    (found : Option Bootstrap) : Moved fresh found (found.map change) := by
  cases found with
  | none => exact .absent
  | some row => exact .stepped (steps row)

theorem Moved.or {found held new : Option Bootstrap} (moved : Moved fresh found held)
    (begins : ∀ later, new = some later → fresh later) : Moved fresh found (held.or new) := by
  cases moved with
  | absent =>
    cases new with
    | none => exact .absent
    | some later => exact .began (begins later rfl)
  | began begins => exact .began begins
  | stepped step => exact .stepped step

theorem Steps.refl (store : RouteStore) : Steps fresh store store :=
  ⟨fun _ => by simpa using Moved.map (fun _ => RowStep.kept) _, rfl⟩

theorem Steps.of_updateWhere {selected : Bootstrap → Prop} [DecidablePred selected]
    {change : Bootstrap → Bootstrap} (kept : ∀ row, (change row).key = row.key)
    (step : ∀ row, selected row → RowStep row (change row)) :
    Steps fresh store
      { store with bootstraps := updateWhere selected change store.bootstraps } := by
  refine ⟨fun key => ?_, rfl⟩
  rw [RouteStore.bootstrap, RouteStore.bootstrap, rowAt_updateWhere kept]
  refine Moved.map (fun row => ?_) _
  split
  case isTrue hit => exact step row hit
  case isFalse => exact .kept

theorem Steps.of_expire (store : RouteStore) (due : Bootstrap → Bool) (now : Int64) :
    Steps fresh store (store.expire due now) :=
  of_updateWhere (fun _ => rfl) fun _ hit => .expired hit.2.1

/-- A row is written over the one that the transaction found. -/
theorem Steps.write (steps : Steps fresh store after) (found : store.bootstrap key = some row)
    (kept : later.key = row.key) (step : RowStep row later) :
    Steps fresh store (after.write later) := by
  refine ⟨fun other => ?_, steps.heads⟩
  have moved := steps.moved other
  rw [bootstrap_write]
  split
  case isTrue here =>
    rw [here, kept, key_of_rowAt found, found] at moved ⊢
    generalize after.bootstrap key = held at moved
    cases moved with
    | stepped => exact .stepped step
  case isFalse => exact moved

/-- A bootstrap as it begins: no other one of its target is live. -/
structure RouteStore.Begins (store : RouteStore) (row : Bootstrap) : Prop where
  shaped : row.Shaped
  pending : row.state = pendingRecipient
  alone : ∀ {key rival}, store.bootstrap key = some rival →
    rival.begun.target = row.begun.target → rival.state.live = true → key = row.key

theorem steps_beginInTransaction {command : BeginCommand} {call : OwnerCall}
    (committed : beginInTransaction command call store = .ok after) :
    Steps after.Begins store after := by
  simp only [beginInTransaction, bind_eq_ok, rejectIf_eq_ok, Unique.exists_iff] at committed
  obtain ⟨_, outcome⟩ := committed
  split at outcome
  case h_1 =>
    simp only [bind_eq_ok, OwnerCall.commit_eq_ok] at outcome
    obtain ⟨_, _, _, rfl⟩ := outcome
    exact .refl store
  case h_2 absent =>
    simp only [bind_eq_ok, rejectIf_eq_ok, okOr_eq_ok, OwnerCall.commit_eq_ok,
      Unique.exists_iff] at outcome
    obtain ⟨connectorId, _, alone, _, rfl⟩ := outcome
    refine ⟨fun key => ?_, rfl⟩
    rw [bootstrap_append]
    refine ((Steps.of_expire _ _ _).moved key).or fun later new => ?_
    obtain rfl := List.mem_singleton.mp (mem_of_rowAt new)
    refine ⟨⟨rfl, rfl, rfl, rfl⟩, rfl, fun {other rival} found same live => ?_⟩
    obtain held | new := List.mem_append.mp (mem_of_rowAt found)
    · exact absurd ⟨rival, held, same, live⟩ alone
    · rw [← key_of_rowAt found, List.mem_singleton.mp new]

theorem steps_deliverInTransaction {command : DeliveryCommand} {call : OwnerCall}
    (committed : deliverInTransaction command call store = .ok after) :
    Steps fresh store after := by
  simp only [deliverInTransaction, bind_eq_ok, rejectIf_eq_ok, okOr_eq_ok,
    Unique.exists_iff] at committed
  obtain ⟨_, row, found, _, _, outcome⟩ := committed
  split at outcome
  case h_1 =>
    simp only [bind_eq_ok, OwnerCall.commit_eq_ok] at outcome
    obtain ⟨_, _, _, rfl⟩ := outcome
    exact .of_expire _ _ _
  case h_2 =>
    simp only [bind_eq_ok, rejectIf_eq_ok, OwnerCall.commit_eq_ok, Unique.exists_iff, not_or,
      ne_eq, not_not] at outcome
    obtain ⟨⟨ready, _⟩, _, rfl⟩ := outcome
    have before := of_bootstrap_expire found (by simp [ready])
    split
    · exact (Steps.of_expire _ _ _).write before rfl (.delivered command call ready)
    · exact (Steps.of_expire _ _ _).write before rfl (.revoked command.delivery ready)

/-- A bootstrap is installed, and its route is the one of its target. -/
structure Installs (store after : RouteStore) (row : Bootstrap) (outbox : DeliveryOutbox)
    (resolution : TerminalResolution) (routeFence : FixedBytes 32) : Prop where
  found : store.bootstrap row.key = some row
  pending : row.state = pendingDelivery
  admitted : resolution.Admitted row outbox
  outcome : resolution.outcome = .installed routeFence
  bootstraps : after.bootstraps = (store.write (resolution.recorded row outbox)).bootstraps
  head : ∀ target, after.head target = if target = row.begun.target then
    some (resolution.binding row.begun routeFence) else store.head target

/-- A bootstrap has been installed. -/
def Installed (store after : RouteStore) : Prop :=
  ∃ row outbox resolution routeFence, Installs store after row outbox resolution routeFence

theorem Installs.bootstrap {routeFence : FixedBytes 32}
    (installs : Installs store after row outbox resolution routeFence) (key : BootstrapKey) :
    after.bootstrap key =
      if key = row.key then some (resolution.recorded row outbox) else store.bootstrap key := by
  rw [RouteStore.bootstrap, installs.bootstraps]
  refine (bootstrap_write key).trans ?_
  rw [recorded_key]
  split
  case isTrue here => rw [here, installs.found, Option.map_some]
  case isFalse => rfl

theorem Report.steps_record {report : Report} (recorded : report.record call store = .ok after) :
    Steps fresh store after ∨ Installed store after := by
  cases report with
  | recipientReady ready =>
    left
    obtain ⟨row, found, _, _, outcome⟩ := of_recordRecipientReady recorded
    rcases outcome with ⟨_, rfl⟩ | ⟨⟨waits, unresolved⟩, ⟨_, rfl⟩ | rfl⟩
    · exact .refl _
    · exact (Steps.refl _).write found rfl (.ready ready waits)
    · exact (Steps.refl _).write found rfl (.cancelled waits unresolved)
  | terminal resolution =>
    obtain ⟨row, outbox, found, admitted, outcome⟩ := of_resolveTerminal recorded
    rcases outcome with ⟨_, rfl, _⟩ | ⟨⟨pending, _⟩, rfl | ⟨rejects, rfl⟩ | installs⟩
    · exact .inl (.refl _)
    · exact .inl ((Steps.refl _).write found rfl (.undelivered outbox pending))
    · exact .inl ((Steps.refl _).write found recorded_key
        (.rejected resolution outbox rejects pending))
    · obtain ⟨routeFence, now, outcome, binds⟩ := installs
      obtain ⟨bootstraps, head⟩ := of_bind binds
      exact .inr ⟨row, outbox, resolution, routeFence, key_of_rowAt found ▸ found, pending,
        admitted, outcome, bootstraps, head⟩

theorem Commits.steps (commits : Commits store () after) :
    Steps after.Begins store after ∨ Installed store after := by
  cases commits with
  | began command call committed => exact .inl (steps_beginInTransaction committed)
  | viewed key call committed =>
    simp only [getAgentRouteBootstrap, bind_eq_ok, OwnerCall.commit_eq_ok] at committed
    obtain ⟨_, _, _, _, _, rfl⟩ := committed
    exact .inl (.of_expire _ _ _)
  | delivered command call committed => exact .inl (steps_deliverInTransaction committed)
  | dispatchedPrepare key sequence =>
    exact .inl (.of_updateWhere (fun _ => rfl) fun _ hit => .dispatchedPrepare hit.2.2)
  | dispatchedDelivery tenantId deliveryId sequence =>
    exact .inl (.of_updateWhere (fun _ => rfl) fun _ _ => .dispatchedDelivery sequence)
  | acknowledgedExpired key connectorId echo call committed =>
    left
    simp only [acknowledgeExpiredPrepare, bind_eq_ok, rejectIf_eq_ok, okOr_eq_ok,
      Unique.exists_iff, Option.filter_eq_some_iff] at committed
    obtain ⟨row, ⟨found, _⟩, _, outcome⟩ := committed
    split at outcome
    case isTrue =>
      simp only [bind_eq_ok, ConnectorCall.commit_eq_ok] at outcome
      obtain ⟨_, _, _, rfl⟩ := outcome
      exact .refl store
    case isFalse =>
      simp only [bind_eq_ok, rejectIf_eq_ok, ConnectorCall.commit_eq_ok, Unique.exists_iff,
        not_not] at outcome
      obtain ⟨⟨waits, unresolved⟩, _, _, rfl⟩ := outcome
      exact (Steps.refl store).write found rfl (.closed waits unresolved)
  | reported report call committed => exact Report.steps_record committed

/-- A row after a transaction: one that begins, one that has moved, or one that its report
installs. -/
theorem Commits.of_found (commits : Commits store () after)
    (found : after.bootstrap key = some later) :
    after.Begins later ∨ (∃ row, store.bootstrap key = some row ∧ RowStep row later) ∨
      ∃ row outbox resolution routeFence, Installs store after row outbox resolution routeFence ∧
        key = row.key ∧ later = resolution.recorded row outbox := by
  obtain steps | ⟨row, outbox, resolution, routeFence, installs⟩ := commits.steps
  · have moved := steps.moved key
    rw [found] at moved
    generalize store.bootstrap key = before at moved
    cases moved with
    | began begins => exact .inl begins
    | stepped step => exact .inr (.inl ⟨_, rfl, step⟩)
  · rw [installs.bootstrap] at found
    split at found
    case isTrue here =>
      exact .inr (.inr ⟨row, outbox, resolution, routeFence, installs, here,
        (Option.some.inj found).symm⟩)
    case isFalse => exact .inr (.inl ⟨later, found, .kept⟩)

/-! ## Reached tables -/

/-- At most one bootstrap of a target is live. -/
def RouteStore.OneLive (store : RouteStore) : Prop :=
  ∀ {key other row rival}, store.bootstrap key = some row → store.bootstrap other = some rival →
    row.begun.target = rival.begun.target → row.state.live = true → rival.state.live = true →
      key = other

/-- The route of an installed bootstrap is the one of its target. -/
def RouteStore.Bound (store : RouteStore) : Prop :=
  ∀ {key row}, store.bootstrap key = some row → row.state = installed →
    ∃ head, store.head row.begun.target = some head ∧ row.routeFence = some head.routeFence ∧
      row.delivery.map (·.routeId) = some head.routeId ∧
      row.sealedBootstrap.map (·.capsuleDigest) = some head.capsuleDigest

/-- What every reached table holds. -/
structure RouteStore.Sound (store : RouteStore) : Prop where
  shaped : ∀ {key row}, store.bootstrap key = some row → row.Shaped
  oneLive : store.OneLive
  bound : store.Bound

/-- A live row was live before, or it begins. -/
theorem Commits.of_live (commits : Commits store () after)
    (found : after.bootstrap key = some later) (live : later.state.live = true) :
    after.Begins later ∨ ∃ row, store.bootstrap key = some row ∧ row.state.live = true ∧
      row.begun.target = later.begun.target := by
  rcases commits.of_found found with begins | ⟨row, held, step⟩ | ⟨row, _, _, _, installs, rfl, rfl⟩
  · exact .inl begins
  · exact .inr ⟨row, held, step.of_live live⟩
  · exact .inr ⟨row, installs.found, by rw [installs.pending]; rfl, by rw [recorded_begun]⟩

theorem RouteStore.Sound.oneLive_step (sound : store.Sound) (commits : Commits store () after) :
    after.OneLive := by
  intro key other row rival found held same live rivals
  rcases commits.of_live found live with begins | ⟨before, present, lived, target⟩
  · rw [← key_of_rowAt found]
    exact (begins.alone held same.symm rivals).symm
  · rcases commits.of_live held rivals with begins | ⟨earlier, listed, living, aim⟩
    · rw [← key_of_rowAt held]
      exact begins.alone found same live
    · exact sound.oneLive present listed (target.trans (same.trans aim.symm)) lived living

theorem TerminalResolution.Admitted.names (admitted : resolution.Admitted row outbox) :
    row.delivery.map (·.routeId) = some resolution.routeId ∧
      row.sealedBootstrap.map (·.capsuleDigest) = some resolution.capsuleDigest := by
  have checked := admitted.checked
  simp only [check, bind_eq_ok, okOr_eq_ok, rejectIf_eq_ok, Unique.exists_iff, not_or, ne_eq,
    not_not] at checked
  obtain ⟨_, _, delivery, held, content, present, ⟨_, _, route, capsule, _⟩, _⟩ := checked
  rw [held, present, route, capsule]
  exact ⟨rfl, rfl⟩

/-- While a bootstrap is installed no other one of its target is live, so none is bound. -/
theorem RouteStore.Sound.bound_step (sound : store.Sound) (commits : Commits store () after) :
    after.Bound := by
  intro key later found installs
  rcases commits.of_found found with begins | ⟨row, held, step⟩ | ⟨row, _, _, _, written, rfl, rfl⟩
  · simp [begins.pending] at installs
  · obtain ⟨was, fence, delivery, content⟩ := step.of_installed installs
    obtain ⟨_, target⟩ := step.of_live (by rw [installs]; rfl)
    obtain ⟨head, bound, names⟩ := sound.bound held was
    have kept : after.head later.begun.target = store.head row.begun.target := by
      obtain steps | ⟨other, _, _, _, written⟩ := commits.steps
      · rw [RouteStore.head, steps.heads, target]
        rfl
      · rw [written.head, if_neg, target]
        intro same
        have alone := sound.oneLive held written.found (target.trans same) (by rw [was]; rfl)
          (by rw [written.pending]; rfl)
        have one := Option.some.inj (held.symm.trans (alone ▸ written.found))
        simp [one, written.pending] at was
    rw [fence, delivery, content] at names
    exact ⟨head, kept.trans bound, names⟩
  · obtain ⟨route, capsule⟩ := written.admitted.names
    refine ⟨_, by rw [written.head, recorded_begun, if_pos rfl], ?_⟩
    simp only [TerminalResolution.recorded, written.outcome]
    exact ⟨rfl, route, capsule⟩

theorem RouteStore.Sound.step (sound : store.Sound) (commits : Commits store () after) :
    after.Sound := by
  refine ⟨fun {key later} found => ?_, sound.oneLive_step commits, sound.bound_step commits⟩
  rcases commits.of_found found with begins | ⟨row, held, step⟩ | ⟨row, _, _, _, installs, rfl, rfl⟩
  · exact begins.shaped
  · exact step.shaped (sound.shaped held)
  · exact (sound.shaped installs.found).recorded installs.pending

theorem reached_sound (reached : Reached Unused Commits store) : store.Sound := by
  refine reached.invariant RouteStore.Sound ?_ fun _ _ _ sound commits => sound.step commits
  rintro _ rfl
  exact ⟨nofun, nofun, nofun⟩

/-- A row stays in the table, and its states in their order. -/
theorem evolves_later {first : RouteStore} (later : ReachedFrom first Commits store)
    (found : first.bootstrap key = some row) :
    ∃ last, store.bootstrap key = some last ∧ Evolves row last := by
  refine later.invariant (fun store => ∃ last, store.bootstrap key = some last ∧ Evolves row last)
    (fun store start => ⟨row, start ▸ found, RowStep.kept.evolves⟩) ?_
  intro store label after ⟨last, present, evolves⟩ commits
  obtain steps | ⟨held, outbox, resolution, routeFence, installs⟩ := commits.steps
  · have moved := steps.moved key
    rw [present] at moved
    generalize after.bootstrap key = next at moved
    cases moved with
    | stepped step => exact ⟨_, rfl, evolves.trans step.evolves⟩
  · rw [installs.bootstrap]
    split
    case isTrue here =>
      obtain rfl : last = held := Option.some.inj (present.symm.trans (here ▸ installs.found))
      exact ⟨_, rfl, evolves.trans (evolves_recorded installs.pending)⟩
    case isFalse => exact ⟨last, present, evolves⟩

/-! ## Repeated reports -/

namespace RecipientReady

/-- The report carries no key for the health of its route. -/
def Keyless (ready : RecipientReady) : Prop :=
  ready.routeHealthKeyId = none ∧ ready.routeHealthPublicKey = none

/-- What a recorded report leaves: its recipient, or a bootstrap whose target was gone. -/
structure Left (ready : RecipientReady) (row : Bootstrap) : Prop where
  connectorId : row.begun.connectorId = ready.connectorId
  command : ready.checkCommand row.begun row.prepare = .ok ()
  receiptKey : ready.checkReceiptKey row.begun = .ok ()
  closed : row.Closed
  outcome : ready.Stored row ∧ ready.healthKeyMatches row = true ∨
    (row.state = revoked ∧ row.prepareState = cancelled) ∧
      row.routeHealthKeyId = none ∧ row.routeHealthPublicKey = none

theorem left_of_recorded
    (shaped : ∀ {key row}, store.bootstrap key = some row → row.Shaped)
    (accepted : recordRecipientReady ready call store = .ok after) :
    ∃ row, after.bootstrap (ready.tenantId, ready.bootstrapId) = some row ∧ ready.Left row := by
  obtain ⟨row, found, connector, checked, outcome⟩ := of_recordRecipientReady accepted
  obtain ⟨command, health, receipt⟩ := check_eq_ok.mp checked
  have shape := shaped found
  rcases outcome with ⟨stored | gone, rfl⟩ | ⟨⟨waits, unresolved⟩, outcome⟩
  · have matched : ready.healthKeyMatches row = true := health.resolve_right fun fresh => by
      simp [freshPending, stored.state] at fresh
    simp only [Bootstrap.Shaped, stored.state] at shape
    refine ⟨row, found, connector, command, receipt, ⟨?_, ?_⟩, .inl ⟨stored, matched⟩⟩
    · rw [stored.prepareState]; rfl
    · simp [shape.2.1]
  · simp only [Bootstrap.Shaped, gone.1, gone.2, reduceCtorEq, or_false, true_and] at shape
    refine ⟨row, found, connector, command, receipt, ⟨?_, ?_⟩, .inr ⟨gone, shape.2⟩⟩
    · rw [gone.2]; rfl
    · simp [shape.1]
  · simp only [Bootstrap.Shaped, waits] at shape
    rcases outcome with ⟨paired, rfl⟩ | rfl
    · refine ⟨ready.recorded row, bootstrap_write_of_found found rfl, connector, command, receipt,
        ⟨rfl, ?_⟩, .inl ⟨⟨rfl, rfl, rfl, rfl, rfl, rfl⟩, ?_⟩⟩
      · simp [recorded, shape.1]
      · simp [healthKeyMatches, recorded, paired]
    · refine ⟨row.cancelled, bootstrap_write_of_found found rfl, connector, command, receipt,
        ⟨rfl, ?_⟩, .inr ⟨⟨rfl, rfl⟩, shape.2.2⟩⟩
      simp [Bootstrap.cancelled, shape.1]

theorem replays_iff (left : ready.Left row)
    (found : store.bootstrap (ready.tenantId, ready.bootstrapId) = some later)
    (evolves : Evolves row later) (valid : call.fenceValid = true)
    (commits : call.commits = true) :
    recordRecipientReady ready call store = .ok store ↔
      later.state = row.state ∧ (later.state = revoked → ready.Keyless) := by
  constructor
  · intro replayed
    obtain ⟨held, listed, _, checked, outcome⟩ := of_recordRecipientReady replayed
    obtain rfl : held = later := Option.some.inj (listed.symm.trans found)
    have same : held.state = row.state := by
      refine (evolves.moves.resolve_left fun forward => ?_).1
      rcases left.outcome with ⟨stored, _⟩ | ⟨⟨gone, _⟩, _⟩
      · have acknowledges := evolves.acknowledged stored.prepareState
        rcases outcome with ⟨again | ⟨_, cancels⟩, _⟩ | ⟨⟨waits, _⟩, _⟩
        · simp [stored.state, again.state] at forward
        · simp [acknowledges] at cancels
        · simp [waits, rank] at forward
      · cases state : held.state <;> simp [gone, state, rank] at forward
    refine ⟨same, fun gone => ?_⟩
    obtain rfl := evolves.of_same same left.closed
    rcases left.outcome with ⟨stored, _⟩ | ⟨_, keyId, publicKey⟩
    · simp [stored.state] at gone
    · obtain ⟨_, health, _⟩ := check_eq_ok.mp checked
      simp only [healthKeyMatches, freshPending, gone, keyId, publicKey, reduceCtorEq, false_and,
        decide_false, Bool.false_eq_true, or_false, decide_eq_true_eq] at health
      exact ⟨health.2.1.symm, health.2.2.symm⟩
  · intro ⟨same, keyless⟩
    obtain rfl := evolves.of_same same left.closed
    rcases left.outcome with ⟨stored, matched⟩ | ⟨gone, keyId, publicKey⟩
    · exact recordRecipientReady_replay valid commits found left.connectorId
        (check_eq_ok.mpr ⟨left.command, .inl matched, left.receiptKey⟩) (.inl stored)
    · obtain ⟨noKey, noPublicKey⟩ := keyless gone.1
      have matched : ready.healthKeyMatches later = true := by
        simp [healthKeyMatches, keyId, publicKey, noKey, noPublicKey]
      exact recordRecipientReady_replay valid commits found left.connectorId
        (check_eq_ok.mpr ⟨left.command, .inl matched, left.receiptKey⟩) (.inr gone)

end RecipientReady

namespace TerminalResolution

/-- What a recorded report leaves: its outcome, or a bootstrap whose target was gone. -/
structure Left (resolution : TerminalResolution) (row : Bootstrap) (outbox : DeliveryOutbox) :
    Prop where
  admitted : resolution.Admitted row outbox
  closed : row.Closed
  settled : resolution.Settled row outbox

theorem Admitted.recorded (admitted : resolution.Admitted row outbox)
    (prepared : row.prepareState = acknowledged) (unfenced : row.routeFence = none) :
    resolution.Left (resolution.recorded row outbox) (resolution.resolvedOutbox outbox) := by
  obtain ⟨connector, delivery, _, checked⟩ := admitted
  unfold TerminalResolution.recorded
  cases outcome : resolution.outcome with
  | installed routeFence =>
    refine ⟨⟨connector, delivery, rfl, checked⟩,
      closed_of_listed rfl prepared (unresolved_outboxState _), .inl ⟨?_, rfl, rfl, rfl, ?_⟩⟩
    · rw [outcome]
    · rw [outcome]; rfl
  | rejected code =>
    refine ⟨⟨connector, delivery, rfl, checked⟩,
      closed_of_listed rfl prepared (unresolved_outboxState _), .inl ⟨?_, rfl, rfl, rfl, ?_⟩⟩
    · rw [outcome]
    · rw [outcome]
      exact unfenced

theorem left_of_recorded
    (shaped : ∀ {key row}, store.bootstrap key = some row → row.Shaped)
    (accepted : resolveTerminal resolution call store = .ok after) :
    ∃ row outbox, after.bootstrap (resolution.tenantId, resolution.bootstrapId) = some row ∧
      resolution.Left row outbox := by
  obtain ⟨row, outbox, found, admitted, outcome⟩ := of_resolveTerminal accepted
  have shape := shaped found
  rcases outcome with ⟨stored | gone, rfl, _⟩ | ⟨⟨pending, _⟩, outcome⟩
  · have prepared : row.prepareState = acknowledged := by
      have ended := stored.state
      cases outcome : resolution.outcome <;>
        simpa [ended, outcome, Bootstrap.Shaped, TerminalOutcome.bootstrapState] using shape
    refine ⟨row, outbox, found, admitted, closed_of_listed admitted.listed prepared ?_, .inl stored⟩
    rw [stored.outboxState, unresolved_outboxState]
  · simp only [Bootstrap.Shaped, gone.1, admitted.listed, reduceCtorEq, false_and, and_false,
      false_or] at shape
    exact ⟨row, outbox, found, admitted,
      closed_of_listed admitted.listed shape (by rw [gone.2]; rfl), .inr gone⟩
  · simp only [Bootstrap.Shaped, pending] at shape
    rcases outcome with rfl | recorded
    · exact ⟨row.undelivered outbox, _, bootstrap_write_of_found found rfl,
        ⟨admitted.connectorId, admitted.deliveryId, rfl, admitted.checked⟩,
        closed_of_listed rfl shape.1 rfl, .inr ⟨rfl, rfl⟩⟩
    · have written : after.bootstraps =
          (store.write (resolution.recorded row outbox)).bootstraps := by
        rcases recorded with ⟨_, rfl⟩ | ⟨_, _, _, binds⟩
        · rfl
        · exact (of_bind binds).1
      refine ⟨_, _, ?_, admitted.recorded shape.1 shape.2⟩
      rw [RouteStore.bootstrap, written]
      exact bootstrap_write_of_found found recorded_key

/-- The runs of the target still arrive over the route that the report has installed. -/
theorem Stored.boundTo (stored : resolution.Stored row outbox)
    (admitted : resolution.Admitted row outbox) (bound : store.Bound)
    (found : store.bootstrap key = some row) :
    store.boundTo row.begun.target resolution = true := by
  unfold RouteStore.boundTo
  cases outcome : resolution.outcome with
  | rejected => rfl
  | installed routeFence =>
    have installs : row.state = BootstrapState.installed := by rw [stored.state, outcome]; rfl
    obtain ⟨head, held, fence, route, capsule⟩ := bound found installs
    obtain ⟨names, digest⟩ := admitted.names
    rw [stored.routeFence, outcome] at fence
    simp only [held, Option.any_some, decide_eq_true_eq]
    exact ⟨Option.some.inj (route.symm.trans names), (Option.some.inj fence).symm,
      Option.some.inj (capsule.symm.trans digest)⟩

theorem replays_iff (left : resolution.Left row outbox)
    (bound : store.Bound)
    (found : store.bootstrap (resolution.tenantId, resolution.bootstrapId) = some later)
    (evolves : Evolves row later) (valid : call.fenceValid = true)
    (commits : call.commits = true) :
    resolveTerminal resolution call store = .ok store ↔ later.state = row.state := by
  constructor
  · intro replayed
    obtain ⟨held, listed, present, _, outcome⟩ := of_resolveTerminal replayed
    obtain rfl : held = later := Option.some.inj (present.symm.trans found)
    refine (evolves.moves.resolve_left fun forward => ?_).1
    -- Only an installed bootstrap changes its state once more: it expires.
    have installs : row.state = installed := by
      have ended := left.settled.imp Stored.state And.left
      cases outcome : resolution.outcome <;> rcases ended with ended | ended <;>
        cases state : held.state <;>
        simp_all [TerminalOutcome.bootstrapState, rank]
    have expires : held.state = expired :=
      (evolves.installed (.inl installs)).resolve_left fun same => by
        simp [installs, same] at forward
    rcases outcome with ⟨stored | ⟨gone, _⟩, _⟩ | ⟨⟨pending, _⟩, _⟩
    · have ended := stored.state
      cases outcome : resolution.outcome <;>
        simp [expires, TerminalOutcome.bootstrapState, outcome] at ended
    · simp [expires] at gone
    · simp [expires] at pending
  · intro same
    obtain rfl := evolves.of_same same left.closed
    refine resolveTerminal_replay valid commits found left.admitted left.settled fun live => ?_
    rcases left.settled with stored | ⟨gone, _⟩
    · exact stored.boundTo left.admitted bound found
    · exact absurd gone live

end TerminalResolution

namespace Report

/-- The bootstrap that the report is about. -/
def bootstrapKey : Report → BootstrapKey
  | .recipientReady ready => (ready.tenantId, ready.bootstrapId)
  | .terminal resolution => (resolution.tenantId, resolution.bootstrapId)

/-- The state of the bootstrap that the report is about. -/
def stateIn (report : Report) (store : RouteStore) : Option BootstrapState :=
  (store.bootstrap report.bootstrapKey).map (·.state)

/-- What a replay looks at beside the state: a bootstrap that was revoked for its target has no
health key. -/
def KeptIn (report : Report) (row : Bootstrap) : Prop :=
  match report with
  | .recipientReady ready => row.state = revoked → ready.Keyless
  | .terminal _ => True

end Report

/-- Once a report is recorded, the same report is accepted again, and changes nothing, as long
as its bootstrap has not left the state in which the report put it; for a bootstrap that the
report found without its target, the report must not announce a health key either. -/
theorem report_replays_iff {before reported : RouteStore} {report : Report}
    {call retry : ConnectorCall} (reached : Reached Unused Commits before)
    (recorded : report.record call before = .ok reported)
    (later : ReachedFrom reported Commits store) (valid : retry.fenceValid = true)
    (commits : retry.commits = true) :
    report.record retry store = .ok store ↔
      ∃ row, store.bootstrap report.bootstrapKey = some row ∧
        some row.state = report.stateIn reported ∧ report.KeptIn row := by
  have sound := reached_sound reached
  have committed : Commits before () reported := .reported report call recorded
  have ends := reached_sound ((reached.next () committed).extend later)
  cases report with
  | recipientReady ready =>
    obtain ⟨row, found, left⟩ := RecipientReady.left_of_recorded sound.shaped recorded
    obtain ⟨last, present, evolves⟩ := evolves_later later found
    simp only [Report.stateIn, Report.bootstrapKey, found, present, Option.map_some,
      Option.some.injEq, exists_eq_left']
    exact RecipientReady.replays_iff left present evolves valid commits
  | terminal resolution =>
    obtain ⟨row, outbox, found, left⟩ :=
      TerminalResolution.left_of_recorded sound.shaped recorded
    obtain ⟨last, present, evolves⟩ := evolves_later later found
    simp only [Report.stateIn, Report.bootstrapKey, Report.KeptIn, found, present,
      Option.map_some, Option.some.injEq, exists_eq_left', and_true]
    exact TerminalResolution.replays_iff left ends.bound present evolves valid commits

end Replays

/-! ## A delivery between a report and its replay -/

section Sample

/-- All digests are equal. -/
abbrev constantSha256 : Sha256 := ⟨fun _ => taggedBytes 5⟩

attribute [local instance] constantSha256

def sampleTarget : Target := ⟨.tagged 1, .tagged 2, .tagged 3, ⟨.tagged 4, .tagged 5, .tagged 6⟩⟩

def sampleOwnerCall : OwnerCall :=
  ⟨true, 10, some (.tagged 7), none, none, 1, ⟨taggedBytes 8⟩, ⟨taggedBytes 9⟩, true⟩

def sampleConnectorCall : ConnectorCall := ⟨true, 20, true, true, true⟩

def sampleBegin : BeginCommand := ⟨.tagged 10, sampleTarget, [11], 1000, ⟨taggedBytes 12⟩⟩

def sampleReady : Report :=
  .recipientReady ⟨sampleTarget.tenantId, .tagged 7, .tagged 10,
    ⟨1, ⟨taggedBytes 8⟩, ⟨taggedBytes 9⟩⟩, sampleTarget.agent,
    ⟨.tagged 13, ⟨taggedBytes 5⟩, [14]⟩, 1000, ⟨taggedBytes 5⟩, none, none, none, none⟩

def sampleDelivery : DeliveryCommand :=
  ⟨.tagged 10, sampleTarget, .tagged 13, ⟨.tagged 15, .tagged 16, ⟨taggedBytes 18⟩⟩,
    ⟨⟨taggedBytes 5⟩, [17]⟩, 1000, none, none⟩

def begunStore : RouteStore := ⟨[sampleBegin.row sampleOwnerCall (.tagged 7)], []⟩

def readyStore : RouteStore :=
  (sampleReady.record sampleConnectorCall begunStore).toOption.getD begunStore

def deliveredStore : RouteStore :=
  (deliverInTransaction sampleDelivery sampleOwnerCall readyStore).toOption.getD readyStore

theorem begunStore_reached : Reached Unused Commits begunStore :=
  Reached.next () (.initial rfl) (.began sampleBegin sampleOwnerCall rfl)

theorem sampleReady_recorded : sampleReady.record sampleConnectorCall begunStore = .ok readyStore :=
  rfl

/-- Another bootstrap, for another device of the owner. -/
def otherBegin : BeginCommand :=
  { sampleBegin with
    bootstrapId := .tagged 20
    target := { sampleTarget with ownerDeviceId := .tagged 21 } }

/-- The first bootstrap is read, and the other one begins. -/
def busyStore (store : RouteStore) : RouteStore :=
  { store with bootstraps := store.bootstraps ++ [otherBegin.row sampleOwnerCall (.tagged 7)] }

def sampleInstalled : Report :=
  .terminal ⟨sampleTarget.tenantId, .tagged 7, .tagged 10, .tagged 15, .tagged 16,
    ⟨1, ⟨taggedBytes 8⟩, ⟨taggedBytes 9⟩⟩, sampleTarget.agent, .tagged 13, ⟨taggedBytes 5⟩, 30,
    ⟨taggedBytes 5⟩, none, none, none, none, .installed (taggedBytes 6)⟩

def installedStore : RouteStore :=
  (sampleInstalled.record sampleConnectorCall deliveredStore).toOption.getD deliveredStore

theorem deliveredStore_reached : ReachedFrom readyStore Commits deliveredStore :=
  Reached.next () (.initial rfl) (.delivered sampleDelivery sampleOwnerCall rfl)

/-- Both reports are repeated after other transactions. -/
theorem sampleReady_replays :
    sampleReady.record sampleConnectorCall (busyStore readyStore) = .ok (busyStore readyStore) ∧
      sampleInstalled.record sampleConnectorCall (busyStore installedStore) =
        .ok (busyStore installedStore) := by
  have busy (store : RouteStore)
      (viewed : getAgentRouteBootstrap (sampleTarget.tenantId, .tagged 10) sampleOwnerCall store =
        .ok store)
      (began : beginInTransaction otherBegin sampleOwnerCall store = .ok (busyStore store)) :
      ReachedFrom store Commits (busyStore store) :=
    Reached.next () (.next () (.initial rfl) (.viewed _ _ viewed)) (.began _ _ began)
  have delivered : Reached Unused Commits deliveredStore :=
    (begunStore_reached.next () (.reported sampleReady sampleConnectorCall
      sampleReady_recorded)).extend deliveredStore_reached
  have installed : sampleInstalled.record sampleConnectorCall deliveredStore =
      .ok installedStore := rfl
  constructor
  · exact (report_replays_iff begunStore_reached sampleReady_recorded (busy _ rfl rfl) rfl rfl).mpr
      ⟨_, rfl, rfl, fun _ => ⟨rfl, rfl⟩⟩
  · exact (report_replays_iff delivered installed (busy _ rfl rfl) rfl rfl).mpr
      ⟨_, rfl, rfl, trivial⟩

theorem sampleReady_refused :
    Reached Unused Commits begunStore ∧
      sampleReady.record sampleConnectorCall begunStore = .ok readyStore ∧
      ReachedFrom readyStore Commits deliveredStore ∧
      sampleReady.record sampleConnectorCall deliveredStore = .error .conflict :=
  ⟨begunStore_reached, sampleReady_recorded, deliveredStore_reached, rfl⟩

end Sample

end Dirextalk.Route
