import Dirextalk.Contact.Effects

/-!
# Runs of the contact tables

Any devices may call in any order, with any clock readings and whatever the directory
says at the time.  `Coherent` is what the tables keep through all of it; the rules of
admission follow from it and from what one call can do.
-/

namespace Dirextalk.Contact

open Domain Identity Lib Wire

namespace ContactStore

section Runs

variable [Ed25519] [Sha256] [PermissiveEd25519]

/-- The call succeeds and its transaction commits. -/
def Steps (store : ContactStore) (label : ContactLabel) (after : ContactStore) : Prop :=
  label.call.Decoded ∧ ∃ answer, store.perform label = .ok (answer, after)

/-- An empty store. -/
def Starts (store : ContactStore) : Prop := store = {}

variable {store after : ContactStore} {label : ContactLabel}

theorem Steps.change (taken : store.Steps label after) : store.Change label after := by
  obtain ⟨-, answer, done⟩ := taken
  exact (change_of_perform done).1

variable {view : DirectoryView} {now : UtcMillis} {exact : List UInt8}

theorem steps_of_createInvite {idempotency : FixedBytes 32} {invite : ContactInviteV1}
    {receipt : List UInt8} {secret : FixedBytes 32}
    (decoded : ContactInviteV1.decode exact = .ok invite)
    (done : store.createInvite view idempotency invite exact secret now = .ok (receipt, after)) :
    store.Steps ⟨.createInvite idempotency invite exact secret, view, now⟩ after :=
  ⟨decoded, .invite receipt, by simp only [perform, done, Except.map]⟩

theorem steps_of_submitRequest {request : ContactRequestV1} {inviteSecret : FixedBytes 32}
    {receipt : StoredContactReceipt} (decoded : ContactRequestV1.decode exact = .ok request)
    (done : store.submitRequest view request exact inviteSecret now = .ok (receipt, after)) :
    store.Steps ⟨.submitRequest request exact inviteSecret, view, now⟩ after :=
  ⟨decoded, .receipt receipt, by simp only [perform, done, Except.map]⟩

theorem steps_of_review {idempotency : FixedBytes 32} {message : ContactReviewV1}
    {receipt : StoredContactReceipt} (decoded : ContactReviewV1.decode exact = .ok message)
    (done : store.review view idempotency message exact now = .ok (receipt, after)) :
    store.Steps ⟨.review idempotency message exact, view, now⟩ after :=
  ⟨decoded, .receipt receipt, by simp only [perform, done, Except.map]⟩

end Runs

/-! ## The tables hang together -/

/-- The number of stored requests of an invite. -/
def usesOf (store : ContactStore) (inviteId : InviteCapabilityId) : Nat :=
  (store.requests.map RequestRow.inviteId).count inviteId

/-- What every reached store satisfies. -/
structure Coherent (store : ContactStore) : Prop where
  invites_distinct : (store.invites.map InviteRow.inviteId).Nodup
  requests_distinct : (store.requests.map RequestRow.requestId).Nodup
  commands_distinct : (store.commands.map OwnerCommandRow.key).Nodup
  outbox_distinct : (store.outbox.map DeliveryRow.requestId).Nodup
  invited : ∀ row ∈ store.requests, row.inviteId ∈ store.invites.map InviteRow.inviteId
  counted : ∀ invite ∈ store.invites,
    invite.useCount = store.usesOf invite.inviteId ∧ invite.useCount ≤ invite.maxUses
  closed : ∀ invite ∈ store.invites, invite.revokedAt.isSome →
    ∀ row ∈ store.requests, row.inviteId = invite.inviteId → row.state ≠ .pending
  decided : ∀ delivery ∈ store.outbox, ∃ row ∈ store.requests,
    row.requestId = delivery.requestId ∧ row.state ≠ .pending

section Coherence

variable {store : ContactStore} {requests : List RequestRow}

theorem map_requestId_of_settles {rows : List RequestRow} (settles : Settles rows requests) :
    requests.map RequestRow.requestId = rows.map RequestRow.requestId :=
  settles.map _ fun _ _ => rfl

theorem map_inviteId_of_settles {rows : List RequestRow} (settles : Settles rows requests) :
    requests.map RequestRow.inviteId = rows.map RequestRow.inviteId :=
  settles.map _ fun _ _ => rfl

/-- Settling requests keeps the tables coherent. -/
theorem Coherent.settled (coherent : store.Coherent) {rates : List RateRow}
    (settles : Settles store.requests requests) : Coherent { store with requests, rates } where
  invites_distinct := coherent.invites_distinct
  requests_distinct := map_requestId_of_settles settles ▸ coherent.requests_distinct
  commands_distinct := coherent.commands_distinct
  outbox_distinct := coherent.outbox_distinct
  invited := by
    rw [← List.forall_mem_map (f := RequestRow.inviteId), map_inviteId_of_settles settles,
      List.forall_mem_map]
    exact coherent.invited
  counted := by
    intro invite member
    rw [usesOf, map_inviteId_of_settles settles]
    exact coherent.counted invite member
  closed := by
    intro invite member revoked row listed belongs pending
    obtain ⟨earlier, before, settled⟩ := settles.exists_earlier listed
    obtain rfl := settled.pending pending
    exact coherent.closed invite member revoked row before belongs pending
  decided := by
    intro delivery member
    obtain ⟨row, listed, names, final⟩ := coherent.decided delivery member
    obtain ⟨found, after, settled⟩ := settles.exists_later listed
    obtain rfl := settled.eq_of_final final
    exact ⟨found, after, names, final⟩

theorem Coherent.answered (coherent : store.Coherent) {command : OwnerCommandRow}
    (unanswered : command.key ∉ store.commands.map OwnerCommandRow.key) :
    Coherent { store with commands := store.commands ++ [command] } :=
  { coherent with commands_distinct := nodup_concat coherent.commands_distinct unanswered }

theorem Coherent.created (coherent : store.Coherent) {invite : ContactInviteV1} {now : UtcMillis}
    (fresh : invite.inviteId ∉ store.invites.map InviteRow.inviteId) :
    Coherent { store with invites := store.invites ++ [newInvite invite now] } :=
  { coherent with
    invites_distinct := nodup_concat coherent.invites_distinct fresh
    invited := fun row member => by
      rw [List.map_append, List.mem_append]
      exact .inl (coherent.invited row member)
    counted := forall_mem_concat.mpr ⟨coherent.counted, by
      -- nobody has used an invite that was not there
      have unused : store.usesOf invite.inviteId = 0 := by
        refine List.count_eq_zero.mpr fun used => fresh ?_
        obtain ⟨row, member, same⟩ := List.mem_map.mp used
        exact same ▸ coherent.invited row member
      exact ⟨unused.symm, Nat.zero_le _⟩⟩
    closed := forall_mem_concat.mpr ⟨coherent.closed, fun revoked => nomatch revoked⟩ }

/-- No selected request is left pending. -/
theorem not_pending_of_settle {selected : RequestRow → Prop} [DecidablePred selected]
    {state : RequestState} (final : state ≠ .pending) {row : RequestRow}
    (member : row ∈ (store.settle selected state).requests) (hit : selected row) :
    row.state ≠ .pending := by
  obtain ⟨earlier, -, same⟩ := mem_updateWhere.mp member
  split at same
  case isTrue =>
    subst same
    exact final
  case isFalse missed =>
    subst same
    exact fun pending => missed ⟨hit, pending⟩

theorem reviewedState_ne_pending (decision : ContactDecisionV1) :
    reviewedState decision ≠ .pending := by
  cases decision <;> decide

theorem Coherent.revoked (coherent : store.Coherent) {inviteId : InviteCapabilityId}
    {revokedAt : Int} {rates : List RateRow} :
    Coherent { store with
      invites := updateWhere (·.inviteId = inviteId)
        (fun row => { row with revokedAt := some revokedAt }) store.invites
      requests := (store.settle (·.inviteId = inviteId) .inviteRevoked).requests
      rates } := by
  have settled : Coherent { store with
      requests := (store.settle (·.inviteId = inviteId) .inviteRevoked).requests, rates } :=
    coherent.settled (settles_settle store _ (by decide))
  have ids : (updateWhere (·.inviteId = inviteId)
      (fun row => { row with revokedAt := some revokedAt }) store.invites).map
        InviteRow.inviteId = store.invites.map InviteRow.inviteId :=
    map_updateWhere (by intro; rfl) _
  exact { settled with
    invites_distinct := ids ▸ settled.invites_distinct
    invited := fun row member => ids ▸ settled.invited row member
    counted := by
      intro found member
      obtain ⟨invite, listed, same⟩ := mem_updateWhere.mp member
      have counted := settled.counted invite listed
      split at same <;> subst same <;> exact counted
    closed := by
      intro found member revoked row listed belongs
      obtain ⟨invite, before, same⟩ := mem_updateWhere.mp member
      split at same
      case isTrue hit =>
        subst same
        exact not_pending_of_settle (by decide) listed (belongs.trans hit)
      case isFalse =>
        subst same
        exact settled.closed invite before revoked row listed belongs }

theorem Coherent.admitted [Ed25519] [Sha256] (coherent : store.Coherent) {label : ContactLabel}
    {request : ContactRequestV1} {requestDigest : Sha256Digest} {invite : InviteRow}
    (admits : store.Admits label request invite) :
    Coherent { store with
      invites := updateWhere (·.inviteId = request.inviteId)
        (fun row => { row with useCount := row.useCount + 1 }) store.invites
      requests := store.requests ++ [newRequest request requestDigest invite label.now] } := by
  have ids : (updateWhere (·.inviteId = request.inviteId)
      (fun row => { row with useCount := row.useCount + 1 }) store.invites).map
        InviteRow.inviteId = store.invites.map InviteRow.inviteId :=
    map_updateWhere (by intro; rfl) _
  have listed := mem_of_rowAt admits.found
  have named := key_of_rowAt admits.found
  have only {row : InviteRow} (member : row ∈ store.invites)
      (same : row.inviteId = request.inviteId) : row = invite :=
    List.inj_on_of_nodup_map coherent.invites_distinct member listed (same.trans named.symm)
  exact { coherent with
    invites_distinct := ids ▸ coherent.invites_distinct
    requests_distinct := nodup_concat coherent.requests_distinct admits.fresh
    invited := by
      refine forall_mem_concat.mpr ⟨fun row member => ids ▸ coherent.invited row member, ?_⟩
      exact ids ▸ List.mem_map.mpr ⟨invite, listed, named⟩
    counted := by
      intro found member
      obtain ⟨row, before, same⟩ := mem_updateWhere.mp member
      obtain ⟨counts, bounded⟩ := coherent.counted row before
      rw [usesOf, List.map_append, List.count_append]
      split at same
      case isTrue hit =>
        subst same
        obtain rfl := only before hit
        have one : [request.inviteId].count row.inviteId = 1 := by simp [hit]
        exact ⟨congrArg₂ (· + ·) counts one.symm, admits.unused⟩
      case isFalse missed =>
        subst same
        have none : [request.inviteId].count row.inviteId = 0 := by
          simp [Ne.symm missed]
        exact ⟨counts.trans (congrArg (store.usesOf row.inviteId + ·) none.symm), bounded⟩
    closed := by
      intro found member revoked
      obtain ⟨row, before, same⟩ := mem_updateWhere.mp member
      have kept : row.inviteId = found.inviteId ∧ row.revokedAt = found.revokedAt := by
        split at same <;> subst same <;> exact ⟨rfl, rfl⟩
      rw [← kept.2] at revoked
      refine forall_mem_concat.mpr ⟨?_, fun belongs => ?_⟩
      · rw [← kept.1]
        exact coherent.closed row before revoked
      · -- the invite of an admitted request stands
        obtain rfl := only before (kept.1.trans belongs.symm)
        rw [admits.standing] at revoked
        cases revoked
    decided := by
      intro delivery member
      obtain ⟨row, listed, names, final⟩ := coherent.decided delivery member
      exact ⟨row, List.mem_append_left _ listed, names, final⟩ }

/-- A decided request may have a delivery. -/
theorem Coherent.delivered (coherent : store.Coherent) {requestId : RequestId}
    {delivery : Option (List UInt8)}
    (undelivered : delivery.isSome → requestId ∉ store.outbox.map DeliveryRow.requestId)
    (decided : ∃ row ∈ store.requests, row.requestId = requestId ∧ row.state ≠ .pending) :
    Coherent { store with
      outbox := store.outbox ++ (delivery.map (DeliveryRow.mk requestId)).toList } := by
  cases delivery with
  | none => simpa using coherent
  | some content =>
    exact { coherent with
      outbox_distinct := nodup_concat coherent.outbox_distinct (undelivered rfl)
      decided := forall_mem_concat.mpr ⟨coherent.decided, decided⟩ }

theorem Coherent.change [Ed25519] [Sha256] (coherent : store.Coherent) {label : ContactLabel}
    {after : ContactStore} (change : store.Change label after) : after.Coherent := by
  cases change with
  | settled settles => exact coherent.settled settles
  | created fresh unanswered =>
    exact ((coherent.created fresh).answered unanswered).settled (.refl _)
  | revoked _ unanswered => exact coherent.revoked.answered unanswered
  | admitted _ admits settles => exact (coherent.admitted admits).settled settles
  | @reviewed _ message _ _ row requests _ _ _ reviews settles undelivered unanswered =>
    have settled := settles_settle store (·.requestId = message.requestId)
      (reviewedState_ne_pending message.decision)
    refine ((coherent.settled (settled.trans settles)).delivered undelivered ?_).answered unanswered
    obtain ⟨decided, listed, first⟩ := settled.exists_later (mem_of_rowAt reviews.found)
    have names : decided.requestId = message.requestId :=
      (first.column RequestRow.requestId fun _ _ => rfl).trans (key_of_rowAt reviews.found)
    have final := not_pending_of_settle (reviewedState_ne_pending message.decision) listed names
    obtain ⟨found, after, second⟩ := settles.exists_later listed
    obtain rfl := second.eq_of_final final
    exact ⟨found, after, names, final⟩

theorem coherent_empty : Coherent {} where
  invites_distinct := List.nodup_nil
  requests_distinct := List.nodup_nil
  commands_distinct := List.nodup_nil
  outbox_distinct := List.nodup_nil
  invited := List.forall_mem_nil _
  counted := List.forall_mem_nil _
  closed := List.forall_mem_nil _
  decided := List.forall_mem_nil _

end Coherence

/-! ## Admission -/

/-- Every request stays, and is settled at most. -/
def Keeps (store later : ContactStore) : Prop :=
  ∀ row ∈ store.requests, ∃ found ∈ later.requests, SettledRow row found

theorem Keeps.trans {store middle later : ContactStore} (first : store.Keeps middle)
    (second : middle.Keeps later) : store.Keeps later := by
  intro row member
  obtain ⟨found, listed, settled⟩ := first row member
  obtain ⟨final, there, again⟩ := second found listed
  exact ⟨final, there, settled.trans again⟩

section Admission

variable [Ed25519] [Sha256]
variable {store after later : ContactStore} {label : ContactLabel}

theorem Change.keeps (change : store.Change label after) : store.Keeps after := by
  intro row member
  cases change with
  | settled settles => exact settles.exists_later member
  | created => exact ⟨row, member, .refl row⟩
  | revoked => exact (settles_settle store _ (by decide)).exists_later member
  | admitted _ _ settles => exact settles.exists_later (List.mem_append_left _ member)
  | @reviewed _ message _ _ _ _ _ _ _ _ settles =>
    exact ((settles_settle store _ (reviewedState_ne_pending message.decision)).trans
      settles).exists_later member

/-- A request that a call has added was admitted on an invite that stood, before its expiry and
with its owner active, and the device has not more pending requests than allowed. -/
structure Admitted (store : ContactStore) (label : ContactLabel) (after : ContactStore)
    (row : RequestRow) (invite : InviteRow) : Prop where
  found : invite ∈ store.invites
  named : invite.inviteId = row.inviteId
  standing : invite.revokedAt = none
  unexpired : millisOf label.now < millisOf invite.expiresAt
  active : label.view.Active invite.ownerIdentityId invite.ownerDeviceId
  owned : invite.ownerIdentityId = row.targetIdentityId ∧ invite.ownerDeviceId = row.targetDeviceId
  few : after.pendingCount row.targetIdentityId row.targetDeviceId label.now ≤ maxPendingPerDevice

theorem Change.admitted_of_new (change : store.Change label after) {row : RequestRow}
    (member : row ∈ after.requests)
    (new : row.requestId ∉ store.requests.map RequestRow.requestId) :
    ∃ invite, Admitted store label after row invite := by
  -- only a submission adds a request
  have kept {requests : List RequestRow} (settles : Settles store.requests requests)
      (listed : row ∈ requests) : False :=
    new (map_requestId_of_settles settles ▸ List.mem_map_of_mem listed)
  cases change with
  | settled settles => exact (kept settles member).elim
  | created => exact (kept (.refl _) member).elim
  | revoked => exact (kept (settles_settle store _ (by decide)) member).elim
  | @reviewed _ message _ _ _ _ _ _ _ _ settles =>
    exact (kept ((settles_settle store _ (reviewedState_ne_pending message.decision)).trans
      settles) member).elim
  | @admitted request exact _ invite requests called admits settles =>
    obtain ⟨before, listed, settled⟩ := settles.exists_earlier member
    have names := settled.column RequestRow.requestId fun _ _ => rfl
    rcases List.mem_append.mp listed with earlier | added
    · exact (new (names ▸ List.mem_map_of_mem earlier)).elim
    · obtain rfl := List.mem_singleton.mp added
      have invited := settled.column RequestRow.inviteId fun _ _ => rfl
      have identity := settled.column RequestRow.targetIdentityId fun _ _ => rfl
      have device := settled.column RequestRow.targetDeviceId fun _ _ => rfl
      refine ⟨invite, mem_of_rowAt admits.found, ?_, admits.standing, admits.unexpired,
        admits.active, ?_, ?_⟩
      · rw [invited]
        exact key_of_rowAt admits.found
      · rw [identity, device]
        exact ⟨admits.identity, admits.device⟩
      · rw [identity, device]
        refine (settles.countP_pending_le fun _ counts => ?_).trans ?_
        · exact (of_decide_eq_true counts).2.2.1
        · rw [List.countP_append]
          exact (Nat.add_le_add_left List.countP_le_length _).trans admits.few

/-- An invite stays, and so does its revocation. -/
theorem revoked_of_change (change : store.Change label after) {invite : InviteRow}
    (member : invite ∈ store.invites) :
    ∃ found ∈ after.invites, found.inviteId = invite.inviteId ∧
      (invite.revokedAt.isSome → found.revokedAt.isSome) := by
  cases change with
  | settled => exact ⟨invite, member, rfl, id⟩
  | created => exact ⟨invite, List.mem_append_left _ member, rfl, id⟩
  | revoked =>
    refine ⟨_, List.mem_map_of_mem member, ?_⟩
    split <;> simp
  | admitted =>
    refine ⟨_, List.mem_map_of_mem member, ?_⟩
    split <;> simp
  | reviewed => exact ⟨invite, member, rfl, id⟩

/-- The invite is revoked. -/
def Revoked (store : ContactStore) (inviteId : InviteCapabilityId) : Prop :=
  ∃ invite ∈ store.invites, invite.inviteId = inviteId ∧ invite.revokedAt.isSome

variable {inviteId : InviteCapabilityId}

/-- A revocation that is not the retry of an answered command revokes its invite. -/
theorem revoked_of_revokeInvite {idempotency : FixedBytes 32} {session : AuthenticatedDeviceSession}
    {answer : List UInt8} (authenticated : label.view.authenticateInTransaction = .ok session)
    (unanswered : rowAt OwnerCommandRow.key store.commands (commandKey session idempotency) = none)
    (done : store.revokeInvite label.view idempotency inviteId label.now = .ok (answer, after)) :
    after.Revoked inviteId := by
  simp only [revokeInvite, bind_eq_ok, mapError_eq_ok, authenticated] at done
  obtain ⟨_, ⟨⟩, _, replay, done⟩ := done
  rw [ownerReplay_none unanswered] at replay
  obtain rfl := Except.ok.inj replay
  simp only [bind_eq_ok, okOr_eq_ok, pure_eq_ok, Prod.mk.injEq] at done
  obtain ⟨limited, underLimit, row, found, -, -, -, -, receipt, -, answered, answer,
    -, rfl⟩ := done
  obtain ⟨rates, rfl⟩ := rate_eq_ok underLimit
  obtain ⟨-, -, rfl⟩ := insertOwnerCommand_eq_ok.mp answer
  have named := key_of_rowAt found
  refine ⟨_, List.mem_map_of_mem (mem_of_rowAt found), ?_⟩
  rw [if_pos named]
  exact ⟨named, rfl⟩

/-- A submitted request is stored. -/
theorem stored_of_submitRequest {request : ContactRequestV1} {exact : List UInt8}
    {inviteSecret : FixedBytes 32} {receipt : StoredContactReceipt}
    (called : label.call = .submitRequest request exact inviteSecret)
    (done : store.submitRequest label.view request exact inviteSecret label.now =
      .ok (receipt, after)) :
    ∃ row ∈ after.requests, row.requestId = request.requestId := by
  obtain ⟨-, names, shows⟩ := change_of_submitRequest called done
  obtain ⟨row, found, -⟩ := Option.map_eq_some_iff.mp shows.state
  exact ⟨row, mem_of_rowAt found, (key_of_rowAt found).trans names⟩

/-! ## Whole runs -/

variable [PermissiveEd25519]

theorem coherent_of_reached (reached : Reached Starts Steps store) : store.Coherent :=
  reached.invariant Coherent (fun _ started => started ▸ coherent_empty)
    fun _ _ _ coherent taken => coherent.change taken.change

theorem keeps_of_run (run : ReachedFrom store Steps later) : store.Keeps later :=
  run.invariant store.Keeps (fun _ same => same ▸ fun row member => ⟨row, member, .refl row⟩)
    fun _ _ _ kept taken => kept.trans taken.change.keeps

theorem revoked_of_run (run : ReachedFrom store Steps later) (revoked : store.Revoked inviteId) :
    later.Revoked inviteId := by
  refine run.invariant (Revoked · inviteId) (fun _ same => same ▸ revoked) ?_
  rintro before label after ⟨invite, member, names, set⟩ taken
  obtain ⟨found, listed, same, kept⟩ := revoked_of_change taken.change member
  exact ⟨found, listed, same.trans names, kept set⟩

/-- A revoked invite has no pending request, and gets no further ones. -/
theorem closed_of_revoked (reached : Reached Starts Steps store) (revoked : store.Revoked inviteId)
    (run : ReachedFrom store Steps later) :
    ∀ row ∈ later.requests, row.inviteId = inviteId →
      row.state ≠ .pending ∧ row ∈ store.requests := by
  have final {state : ContactStore} (reaches : Reached Starts Steps state)
      (revoked : state.Revoked inviteId) {row : RequestRow} (member : row ∈ state.requests)
      (belongs : row.inviteId = inviteId) : row.state ≠ .pending := by
    obtain ⟨invite, listed, rfl, set⟩ := revoked
    exact (coherent_of_reached reaches).closed invite listed set row member belongs
  refine And.right (run.invariant (fun state => (Reached Starts Steps state ∧
    state.Revoked inviteId) ∧ ∀ row ∈ state.requests, row.inviteId = inviteId →
      row.state ≠ .pending ∧ row ∈ store.requests) ?_ ?_)
  · rintro state rfl
    exact ⟨⟨reached, revoked⟩, fun row member belongs =>
      ⟨final reached revoked member belongs, member⟩⟩
  · rintro before label after ⟨⟨reaches, revoked⟩, kept⟩ taken
    have reachesAfter : Reached Starts Steps after := .next label reaches taken
    have revokedAfter := revoked_of_run (.next label (.initial rfl) taken) revoked
    refine ⟨⟨reachesAfter, revokedAfter⟩, fun row member belongs => ?_⟩
    refine ⟨final reachesAfter revokedAfter member belongs, ?_⟩
    by_cases new : row.requestId ∈ before.requests.map RequestRow.requestId
    · obtain ⟨earlier, listed, names⟩ := List.mem_map.mp new
      obtain ⟨found, there, settled⟩ := taken.change.keeps earlier listed
      have same : found = row :=
        List.inj_on_of_nodup_map (coherent_of_reached reachesAfter).requests_distinct there member
          ((settled.column RequestRow.requestId fun _ _ => rfl).trans names)
      subst same
      have invited : earlier.inviteId = inviteId :=
        (settled.column RequestRow.inviteId fun _ _ => rfl).symm.trans belongs
      obtain ⟨closed, stored⟩ := kept earlier listed invited
      rw [settled.eq_of_final closed]
      exact stored
    · obtain ⟨invite, admitted⟩ := taken.change.admitted_of_new member new
      obtain ⟨other, listed, names, set⟩ := revoked
      have same : other = invite :=
        List.inj_on_of_nodup_map (coherent_of_reached reaches).invites_distinct listed
          admitted.found (names.trans (belongs.symm.trans admitted.named.symm))
      rw [same, admitted.standing] at set
      cases set

/-- Submitting the bytes of a stored request again leaves every invite as it is. -/
theorem invites_of_resubmission {request again : ContactRequestV1} {exact : List UInt8}
    {secret otherSecret : FixedBytes 32} {final : ContactStore} {retry : ContactLabel}
    (taken : store.Steps label after) (called : label.call = .submitRequest request exact secret)
    (run : ReachedFrom after Steps later) (retried : later.Steps retry final)
    (recalled : retry.call = .submitRequest again exact otherSecret) :
    final.invites = later.invites := by
  obtain ⟨decoded, answer, done⟩ := taken
  obtain ⟨decodedAgain, answerAgain, doneAgain⟩ := retried
  simp only [called, ContactCall.Decoded] at decoded
  simp only [recalled, ContactCall.Decoded, decoded, Except.ok.injEq] at decodedAgain
  subst decodedAgain
  simp only [perform, called, map_eq_ok] at done
  obtain ⟨⟨_, _⟩, submitted, done⟩ := done
  obtain ⟨rfl, rfl⟩ := Prod.mk.inj done
  simp only [perform, recalled, map_eq_ok] at doneAgain
  obtain ⟨⟨_, _⟩, resubmitted, doneAgain⟩ := doneAgain
  obtain ⟨rfl, rfl⟩ := Prod.mk.inj doneAgain
  obtain ⟨row, member, names⟩ := stored_of_submitRequest called submitted
  obtain ⟨found, listed, settled⟩ := keeps_of_run run row member
  have sameId : found.requestId = request.requestId :=
    (settled.column RequestRow.requestId fun _ _ => rfl).trans names
  have held : request.requestId ∈ later.requests.map RequestRow.requestId :=
    List.mem_map.mpr ⟨found, listed, sameId⟩
  obtain ⟨_, stored⟩ := exists_rowAt held
  obtain ⟨⟨requests, -, rfl⟩, -⟩ := resubmitRequest_eq_ok stored resubmitted
  rfl

/-- The rules of admission.  The uses of an invite are its stored requests and within its
bound.  A request leaves the pending state at most once and is never changed again.  It is
admitted only on a standing, unexpired invite of an active device with less than a hundred
unexpired pending requests.  A revoked invite has no pending requests and gets no new ones,
and bytes that are submitted again use no invite again. -/
theorem admission_rules (reached : Reached Starts Steps store) :
    (∀ invite ∈ store.invites, invite.useCount = store.usesOf invite.inviteId ∧
      invite.useCount ≤ invite.maxUses) ∧
    ((store.requests.map RequestRow.requestId).Nodup ∧
      ∀ later, ReachedFrom store Steps later → store.Keeps later) ∧
    (∀ label after, store.Steps label after → ∀ row ∈ after.requests,
      row.requestId ∉ store.requests.map RequestRow.requestId →
        ∃ invite, Admitted store label after row invite) ∧
    (∀ inviteId, store.Revoked inviteId → ∀ later, ReachedFrom store Steps later →
      ∀ row ∈ later.requests, row.inviteId = inviteId →
        row.state ≠ .pending ∧ row ∈ store.requests) ∧
    (∀ label after idempotency inviteId session, store.Steps label after →
      label.call = .revokeInvite idempotency inviteId →
      label.view.authenticateInTransaction = .ok session →
      rowAt OwnerCommandRow.key store.commands (commandKey session idempotency) = none →
        after.Revoked inviteId) ∧
    (∀ label after later retry final request again exact secret otherSecret,
      store.Steps label after → label.call = .submitRequest request exact secret →
      ReachedFrom after Steps later → later.Steps retry final →
      retry.call = .submitRequest again exact otherSecret → final.invites = later.invites) := by
  refine ⟨(coherent_of_reached reached).counted, ⟨(coherent_of_reached reached).requests_distinct,
    fun _ => keeps_of_run⟩, ?_, fun _ revoked _ run => closed_of_revoked reached revoked run, ?_,
    ?_⟩
  · intro label after taken row member new
    exact taken.change.admitted_of_new member new
  · intro label after idempotency inviteId session taken called authenticated unanswered
    obtain ⟨-, answer, done⟩ := taken
    simp only [perform, called, map_eq_ok] at done
    obtain ⟨⟨_, _⟩, done, same⟩ := done
    obtain ⟨rfl, rfl⟩ := Prod.mk.inj same
    exact revoked_of_revokeInvite authenticated unanswered done
  · intro label after later retry final request again exact secret otherSecret taken called run
      retried recalled
    exact invites_of_resubmission taken called run retried recalled

end Admission

/-! ## A run with one request -/

section Samples

attribute [local instance] openEd25519 countingSha256

@[reducible] def openPermissive : PermissiveEd25519 := ⟨fun _ _ _ => true⟩

attribute [local instance] openPermissive

def sampleInvite : ContactInviteV1 where
  inviteId := .tagged 1
  ownerIdentityId := sampleIdentity
  ownerDeviceId := sampleDevice
  capabilityHash := inviteCapabilityHash (taggedBytes 1)
  maxUses := 2
  issuedAt := sampleTime
  expiresAt := ⟨1000, by decide, by decide⟩
  signature := sampleSignature
  uses_bounded := by decide
  issued_lt := by decide
  lifetime_le := by decide

def sampleRequest : ContactRequestV1 :=
  let request : ContactRequestV1 := ⟨.tagged 2, .tagged 1, sampleIdentity, sampleDevice,
    contactReceiptCapabilityHash (taggedBytes 2), [1], inviteCapabilityHash (taggedBytes 1)⟩
  { request with aadDigest := .hashDomain requestAadDomain (wire (record request.aadFields)) }

def createLabel : ContactLabel :=
  ⟨.createInvite (taggedBytes 3) sampleInvite (wire sampleInvite.canonical) (taggedBytes 1),
    sampleView, sampleTime⟩

def submitLabel : ContactLabel :=
  ⟨.submitRequest sampleRequest (wire sampleRequest.canonical) (taggedBytes 1), sampleView,
    sampleTime⟩

def invitedStore : ContactStore where
  invites := [newInvite sampleInvite sampleTime]
  commands := [⟨commandKey sampleSession (taggedBytes 3),
    .hashDomain ownerCommandDomain (wire sampleInvite.canonical),
    (inviteReceipt sampleInvite.inviteId 1 sampleTime sampleInvite.expiresAt).toOption.getD []⟩]
  rates := [⟨⟨sampleIdentity, sampleDevice, .createInvite, 0⟩, 1⟩]

def sampleRow : RequestRow :=
  newRequest sampleRequest (.hashDomain requestDigestDomain (wire sampleRequest.canonical))
    (newInvite sampleInvite sampleTime) sampleTime

def requestedStore : ContactStore :=
  { invitedStore with
    invites := [{ newInvite sampleInvite sampleTime with useCount := 1 }]
    requests := [sampleRow] }

theorem sampleInvite_decoded :
    ContactInviteV1.decode (wire sampleInvite.canonical) = .ok sampleInvite := by
  decide +kernel

theorem sampleRequest_decoded :
    ContactRequestV1.decode (wire sampleRequest.canonical) = .ok sampleRequest := by
  decide +kernel

theorem sampleInvite_created :
    createInvite {} sampleView (taggedBytes 3) sampleInvite (wire sampleInvite.canonical)
      (taggedBytes 1) sampleTime =
      .ok (invitedStore.commands.flatMap OwnerCommandRow.receiptBytes, invitedStore) := by
  rw [createInvite, sampleView_session]
  decide +kernel

theorem sampleRequest_submitted :
    invitedStore.submitRequest sampleView sampleRequest (wire sampleRequest.canonical)
      (taggedBytes 1) sampleTime =
      .ok (⟨sampleRequest.requestId, .pending, none,
        (contactReceipt sampleRequest.requestId .pending none).toOption.getD []⟩,
        requestedStore) := by
  have found : invitedStore.inviteAt sampleRequest.inviteId =
      some (newInvite sampleInvite sampleTime) := rfl
  have key : sampleView.activeDeviceSigningKeyInTransaction
      (newInvite sampleInvite sampleTime).ownerIdentityId
      (newInvite sampleInvite sampleTime).ownerDeviceId = .ok (sampleKey 3) := sampleView_key _
  have unknown : invitedStore.requestAt sampleRequest.requestId = none := rfl
  rw [submitRequest, found, okOr_some, ok_bind, unknown]
  dsimp only
  rw [key]
  decide +kernel

theorem invitedStore_step : Steps {} createLabel invitedStore :=
  steps_of_createInvite sampleInvite_decoded sampleInvite_created

theorem requestedStore_step : invitedStore.Steps submitLabel requestedStore :=
  steps_of_submitRequest sampleRequest_decoded sampleRequest_submitted

theorem requestedStore_reached : Reached Starts Steps requestedStore :=
  .next submitLabel (.next createLabel (.initial rfl) invitedStore_step) requestedStore_step

/-- One request has been left on the sample invite, and it cannot be used up unseen. -/
theorem requestedStore_admission :
    requestedStore.invites.map InviteRow.useCount = [1] ∧
      (∀ invite ∈ requestedStore.invites, invite.useCount =
        requestedStore.usesOf invite.inviteId ∧ invite.useCount ≤ invite.maxUses) ∧
      ∀ later, ReachedFrom requestedStore Steps later → requestedStore.Keeps later :=
  have rules := admission_rules requestedStore_reached
  ⟨rfl, rules.1, rules.2.1.2⟩

end Samples

end ContactStore

end Dirextalk.Contact
