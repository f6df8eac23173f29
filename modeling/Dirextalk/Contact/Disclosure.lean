import Dirextalk.Contact.Runs

/-!
# Who put a delivery into the outbox

A delivery is handed out with the receipt of its request.  It should come from a review
that accepts the request and whose digest binds the delivery to the request, its invite
and the reviewing device.  The review codec also reads a rejection that carries a
delivery; such a delivery is stored and handed out with the rejection.
-/

namespace Dirextalk.Contact

open Domain Identity Lib Wire

section Deliveries

variable [Sha256]

/-- The digest binds a delivery to the request, its invite and the device. -/
def BindsDelivery (aadDigest : Option Sha256Digest) (requestId : RequestId)
    (inviteId : InviteCapabilityId) (session : AuthenticatedDeviceSession) : Prop :=
  ∃ exact, encodeDeterministicCbor (ContactReviewV1.deliveryAad requestId inviteId
    session.identityId session.deviceId) = .ok exact ∧
      aadDigest = some (.hashDomain deliveryAadDomain exact)

theorem binds_of_verifyAad {message : ContactReviewV1} {inviteId : InviteCapabilityId}
    {session : AuthenticatedDeviceSession} (accepts : message.decision = .accept)
    (verified : message.verifyAad inviteId session.identityId session.deviceId = .ok ()) :
    BindsDelivery message.aadDigest message.requestId inviteId session := by
  have decided : message.decision ≠ .reject := by
    rw [accepts]
    decide
  simp only [ContactReviewV1.verifyAad, if_neg decided, bind_eq_ok, mapError_eq_ok,
    rejectIf_eq_ok, ne_eq, not_not] at verified
  exact verified

variable [Ed25519]

/-- One of the calls is a review by the target device that accepts the request with the
delivery, under a digest that binds it. -/
def AcceptedBy (labels : List ContactLabel) (row : RequestRow) (delivery : List UInt8) : Prop :=
  ∃ label ∈ labels, ∃ idempotency message exact session,
    label.call = .review idempotency message exact ∧
      label.view.authenticateInTransaction = .ok session ∧
      (row.targetIdentityId = session.identityId ∧ row.targetDeviceId = session.deviceId) ∧
      (message.requestId = row.requestId ∧ message.decision = .accept ∧
        message.sealedDelivery = some delivery) ∧
      BindsDelivery message.aadDigest row.requestId row.inviteId session

/-- A review that rejects carries no delivery. -/
def ContactLabel.RejectsEmpty (label : ContactLabel) : Prop :=
  ∀ idempotency message exact, label.call = .review idempotency message exact →
    message.decision = .reject → message.sealedDelivery = none

namespace ContactStore

/-- Every delivery of the outbox belongs to an accepted request, and was accepted with it. -/
def OnlyAccepted (labels : List ContactLabel) (store : ContactStore) : Prop :=
  ∀ stored ∈ store.outbox, ∃ row ∈ store.requests, row.requestId = stored.requestId ∧
    row.state = .accepted ∧ AcceptedBy labels row stored.sealedDelivery

variable {store after : ContactStore} {label : ContactLabel} {labels : List ContactLabel}

/-- Deliveries that are in the outbox stay accepted. -/
theorem OnlyAccepted.kept (accepted : store.OnlyAccepted labels) (keeps : store.Keeps after)
    {stored : DeliveryRow} (member : stored ∈ store.outbox) :
    ∃ row ∈ after.requests, row.requestId = stored.requestId ∧ row.state = .accepted ∧
      AcceptedBy (labels ++ [label]) row stored.sealedDelivery := by
  obtain ⟨row, listed, names, state, taken, earlier, review⟩ := accepted stored member
  obtain ⟨found, there, settled⟩ := keeps row listed
  obtain rfl := settled.eq_of_final (by rw [state]; decide)
  exact ⟨found, there, names, state, taken, List.mem_append_left _ earlier, review⟩

theorem OnlyAccepted.change (accepted : store.OnlyAccepted labels)
    (rejectsEmpty : label.RejectsEmpty) (change : store.Change label after) :
    after.OnlyAccepted (labels ++ [label]) := by
  intro stored member
  have keeps := change.keeps
  cases change with
  | settled => exact accepted.kept keeps member
  | created => exact accepted.kept keeps member
  | revoked => exact accepted.kept keeps member
  | admitted => exact accepted.kept keeps member
  | @reviewed idempotency message exact session row requests _ _ called reviews settles =>
    rcases List.mem_append.mp member with earlier | added
    · exact accepted.kept keeps earlier
    simp only [Option.mem_toList, Option.map_eq_some_iff] at added
    obtain ⟨content, carried, rfl⟩ := added
    have accepts : message.decision = .accept := by
      cases decision : message.decision with
      | accept => rfl
      | reject =>
        rw [rejectsEmpty idempotency message exact called decision] at carried
        cases carried
    have names := key_of_rowAt reviews.found
    -- the reviewed request is accepted at once, and stays so while the receipt is read
    have decided : { row with state := .accepted } ∈ (store.settle
        (·.requestId = message.requestId) (reviewedState message.decision)).requests := by
      refine mem_updateWhere.mpr ⟨row, mem_of_rowAt reviews.found, ?_⟩
      rw [if_pos ⟨names, reviews.pending⟩, accepts]
      rfl
    obtain ⟨found, listed, settled⟩ := settles.exists_later decided
    obtain rfl := settled.eq_of_final RequestState.noConfusion
    have bound := binds_of_verifyAad accepts reviews.bound
    refine ⟨_, listed, names, rfl, label, by simp, idempotency, message, exact, session, called,
      reviews.authenticated, ⟨reviews.identity, reviews.device⟩, ⟨names.symm, accepts, carried⟩,
      ?_⟩
    rw [← names] at bound
    exact bound

variable [PermissiveEd25519]

theorem onlyAccepted_of_run (run : Follows Steps {} labels store)
    (rejectsEmpty : ∀ label ∈ labels, label.RejectsEmpty) :
    store.Coherent ∧ store.OnlyAccepted labels := by
  have along := run.invariant (fun labels store => (∀ label ∈ labels, label.RejectsEmpty) →
    store.Coherent ∧ store.OnlyAccepted labels)
    (fun _ => ⟨coherent_empty, List.forall_mem_nil _⟩) ?_
  · exact along rejectsEmpty
  · intro labels before label after ih taken rejects
    obtain ⟨earlier, last⟩ := forall_mem_concat.mp rejects
    obtain ⟨coherent, accepted⟩ := ih earlier
    exact ⟨coherent.change taken.change, accepted.change last taken.change⟩

/-- In every run whose rejections carry no delivery, the outbox holds only deliveries that
their target device has accepted under a binding digest, and whatever a receipt discloses is
such a delivery of an accepted request. -/
theorem disclosed_deliveries_accepted (run : Follows Steps {} labels store)
    (rejectsEmpty : ∀ label ∈ labels, label.RejectsEmpty) :
    store.OnlyAccepted labels ∧
      ∀ label after receipt content, label.RejectsEmpty → label.call.Decoded →
        store.perform label = .ok (.receipt receipt, after) →
        receipt.sealedDelivery = some content →
          receipt.state = .accepted ∧ ∃ row ∈ after.requests, row.requestId = receipt.requestId ∧
            AcceptedBy (labels ++ [label]) row content := by
  refine ⟨(onlyAccepted_of_run run rejectsEmpty).2, ?_⟩
  intro label after receipt content last decoded done disclosed
  have longer : Follows Steps {} (labels ++ [label]) after :=
    follows_append.mpr ⟨store, run, .cons ⟨decoded, _, done⟩ (.nil after)⟩
  obtain ⟨coherent, accepted⟩ :=
    onlyAccepted_of_run longer (forall_mem_concat.mpr ⟨rejectsEmpty, last⟩)
  have shows := (change_of_perform done).2 receipt rfl
  obtain ⟨stored, found, rfl⟩ := Option.map_eq_some_iff.mp (shows.delivery.trans disclosed)
  obtain ⟨row, listed, names, state, provenance⟩ := accepted stored (mem_of_rowAt found)
  have sameId : row.requestId = receipt.requestId := names.trans (key_of_rowAt found)
  have here : after.requestAt receipt.requestId = some row :=
    sameId ▸ rowAt_of_mem coherent.requests_distinct listed
  have shown := shows.state
  rw [here, Option.map_some, Option.some.injEq] at shown
  exact ⟨shown.symm.trans state, row, listed, sameId, provenance⟩

end ContactStore

end Deliveries

/-! ## Reviews of the sample request -/

namespace ContactStore

section Samples

attribute [local instance] openEd25519 countingSha256 openPermissive

def sampleReceipt (state : RequestState) (delivery : Option (List UInt8)) : StoredContactReceipt :=
  ⟨sampleRequest.requestId, state, delivery,
    (contactReceipt sampleRequest.requestId state delivery).toOption.getD []⟩

/-- The sample request after a review with the delivery `[7]`. -/
def reviewedStore (message : ContactReviewV1) : ContactStore :=
  { requestedStore with
    requests := [{ sampleRow with state := reviewedState message.decision }]
    outbox := [⟨sampleRequest.requestId, [7]⟩]
    commands := requestedStore.commands ++ [⟨commandKey sampleSession (taggedBytes 4),
      .hashDomain ownerCommandDomain (wire message.canonical),
      (sampleReceipt (reviewedState message.decision) (some [7])).exactBytes⟩]
    rates := requestedStore.rates ++ [⟨⟨sampleIdentity, sampleDevice, .review, 0⟩, 1⟩] }

def reviewLabel (message : ContactReviewV1) : ContactLabel :=
  ⟨.review (taggedBytes 4) message (wire message.canonical), sampleView, sampleTime⟩

def acceptance : ContactReviewV1 :=
  ⟨sampleRequest.requestId, .accept, some [7], some (.hashDomain deliveryAadDomain
    (wire (ContactReviewV1.deliveryAad sampleRequest.requestId sampleRequest.inviteId
      sampleIdentity sampleDevice)))⟩

/-- A rejection with a delivery and without a digest. -/
def strayRejection : ContactReviewV1 := ⟨sampleRequest.requestId, .reject, some [7], none⟩

theorem acceptance_step :
    requestedStore.Steps (reviewLabel acceptance) (reviewedStore acceptance) := by
  have decoded : ContactReviewV1.decode (wire acceptance.canonical) = .ok acceptance := by
    decide +kernel
  have done : requestedStore.review sampleView (taggedBytes 4) acceptance
      (wire acceptance.canonical) sampleTime =
      .ok (sampleReceipt .accepted (some [7]), reviewedStore acceptance) := by
    rw [review, sampleView_authenticated]
    decide +kernel
  exact steps_of_review decoded done

theorem strayRejection_step :
    requestedStore.Steps (reviewLabel strayRejection) (reviewedStore strayRejection) := by
  have decoded : ContactReviewV1.decode (wire strayRejection.canonical) = .ok strayRejection := by
    decide +kernel
  have done : requestedStore.review sampleView (taggedBytes 4) strayRejection
      (wire strayRejection.canonical) sampleTime =
      .ok (sampleReceipt .rejected (some [7]), reviewedStore strayRejection) := by
    rw [review, sampleView_authenticated]
    decide +kernel
  exact steps_of_review decoded done

/-- The accepted delivery is in the outbox, with the review that accepted it. -/
theorem acceptance_delivered :
    (reviewedStore acceptance).outbox = [⟨sampleRequest.requestId, [7]⟩] ∧
      (reviewedStore acceptance).OnlyAccepted
        [createLabel, submitLabel, reviewLabel acceptance] := by
  have run : Follows Steps {} [createLabel, submitLabel, reviewLabel acceptance]
      (reviewedStore acceptance) :=
    .cons invitedStore_step (.cons requestedStore_step (.cons acceptance_step (.nil _)))
  refine ⟨rfl, (disclosed_deliveries_accepted run ?_).1⟩
  intro label member idempotency message exact called rejects
  simp only [List.mem_cons, List.not_mem_nil, or_false] at member
  rcases member with rfl | rfl | rfl
  · cases called
  · cases called
  · cases called
    cases rejects

/-- The delivery of a rejection is stored, and is handed out with the rejection. -/
theorem rejected_delivery_disclosed :
    Reached Starts Steps (reviewedStore strayRejection) ∧ strayRejection.decision = .reject ∧
      (reviewedStore strayRejection).outbox = [⟨sampleRequest.requestId, [7]⟩] ∧
      (reviewedStore strayRejection).receipt sampleView sampleRequest.requestId (taggedBytes 2)
        sampleTime =
        .ok (sampleReceipt .rejected (some [7]), reviewedStore strayRejection) := by
  refine ⟨.next _ requestedStore_reached strayRejection_step, rfl, rfl, ?_⟩
  decide +kernel

end Samples

end ContactStore

end Dirextalk.Contact
