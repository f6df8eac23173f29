import Dirextalk.Identity.Authority
import Dirextalk.Lib.History

/-!
# Agreement on identity logs

The entry hash of an event covers its complete encoding, which names the entry hash
of the event before it.  Where the digest tells the encodings apart, one head hash
therefore stands for one sequence of events and one projection.
-/

namespace Dirextalk.Identity

open Domain Lib Wire

section Agreement

variable [Ed25519] [Sha256] {log next other : IdentityLogV1} {event another : IdentityLogEventV1}
  {events others : List IdentityLogEventV1}

/-- The genesis event creates the log. -/
def Starts (genesis : IdentityLogEventV1) (log : IdentityLogV1) : Prop :=
  IdentityLogV1.bootstrap genesis = .ok log

/-- The byte strings whose digests are the entry hashes of some events. -/
def entryInputs (events : List IdentityLogEventV1) : Set (List UInt8) :=
  { input | ∃ event ∈ events, ∃ bytes, event.toDeterministicCbor = .ok bytes ∧
    input = identityLogEntryHashDomain ++ bytes }

/-! ## Entry hashes -/

theorem entryHash_eq_ok {hash : Sha256Digest} :
    event.entryHash = .ok hash ↔ ∃ bytes, event.toDeterministicCbor = .ok bytes ∧
      hash = .hashDomain identityLogEntryHashDomain bytes := by
  simp only [IdentityLogEventV1.entryHash, IdentityLogEventV1.toDeterministicCbor, canonicalHash,
    bind_eq_ok, mapError_eq_ok, pure_eq_ok]
  constructor
  · rintro ⟨value, valued, bytes, encoded, rfl⟩
    exact ⟨bytes, ⟨value, valued, encoded⟩, rfl⟩
  · rintro ⟨bytes, ⟨value, valued, encoded⟩, rfl⟩
    exact ⟨value, valued, bytes, encoded, rfl⟩

theorem exists_encodings (verified : ∀ event ∈ events, event.verify = .ok ()) :
    ∃ encodings : List (List UInt8),
      events.map (·.toDeterministicCbor) = encodings.map .ok := by
  induction events with
  | nil => exact ⟨[], rfl⟩
  | cons event rest ih =>
    obtain ⟨first, restVerified⟩ := List.forall_mem_cons.mp verified
    obtain ⟨bytes, encoded, -⟩ := event_bytes first
    obtain ⟨encodings, restEncoded⟩ := ih restVerified
    exact ⟨bytes :: encodings, by simp [encoded, restEncoded]⟩

/-- Verified events with one encoding are one event. -/
theorem event_eq_of_bytes (verified : event.verify = .ok ())
    (verifiedOther : another.verify = .ok ())
    (same : event.toDeterministicCbor = another.toDeterministicCbor) : event = another := by
  obtain ⟨bytes, encoded, decoded⟩ := event_bytes verified
  obtain ⟨bytesOther, encodedOther, decodedOther⟩ := event_bytes verifiedOther
  rw [encoded, encodedOther] at same
  cases same
  exact Except.ok.inj (decoded.symm.trans decodedOther)

/-- Verified events with one entry hash are one event, where the digest is injective. -/
theorem event_eq_of_entryHash {hash : Sha256Digest}
    (injective : Set.InjOn Sha256.digest (entryInputs (events ++ others)))
    (member : event ∈ events) (memberOther : another ∈ others) (verified : event.verify = .ok ())
    (verifiedOther : another.verify = .ok ()) (hashed : event.entryHash = .ok hash)
    (hashedOther : another.entryHash = .ok hash) : event = another := by
  obtain ⟨bytes, encoded, rfl⟩ := entryHash_eq_ok.mp hashed
  obtain ⟨bytesOther, encodedOther, same⟩ := entryHash_eq_ok.mp hashedOther
  have inputs : identityLogEntryHashDomain ++ bytes = identityLogEntryHashDomain ++ bytesOther :=
    injective ⟨event, by simp [member], bytes, encoded, rfl⟩
      ⟨another, by simp [memberOther], bytesOther, encodedOther, rfl⟩
      (congrArg Sha256Digest.bytes same)
  refine event_eq_of_bytes verified verifiedOther ?_
  rw [encoded, encodedOther, List.append_cancel_left inputs]

theorem injOn_entryInputs
    (apart : ∀ event ∈ events, ∀ another ∈ events, event.entryHash = another.entryHash →
      event = another) : Set.InjOn Sha256.digest (entryInputs events) := by
  rintro _ ⟨event, member, bytes, encoded, rfl⟩ _ ⟨another, memberOther, bytesOther,
    encodedOther, rfl⟩ same
  have hashed := entryHash_eq_ok.mpr ⟨bytes, encoded, rfl⟩
  have hashedOther := entryHash_eq_ok.mpr ⟨bytesOther, encodedOther, rfl⟩
  have digests : Sha256Digest.hashDomain identityLogEntryHashDomain bytes =
      .hashDomain identityLogEntryHashDomain bytesOther := congrArg Sha256Digest.mk same
  obtain rfl := apart event member another memberOther (by rw [hashed, hashedOther, digests])
  rw [encoded] at encodedOther
  rw [Except.ok.inj encodedOther]

/-! ## The chain -/

theorem log_hashLinked :
    HashLinked Starts Appends IdentityLogV1.headHash (fun event hash => event.entryHash = .ok hash)
      (·.unsigned.previousEventHash) where
  start_unique genesis log other started startedOther :=
    Except.ok.inj (started.symm.trans startedOther)
  start_head genesis log started := by
    obtain ⟨-, -, -, entryHash, -, -, hashed, rfl⟩ := (bootstraps_of_bootstrap started).outcome
    exact hashed
  start_previous genesis log started := (bootstraps_of_bootstrap started).previous
  step_unique log event after other admitted admittedOther :=
    Except.ok.inj (admitted.symm.trans admittedOther)
  step_head log event after admitted := by
    obtain ⟨entryHash, -, hashed, -, -, rfl⟩ := (appended_of_append admitted).outcome
    exact hashed
  step_previous log event after admitted := (appended_of_append admitted).previous

theorem built_verified (built : Built Starts Appends log events) :
    ∀ event ∈ events, event.verify = .ok () :=
  built.forall_labels (fun _ _ started => (bootstraps_of_bootstrap started).verified)
    fun _ _ _ admitted => (appended_of_append admitted).verified

theorem built_headSequence (built : Built Starts Appends log events) :
    log.headSequence.value.toNat = events.length := by
  refine built.invariant (fun log events => log.headSequence.value.toNat = events.length)
    (fun genesis log started => ?_) fun log events event after counted admitted => ?_
  · have first := (bootstraps_of_bootstrap started).sequence
    obtain ⟨-, -, -, -, -, -, -, rfl⟩ := (bootstraps_of_bootstrap started).outcome
    simp [first]
  · have following := (appended_of_append admitted).sequence
    obtain ⟨-, -, -, -, -, rfl⟩ := (appended_of_append admitted).outcome
    rw [following, counted, List.length_append, List.length_singleton]

/-- No transition forgets an entry hash. -/
theorem Transition.seenEntryHashes {payload : IdentityLogEventPayloadV1}
    (taken : Transition log event payload next) : next.seenEntryHashes = log.seenEntryHashes := by
  cases taken <;> rfl

theorem built_seen (built : Built Starts Appends log events) :
    ∀ event ∈ events, ∃ hash, event.entryHash = .ok hash ∧ hash ∈ log.seenEntryHashes := by
  refine built.invariant
    (fun log events => ∀ event ∈ events, ∃ hash, event.entryHash = .ok hash ∧
      hash ∈ log.seenEntryHashes)
    (fun genesis log started => ?_) fun log events event after seen admitted => ?_
  · obtain ⟨-, -, -, entryHash, -, -, hashed, rfl⟩ := (bootstraps_of_bootstrap started).outcome
    exact List.forall_mem_singleton.mpr ⟨entryHash, hashed, mem_set_insert.mpr (.inl rfl)⟩
  · obtain ⟨entryHash, middle, hashed, -, taken, rfl⟩ := (appended_of_append admitted).outcome
    refine List.forall_mem_append.mpr ⟨fun old member => ?_, List.forall_mem_singleton.mpr
      ⟨entryHash, hashed, mem_set_insert.mpr (.inl rfl)⟩⟩
    obtain ⟨hash, hashedOld, seenOld⟩ := seen old member
    exact ⟨hash, hashedOld, mem_set_insert.mpr (.inr (taken.seenEntryHashes ▸ seenOld))⟩

/-! ## Agreement -/

/-- Equal head hashes stand for one sequence of events and one projection, and an event
that is already in the log is never admitted again. -/
theorem head_hash_determines_log :
    (∀ (log other : IdentityLogV1) (events others : List IdentityLogEventV1),
      Built Starts Appends log events → Built Starts Appends other others →
      Set.InjOn Sha256.digest (entryInputs (events ++ others)) →
      log.headHash = other.headHash →
      (∃ encodings : List (List UInt8),
        events.map (·.toDeterministicCbor) = encodings.map .ok ∧
        others.map (·.toDeterministicCbor) = encodings.map .ok) ∧
      events = others ∧ log.headSequence = other.headSequence ∧
      log.headSequence.value.toNat = events.length ∧ log = other) ∧
    ∀ (log next : IdentityLogV1) (events : List IdentityLogEventV1), ∀ event ∈ events,
      Built Starts Appends log events → log.append event ≠ .ok next := by
  constructor
  · intro log other events others built builtOther injective same
    have verified := built_verified built
    have verifiedOther := built_verified builtOther
    obtain ⟨rfl, rfl⟩ := log_hashLinked.agree built builtOther
      (fun event member another memberOther hash hashed hashedOther =>
        event_eq_of_entryHash injective member memberOther (verified event member)
          (verifiedOther another memberOther) hashed hashedOther) same
    have encodings : ∃ encodings : List (List UInt8),
        events.map (·.toDeterministicCbor) = encodings.map .ok :=
      exists_encodings verified
    obtain ⟨encodings, encoded⟩ := encodings
    exact ⟨⟨encodings, encoded, encoded⟩, rfl, rfl, built_headSequence built, rfl⟩
  · intro log next events event member built admitted
    obtain ⟨hash, hashed, seen⟩ := built_seen built event member
    obtain ⟨entryHash, -, hashedAgain, unseen, -⟩ := (appended_of_append admitted).outcome
    rw [hashed] at hashedAgain
    cases hashedAgain
    exact unseen seen

end Agreement

section Sample

attribute [local instance] openEd25519 countingSha256

/-- Two copies of the sample run agree, and its addition cannot be replayed. -/
theorem sample_run_agrees :
    (enrolledLog.headSequence.value.toNat = [sampleGenesis, sampleAddition].length) ∧
      ∀ next, enrolledLog.append sampleAddition ≠ .ok next := by
  have built : Built Starts Appends enrolledLog ([sampleGenesis] ++ [sampleAddition]) :=
    .next (.first genesis_starts) addition_appends
  have injective : Set.InjOn Sha256.digest
      (entryInputs ([sampleGenesis, sampleAddition] ++ [sampleGenesis, sampleAddition])) :=
    injOn_entryInputs (by decide +kernel)
  obtain ⟨-, -, -, counted, -⟩ :=
    head_hash_determines_log.1 enrolledLog enrolledLog _ _ built built injective rfl
  exact ⟨counted, fun next =>
    head_hash_determines_log.2 enrolledLog next _ sampleAddition (by simp) built⟩

end Sample

end Dirextalk.Identity
