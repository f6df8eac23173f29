import Dirextalk.Transport.Counts

/-!
# Clock readings and the lock

A call reads the clock before it takes the lock, and the state refuses a time that is older
than the last one it has seen.  With enough capacity a call is refused exactly if a call
that has read the clock later was first at the lock.
-/

namespace Dirextalk.Transport

open Lib

variable {policy : DimensionConfig} {now : Nat}

/-! ## Interleaved calls -/

/-- A guard with the clock, the live permits and the calls that have read the clock and wait
for the lock. -/
structure Racing (σ π : Type) where
  state : σ
  clock : Nat
  live : List π
  readings : List (π × Nat)

/-- An acquisition in two parts, and the clock. -/
inductive RacingEvent (π : Type) where
  | tick (later : Nat)
  | read (request : π)
  | enter (request : π) (now : Nat)
  | drop (request : π)

/-- One event of racing acquisitions. -/
inductive Admission.RacingStep {σ π : Type} [DecidableEq π] (admission : Admission σ π) :
    Racing σ π → RacingEvent π → Racing σ π → Prop
  | ticks {racing later} (forward : racing.clock ≤ later) :
      admission.RacingStep racing (.tick later) { racing with clock := later }
  | reads {racing request} :
      admission.RacingStep racing (.read request)
        { racing with readings := (request, racing.clock) :: racing.readings }
  | enters {racing request now granted after} (read : (request, now) ∈ racing.readings)
      (acquired : admission.tryAcquire request now racing.state = (granted, after)) :
      admission.RacingStep racing (.enter request now)
        { racing with
          state := after
          live := if granted then request :: racing.live else racing.live
          readings := racing.readings.erase (request, now) }
  | drops {racing request} (held : request ∈ racing.live) :
      admission.RacingStep racing (.drop request)
        { racing with
          state := admission.release request racing.state
          live := racing.live.erase request }

/-- The states that interleaved calls lead to. -/
abbrev Admission.Raced {σ π : Type} [DecidableEq π] (admission : Admission σ π) :
    Racing σ π → Prop :=
  Reached (· = ⟨admission.start, 0, [], []⟩) admission.RacingStep

/-- Only critical sections change a guard. -/
theorem Admission.reachable_of_raced {σ π : Type} [DecidableEq π] {admission : Admission σ π}
    {racing : Racing σ π} (run : admission.Raced racing) :
    ∃ grants, admission.Reachable ⟨racing.state, racing.live, grants⟩ := by
  refine run.invariant (fun racing => ∃ grants, admission.Reachable
    ⟨racing.state, racing.live, grants⟩) ?_ ?_
  · rintro racing rfl
    exact ⟨[], .initial rfl⟩
  · intro racing event after ⟨grants, reachable⟩ step
    cases step with
    | ticks | reads => exact ⟨grants, reachable⟩
    | @enters request now granted state read acquired =>
      cases granted with
      | true => exact ⟨_, reachable.next _ (.grants acquired)⟩
      | false => exact ⟨_, reachable.next _ (.refuses acquired)⟩
    | drops held => exact ⟨grants, reachable.next _ (.drops held)⟩

/-! ## Reasons to refuse -/

/-- The tokens of a bucket at some time; before its last refill, those that it has. -/
def tokensAt (policy : DimensionConfig) (now : Nat) (current : Option AdmissionEntry) : Nat :=
  let entry := current.getD (.new policy now)
  ((entry.refill policy now).getD entry).tokens

/-- The concurrency limit of an entry is reached or its bucket is empty. -/
abbrev EntryBlocked (policy : DimensionConfig) (now : Nat) (current : Option AdmissionEntry) :
    Prop :=
  policy.maxConcurrent ≤ (current.map AdmissionEntry.inFlight).getD 0 ∨
    tokensAt policy now current = 0

/-- The entry of a key is blocked, or its table is full. -/
abbrev KeyBlocked {κ : Type} [DecidableEq κ] (policy : DimensionConfig) (maxEntries now : Nat)
    (table : KeyTable κ AdmissionEntry) (key : κ) : Prop :=
  (table.get? key).isNone = true ∧ maxEntries ≤ table.length ∨
    EntryBlocked policy now (table.get? key)

theorem candidate_eq_none {current : Option AdmissionEntry}
    (sound : ∀ entry ∈ current, EntrySound policy now entry) :
    AdmissionEntry.candidate current policy now = none ↔ EntryBlocked policy now current := by
  have start := AdmissionEntry.sound_getD sound (Nat.le_refl now)
  obtain ⟨refilled, refills, spec⟩ :=
    AdmissionEntry.refill_spec start.tokens (start.lastRefill.trans start.lastSeen)
  have permits : (current.map AdmissionEntry.inFlight).getD 0 = refilled.inFlight := by
    rw [spec.inFlight]
    cases current <;> rfl
  have tokens : tokensAt policy now current = refilled.tokens := by
    simp only [tokensAt, refills, Option.getD_some]
  rw [AdmissionEntry.candidate, EntryBlocked, tokens, refills, permits]
  by_cases blocked : policy.maxConcurrent ≤ refilled.inFlight ∨ refilled.tokens = 0 <;>
    simp [blocked]

variable {κ : Type} [DecidableEq κ] {maxEntries : Nat} {table : KeyTable κ AdmissionEntry}
variable {live : List κ}

theorem admitKey_eq_none (sound : TableSound policy maxEntries now table live) (key : κ) :
    admitKey policy maxEntries now key table = none ↔
      KeyBlocked policy maxEntries now table key := by
  unfold admitKey
  split
  case isTrue full => simp [KeyBlocked, full]
  case isFalse free =>
    rw [KeyBlocked, ← candidate_eq_none (sound.entries key)]
    cases AdmissionEntry.candidate (table.get? key) policy now with
    | none => simp
    | some taken => simpa using free

theorem admitOptional_eq_none (sound : TableSound policy maxEntries now table live)
    (key : Option κ) :
    admitOptional policy maxEntries now key table = none ↔
      ∃ named ∈ key, KeyBlocked policy maxEntries now table named := by
  cases key with
  | none => simp [admitOptional]
  | some named => simpa [admitOptional] using admitKey_eq_none sound named

/-- What an acquisition lacks in the state that it observes. -/
abbrev SourceBlocked (config : SourceTransportAdmissionConfig) (state : SourceAdmissionState)
    (request : Option IpAddr) (now : Nat) : Prop :=
  EntryBlocked config.global now (some (state.observe config now).global) ∨
    ∃ source ∈ sourceOf request, KeyBlocked config.source config.maxSourceEntries now
      (state.observe config now).sources source

/-- A check of the acquisition fails. -/
abbrev ConnectorBlocked (config : ConnectorTransportAdmissionConfig) (state : AdmissionState)
    (request : Option IpAddr × ConnectorWorkloadIdentity) (now : Nat) : Prop :=
  config.maxConcurrent ≤ (state.observe config now).totalInFlight ∨
    (∃ source ∈ sourceOf request.1, KeyBlocked config.source config.maxSourceEntries now
      (state.observe config now).sources source) ∨
    KeyBlocked config.identity config.maxIdentityEntries now
      (state.observe config now).identities request.2

theorem settle_fst_eq_false {σ : Type} {last : Nat} {state observed : σ} {admitted : Option σ} :
    (settle last now state observed admitted).1 = false ↔ now < last ∨ admitted = none := by
  unfold settle
  split
  case isTrue older => simp [older]
  case isFalse newer => cases admitted <;> simp [newer]

theorem source_admit_eq_none {config : SourceTransportAdmissionConfig}
    {state : SourceAdmissionState} {permits : List (Option IpAddr)}
    (sound : SourceSound config state permits) (newer : state.lastObservedNow ≤ now)
    (request : Option IpAddr) :
    (state.observe config now).admitRequest config (sourceOf request) now = none ↔
      SourceBlocked config state request now := by
  obtain ⟨global, _, sources⟩ := sound.observe newer
  rw [SourceSound.lastObservedNow_observe] at global sources
  rw [SourceBlocked, ← candidate_eq_none (by rintro _ ⟨⟩; exact global),
    ← admitOptional_eq_none sources, SourceAdmissionState.admitRequest]
  cases AdmissionEntry.candidate (some (state.observe config now).global) config.global now with
  | none => simp
  | some taken =>
    cases admitOptional config.source config.maxSourceEntries now (sourceOf request)
      (state.observe config now).sources <;> simp

theorem connector_admit_eq_none {config : ConnectorTransportAdmissionConfig}
    {state : AdmissionState} {permits : List (Option IpAddr × ConnectorWorkloadIdentity)}
    (sound : ConnectorSound config state permits) (newer : state.lastObservedNow ≤ now)
    (request : Option IpAddr × ConnectorWorkloadIdentity) :
    (state.observe config now).admitRequest config (sourceOf request.1) request.2 now = none ↔
      ConnectorBlocked config state request now := by
  obtain ⟨_, _, sources, identities⟩ := sound.observe newer
  rw [ConnectorSound.lastObservedNow_observe] at sources identities
  rw [ConnectorBlocked, ← admitOptional_eq_none sources, ← admitKey_eq_none identities,
    AdmissionState.admitRequest]
  split
  case isTrue full => simp [full]
  case isFalse free =>
    cases admitOptional config.source config.maxSourceEntries now (sourceOf request.1)
      (state.observe config now).sources with
    | none => simp
    | some table =>
      cases admitKey config.identity config.maxIdentityEntries now request.2
        (state.observe config now).identities <;> simp [free]

/-- In every interleaving of both guards, a call is refused if and only if a limit was reached,
a bucket was empty or a table was full when it had the lock, or its reading of the clock was
older than one that had reached the lock before. -/
theorem refused_iff_blocked {config : SourceTransportAdmissionConfig}
    {connector : ConnectorTransportAdmissionConfig}
    {racing : Racing SourceAdmissionState (Option IpAddr)}
    {greeting : Racing AdmissionState (Option IpAddr × ConnectorWorkloadIdentity)}
    (run : (sourceTransportAdmission config).Raced racing)
    (helloRun : (connectorTransportAdmission connector).Raced greeting) :
    (∀ request now, (request, now) ∈ racing.readings →
      (((sourceTransportAdmission config).tryAcquire request now racing.state).1 = false ↔
        now < racing.state.lastObservedNow ∨ SourceBlocked config racing.state request now)) ∧
    (∀ request now, (request, now) ∈ greeting.readings →
      (((connectorTransportAdmission connector).tryAcquire request now greeting.state).1 = false ↔
        now < greeting.state.lastObservedNow ∨
          ConnectorBlocked connector greeting.state request now)) := by
  constructor
  · intro request now _
    obtain ⟨_, reachable⟩ := Admission.reachable_of_raced run
    refine settle_fst_eq_false.trans (or_congr_right' fun newer => ?_)
    exact source_admit_eq_none (SourceSound.of_reachable reachable) (Nat.not_lt.mp newer) request
  · intro request now _
    obtain ⟨_, reachable⟩ := Admission.reachable_of_raced helloRun
    refine settle_fst_eq_false.trans (or_congr_right' fun newer => ?_)
    exact connector_admit_eq_none (ConnectorSound.of_reachable reachable) (Nat.not_lt.mp newer)
      request

/-! ## A call that is overtaken -/

def roomyDimension : DimensionConfig := ⟨3, 3, 3000000000, by decide, by decide⟩

def roomyConfig : SourceTransportAdmissionConfig :=
  ⟨roomyDimension, roomyDimension, 6000000000, 6, by decide, by decide, by decide, by decide⟩

def roomyHello : ConnectorTransportAdmissionConfig :=
  ⟨3, roomyDimension, roomyDimension, 6000000000, 6, 6, by decide, by decide, by decide,
    by decide⟩

/-- A call has read the clock at zero, and another one later has taken the lock. -/
theorem overtaken_raced : ∃ racing, (sourceTransportAdmission roomyConfig).Raced racing ∧
    racing.readings = [(sampleSource, 0)] ∧
    racing.state = ((sourceTransportAdmission roomyConfig).tryAcquire sampleSource 1
      (sourceTransportAdmission roomyConfig).start).2 := by
  have start : (sourceTransportAdmission roomyConfig).Raced
      ⟨(sourceTransportAdmission roomyConfig).start, 0, [], []⟩ := .initial rfl
  have read := start.next (.read sampleSource) .reads
  have ticked := read.next (.tick 1) (.ticks (Nat.zero_le 1))
  have readToo := ticked.next (.read sampleSource) .reads
  have entered := readToo.next (.enter sampleSource 1) (.enters List.mem_cons_self rfl)
  exact ⟨_, entered, by decide, rfl⟩

/-- With free capacity in every dimension, the overtaken call is refused. -/
theorem overtaken_refused : ∃ racing, (sourceTransportAdmission roomyConfig).Raced racing ∧
    (sampleSource, 0) ∈ racing.readings ∧
    ((sourceTransportAdmission roomyConfig).tryAcquire sampleSource 0 racing.state).1 = false ∧
    ¬SourceBlocked roomyConfig racing.state sampleSource 0 := by
  obtain ⟨racing, run, readings, state⟩ := overtaken_raced
  refine ⟨racing, run, by rw [readings]; exact List.mem_cons_self, ?_, ?_⟩
  · rw [state]
    decide +kernel
  · rw [state]
    decide +kernel

/-- A reading that is not older is not refused. -/
theorem current_granted : ∃ racing greeting,
    (sourceTransportAdmission roomyConfig).Raced racing ∧
    (connectorTransportAdmission roomyHello).Raced greeting ∧
    ((sourceTransportAdmission roomyConfig).tryAcquire sampleSource 0 racing.state).1 ≠ false ∧
    ((connectorTransportAdmission roomyHello).tryAcquire sampleHello 0 greeting.state).1 ≠
      false := by
  have start : (sourceTransportAdmission roomyConfig).Raced
      ⟨(sourceTransportAdmission roomyConfig).start, 0, [], []⟩ := .initial rfl
  have hello : (connectorTransportAdmission roomyHello).Raced
      ⟨(connectorTransportAdmission roomyHello).start, 0, [], []⟩ := .initial rfl
  have read := start.next (.read sampleSource) .reads
  have greeted := hello.next (.read sampleHello) .reads
  obtain ⟨sources, greeters⟩ := refused_iff_blocked read greeted
  refine ⟨_, _, read, greeted, ?_, ?_⟩
  · rw [Ne, sources sampleSource 0 List.mem_cons_self]
    decide +kernel
  · rw [Ne, greeters sampleHello 0 List.mem_cons_self]
    decide +kernel

end Dirextalk.Transport
