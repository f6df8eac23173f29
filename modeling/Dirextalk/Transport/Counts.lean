import Dirextalk.Transport.Admission

/-!
# Permits and their counts

In every state that acquisitions and drops lead to, the counts of both guards are the
numbers of live permits, whatever was evicted in between: an entry that a live permit
names is never idle.
-/

namespace Dirextalk.Transport

open Lib

variable {policy : DimensionConfig} {now last : Nat}

/-! ## Entries -/

/-- The limits of an entry that was seen by some time. -/
structure EntrySound (policy : DimensionConfig) (last : Nat) (entry : AdmissionEntry) : Prop where
  inFlight : entry.inFlight ≤ policy.maxConcurrent
  tokens : entry.tokens ≤ policy.burst
  lastRefill : entry.lastRefill ≤ entry.lastSeen
  lastSeen : entry.lastSeen ≤ last

theorem EntrySound.mono {entry : AdmissionEntry} (sound : EntrySound policy last entry)
    (later : last ≤ now) : EntrySound policy now entry :=
  ⟨sound.inFlight, sound.tokens, sound.lastRefill, sound.lastSeen.trans later⟩

/-- What a refill may change.  The tokens to come by some later time do not grow, and less
than an interval is carried over while the bucket is not full. -/
structure Refilled (policy : DimensionConfig) (now : Nat) (entry refilled : AdmissionEntry) :
    Prop where
  inFlight : refilled.inFlight = entry.inFlight
  tokens : refilled.tokens ≤ policy.burst
  lastRefill : refilled.lastRefill ≤ now
  credit : ∀ later, now ≤ later →
    refilled.tokens + (later - refilled.lastRefill) / policy.refillInterval ≤
      entry.tokens + (later - entry.lastRefill) / policy.refillInterval
  carried : refilled.tokens < policy.burst → now - refilled.lastRefill < policy.refillInterval

namespace AdmissionEntry

variable {entry refilled taken : AdmissionEntry} {current : Option AdmissionEntry}

/-- A refill fails only at a time before the last one. -/
theorem refill_spec (bounded : entry.tokens ≤ policy.burst) (observed : entry.lastRefill ≤ now) :
    ∃ refilled, entry.refill policy now = some refilled ∧ Refilled policy now entry refilled := by
  have positive := policy.refillInterval_pos
  rw [refill, if_neg (Nat.not_lt.mpr observed)]
  simp only
  split
  case isTrue still =>
    refine ⟨entry, rfl, rfl, bounded, observed, fun _ _ => Nat.le_refl _, ?_⟩
    intro missing
    have none := still.resolve_right missing.ne
    exact (Nat.div_eq_zero_iff.mp none).resolve_left positive.ne'
  case isFalse gains =>
    generalize counted : (now - entry.lastRefill) / policy.refillInterval = intervals at gains
    refine ⟨_, rfl, rfl, by simp only; omega, ?_, ?_, ?_⟩
    all_goals simp only
    all_goals split
    case refine_1.isTrue => exact Nat.le_refl _
    case refine_2.isTrue full =>
      intro later after
      have span : later - entry.lastRefill = now - entry.lastRefill + (later - now) := by omega
      have whole : (now - entry.lastRefill) / policy.refillInterval +
          (later - now) / policy.refillInterval ≤
            (later - entry.lastRefill) / policy.refillInterval := by
        rw [span]
        exact Nat.div_add_div_le_add_div
      omega
    case refine_3.isTrue full => omega
    all_goals
      -- A bucket that is not full has taken every interval.
      have added : min intervals (policy.burst - entry.tokens) = intervals := by omega
      have spent : policy.refillInterval * intervals ≤ now - entry.lastRefill := by
        rw [← counted]
        exact Nat.mul_div_le _ _
      rw [added]
    case refine_1.isFalse => omega
    case refine_2.isFalse =>
      intro later after
      have within : intervals ≤ (later - entry.lastRefill) / policy.refillInterval := by
        rw [Nat.le_div_iff_mul_le positive, Nat.mul_comm]
        omega
      rw [Nat.sub_add_eq, Nat.sub_mul_div, Nat.add_assoc, Nat.add_sub_cancel' within]
    case refine_3.isFalse =>
      intro _
      rw [Nat.sub_add_eq, ← counted]
      have rest := Nat.mod_lt (now - entry.lastRefill) positive
      rw [Nat.mod_def] at rest
      exact rest

/-- The entry that an acquisition starts from. -/
theorem sound_getD (sound : ∀ entry ∈ current, EntrySound policy last entry) (later : last ≤ now) :
    EntrySound policy now (current.getD (new policy now)) := by
  cases current with
  | none => exact ⟨Nat.zero_le _, Nat.le_refl _, Nat.le_refl _, Nat.le_refl _⟩
  | some entry => exact (sound entry rfl).mono later

theorem candidate_spec (sound : EntrySound policy now (current.getD (new policy now))) :
    ∃ refilled, Refilled policy now (current.getD (new policy now)) refilled ∧
      candidate current policy now =
        if policy.maxConcurrent ≤ refilled.inFlight ∨ refilled.tokens = 0 then none
        else some (refilled.taken policy now) := by
  obtain ⟨refilled, refills, spec⟩ :=
    refill_spec sound.tokens (sound.lastRefill.trans sound.lastSeen)
  refine ⟨refilled, spec, ?_⟩
  rw [candidate, refills]
  rfl

theorem sound_of_candidate (sound : EntrySound policy now (current.getD (new policy now)))
    (admits : candidate current policy now = some taken) :
    EntrySound policy now taken ∧ taken.inFlight = (current.map inFlight).getD 0 + 1 := by
  obtain ⟨refilled, spec, candidate_eq⟩ := candidate_spec sound
  rw [candidate_eq] at admits
  split at admits
  case isTrue => cases admits
  case isFalse free =>
    cases admits
    rw [not_or, Nat.not_le] at free
    refine ⟨⟨free.1, (Nat.sub_le _ _).trans spec.tokens, ?_, Nat.le_refl _⟩, ?_⟩
    · simp only [AdmissionEntry.taken]
      split
      · exact Nat.le_refl _
      · exact spec.lastRefill
    · simp only [AdmissionEntry.taken, spec.inFlight]
      cases current <;> rfl

end AdmissionEntry

/-! ## Keyed dimensions -/

section Dimension

variable {κ : Type} [DecidableEq κ] {maxEntries : Nat} {table after : KeyTable κ AdmissionEntry}
variable {live : List κ} {key : κ}

/-- The permits in flight for a key; a key without an entry has none. -/
def inFlightOf (table : KeyTable κ AdmissionEntry) (key : κ) : Nat :=
  ((table.get? key).map AdmissionEntry.inFlight).getD 0

/-- A dimension whose entries are within their limits and count the live permits. -/
structure TableSound (policy : DimensionConfig) (maxEntries last : Nat)
    (table : KeyTable κ AdmissionEntry) (live : List κ) : Prop where
  distinct : table.Distinct
  size : table.length ≤ maxEntries
  entries : ∀ key entry, table.get? key = some entry → EntrySound policy last entry
  counts : ∀ key, inFlightOf table key = live.count key

/-- What evictions leave: the counts of all keys and the entries that survive. -/
structure Survives (before after : KeyTable κ AdmissionEntry) : Prop where
  inFlight : ∀ key, inFlightOf after key = inFlightOf before key
  entries : ∀ key entry, after.get? key = some entry → before.get? key = some entry

theorem Survives.refl (table : KeyTable κ AdmissionEntry) : Survives table table :=
  ⟨fun _ => rfl, fun _ _ => id⟩

theorem survives_evictIdle (distinct : table.Distinct) (now ttl : Nat) :
    Survives table (evictIdle now ttl table) := by
  have lookup (key : κ) : (table.retain fun entry => !entry.isExpired now ttl).get? key =
      (table.get? key).filter fun entry => !entry.isExpired now ttl :=
    KeyTable.get?_retain distinct _
  constructor
  · intro key
    rw [inFlightOf, evictIdle, lookup, inFlightOf]
    cases found : table.get? key with
    | none => rfl
    | some entry =>
      cases expired : entry.isExpired now ttl with
      | false => simp [Option.filter, expired]
      | true =>
        have idle : entry.inFlight = 0 := by
          simp only [AdmissionEntry.isExpired, Bool.and_eq_true, decide_eq_true_eq] at expired
          exact expired.1.1
        simp [Option.filter, expired, idle]
  · intro key entry kept
    rw [evictIdle, lookup, Option.filter_eq_some_iff] at kept
    exact kept.1

namespace TableSound

theorem empty : TableSound policy maxEntries last ([] : KeyTable κ AdmissionEntry) [] :=
  ⟨.nil, Nat.zero_le _, fun _ _ found => (nomatch found), fun _ => rfl⟩

theorem later (sound : TableSound policy maxEntries last table live) (after : last ≤ now) :
    TableSound policy maxEntries now table live :=
  ⟨sound.distinct, sound.size, fun key entry found => (sound.entries key entry found).mono after,
    sound.counts⟩

theorem evictIdle (sound : TableSound policy maxEntries last table live) (now ttl : Nat) :
    TableSound policy maxEntries last (Transport.evictIdle now ttl table) live := by
  have survives := survives_evictIdle sound.distinct now ttl
  refine ⟨KeyTable.distinct_retain sound.distinct _, (KeyTable.length_retain_le _).trans sound.size,
    fun key entry found => sound.entries key entry (survives.entries key entry found), ?_⟩
  intro key
  rw [survives.inFlight, sound.counts]

theorem admitKey (sound : TableSound policy maxEntries now table live)
    (admits : Transport.admitKey policy maxEntries now key table = some after) :
    TableSound policy maxEntries now after (key :: live) := by
  unfold Transport.admitKey at admits
  split at admits
  case isTrue => cases admits
  case isFalse free =>
    rw [Option.bind_eq_bind, Option.bind_eq_some_iff] at admits
    obtain ⟨taken, candidate, inserted⟩ := admits
    cases inserted
    have start := AdmissionEntry.sound_getD (sound.entries key) (Nat.le_refl now)
    obtain ⟨entry, counted⟩ := AdmissionEntry.sound_of_candidate start candidate
    refine ⟨KeyTable.distinct_insert sound.distinct, ?_, ?_, ?_⟩
    · refine KeyTable.length_insert_le sound.size ?_
      rw [not_and_or, Nat.not_le] at free
      exact free.imp (by simp [Option.isSome_iff_ne_none]) id
    · intro other found lookup
      rw [KeyTable.get?_insert] at lookup
      split at lookup
      · cases lookup
        exact entry
      · exact sound.entries other found lookup
    · intro other
      rw [inFlightOf, KeyTable.get?_insert, List.count_cons]
      by_cases same : other = key
      · subst same
        simp [counted, ← sound.counts, inFlightOf]
      · simp [same, Ne.symm same, ← sound.counts, inFlightOf]

theorem releaseKey (sound : TableSound policy maxEntries now table (key :: live)) :
    TableSound policy maxEntries now (Transport.releaseKey key table) live := by
  refine ⟨KeyTable.distinct_modify sound.distinct _, ?_, ?_, ?_⟩
  · rw [Transport.releaseKey, KeyTable.length_modify]
    exact sound.size
  · intro other found lookup
    rw [Transport.releaseKey, KeyTable.get?_modify] at lookup
    split at lookup
    · obtain ⟨entry, held, rfl⟩ := Option.map_eq_some_iff.mp lookup
      obtain ⟨inFlight, tokens, lastRefill, lastSeen⟩ := sound.entries other entry held
      exact ⟨(Nat.sub_le _ _).trans inFlight, tokens, lastRefill, lastSeen⟩
    · exact sound.entries other found lookup
  · intro other
    have counted := sound.counts other
    rw [inFlightOf] at counted
    rw [inFlightOf, Transport.releaseKey, KeyTable.get?_modify]
    by_cases same : other = key
    · subst same
      rw [List.count_cons_self] at counted
      cases held : table.get? other with
      | none => simp [held] at counted
      | some entry =>
        rw [held] at counted
        simpa using Nat.sub_eq_of_eq_add counted
    · rw [List.count_cons_of_ne (Ne.symm same)] at counted
      simpa [same] using counted

theorem perm (sound : TableSound policy maxEntries last table live) {others : List κ}
    (same : live.Perm others) : TableSound policy maxEntries last table others :=
  ⟨sound.distinct, sound.size, sound.entries,
    fun key => (sound.counts key).trans (same.count_eq key)⟩

theorem admitOptional {key : Option κ} (sound : TableSound policy maxEntries now table live)
    (admits : Transport.admitOptional policy maxEntries now key table = some after) :
    TableSound policy maxEntries now after (key.toList ++ live) := by
  cases key with
  | none =>
    cases admits
    exact sound
  | some key => exact sound.admitKey admits

theorem releaseOptional {key : Option κ}
    (sound : TableSound policy maxEntries now table (key.toList ++ live)) :
    TableSound policy maxEntries now (Transport.releaseOptional key table) live := by
  cases key with
  | none => exact sound
  | some key => exact sound.releaseKey

end TableSound

omit [DecidableEq κ] in
/-- The keys of the live permits with one permit more. -/
theorem filterMap_cons_toList {π : Type} (keyOf : π → Option κ) (request : π) (live : List π) :
    (request :: live).filterMap keyOf = (keyOf request).toList ++ live.filterMap keyOf := by
  cases named : keyOf request with
  | none => simp [named]
  | some key => simp [named]

end Dimension

/-! ## Acquisitions and drops -/

/-- `List.perm_cons_erase` at the equality that `PermitStep` erases with. -/
theorem perm_drop {π : Type} [DecidableEq π] {request : π} {live : List π}
    (held : request ∈ live) : live.Perm (request :: live.erase request) :=
  List.perm_cons_erase held

section Settle

variable {σ : Type} {state observed after : σ} {admitted : Option σ}

theorem settle_eq_true :
    settle last now state observed admitted = (true, after) ↔
      last ≤ now ∧ admitted = some after := by
  unfold settle
  split
  case isTrue older => simp [Nat.not_le.mpr older]
  case isFalse newer => cases admitted <;> simp [Nat.not_lt.mp newer]

theorem settle_eq_false :
    settle last now state observed admitted = (false, after) ↔
      now < last ∧ state = after ∨ last ≤ now ∧ admitted = none ∧ observed = after := by
  unfold settle
  split
  case isTrue older => simp [older, Nat.not_le.mpr older]
  case isFalse newer => cases admitted <;> simp [newer, Nat.not_lt.mp newer]

end Settle

/-! ## Admission by source -/

/-- The direct source that a permit names. -/
def sourceOf (request : Option IpAddr) : Option IpAddr := request.map canonicalSourceIp

/-- The counters are the live permits. -/
structure SourceSound (config : SourceTransportAdmissionConfig) (state : SourceAdmissionState)
    (live : List (Option IpAddr)) : Prop where
  global : EntrySound config.global state.lastObservedNow state.global
  total : state.global.inFlight = live.length
  sources : TableSound config.source config.maxSourceEntries state.lastObservedNow state.sources
    (live.filterMap sourceOf)

namespace SourceSound

variable {config : SourceTransportAdmissionConfig} {state after : SourceAdmissionState}
variable {live : List (Option IpAddr)} {request : Option IpAddr}

theorem start : SourceSound config (.new config) [] :=
  ⟨⟨Nat.zero_le _, Nat.le_refl _, Nat.le_refl _, Nat.le_refl _⟩, rfl, .empty⟩

theorem observe (sound : SourceSound config state live) (newer : state.lastObservedNow ≤ now) :
    SourceSound config (state.observe config now) live := by
  unfold SourceAdmissionState.observe SourceAdmissionState.cleanupIfDue
  split
  · exact ⟨sound.global.mono newer, sound.total, sound.sources.later newer⟩
  · exact ⟨sound.global.mono newer, sound.total, (sound.sources.later newer).evictIdle now _⟩

theorem survives_observe (sound : SourceSound config state live) :
    (state.observe config now).global = state.global ∧
      Survives state.sources (state.observe config now).sources := by
  unfold SourceAdmissionState.observe SourceAdmissionState.cleanupIfDue
  split
  · exact ⟨rfl, .refl _⟩
  · exact ⟨rfl, survives_evictIdle sound.sources.distinct now _⟩

theorem lastObservedNow_observe (state : SourceAdmissionState) :
    (state.observe config now).lastObservedNow = now := by
  unfold SourceAdmissionState.observe SourceAdmissionState.cleanupIfDue
  split <;> rfl

theorem grant (sound : SourceSound config state live)
    (granted : (sourceTransportAdmission config).tryAcquire request now state = (true, after)) :
    SourceSound config after (request :: live) := by
  obtain ⟨newer, admits⟩ := settle_eq_true.mp granted
  obtain ⟨global, total, sources⟩ := sound.observe newer
  rw [lastObservedNow_observe] at global sources
  simp only [SourceAdmissionState.admitRequest, Option.bind_eq_bind,
    Option.bind_eq_some_iff] at admits
  obtain ⟨taken, candidate, table, admits, written⟩ := admits
  cases written
  obtain ⟨entry, counted⟩ := AdmissionEntry.sound_of_candidate global candidate
  refine ⟨?_, ?_, ?_⟩
  · rw [lastObservedNow_observe]
    exact entry
  · rw [List.length_cons, ← total]
    exact counted
  · rw [lastObservedNow_observe, filterMap_cons_toList]
    exact sources.admitOptional admits

theorem refuse (sound : SourceSound config state live)
    (refused : (sourceTransportAdmission config).tryAcquire request now state = (false, after)) :
    SourceSound config after live ∧ after.global = state.global ∧
      Survives state.sources after.sources := by
  rcases settle_eq_false.mp refused with ⟨_, rfl⟩ | ⟨newer, _, rfl⟩
  · exact ⟨sound, rfl, .refl _⟩
  · exact ⟨sound.observe newer, sound.survives_observe⟩

theorem drop (sound : SourceSound config state live) {rest : List (Option IpAddr)}
    (permits : live.Perm (request :: rest)) :
    SourceSound config ((sourceTransportAdmission config).release request state) rest := by
  obtain ⟨⟨inFlight, tokens, lastRefill, lastSeen⟩, total, sources⟩ := sound
  refine ⟨⟨(Nat.sub_le _ _).trans inFlight, tokens, lastRefill, lastSeen⟩, ?_, ?_⟩
  · rw [permits.length_eq, List.length_cons] at total
    exact Nat.sub_eq_of_eq_add total
  · apply TableSound.releaseOptional
    have named := sources.perm (permits.filterMap sourceOf)
    rw [filterMap_cons_toList] at named
    exact named

theorem of_reachable {served : Served SourceAdmissionState (Option IpAddr)}
    (run : (sourceTransportAdmission config).Reachable served) :
    SourceSound config served.state served.live := by
  refine run.invariant (fun served => SourceSound config served.state served.live) ?_ ?_
  · rintro served rfl
    exact start
  · intro served event later sound step
    cases step with
    | grants granted => exact sound.grant granted
    | refuses refused => exact (sound.refuse refused).1
    | drops held => exact sound.drop (perm_drop held)

end SourceSound

/-! ## Admission by source and identity -/

/-- The counters are the live permits. -/
structure ConnectorSound (config : ConnectorTransportAdmissionConfig) (state : AdmissionState)
    (live : List (Option IpAddr × ConnectorWorkloadIdentity)) : Prop where
  total : state.totalInFlight = live.length
  total_le : state.totalInFlight ≤ config.maxConcurrent
  sources : TableSound config.source config.maxSourceEntries state.lastObservedNow state.sources
    (live.filterMap fun request => sourceOf request.1)
  identities : TableSound config.identity config.maxIdentityEntries state.lastObservedNow
    state.identities (live.map Prod.snd)

namespace ConnectorSound

variable {config : ConnectorTransportAdmissionConfig} {state after : AdmissionState}
variable {live : List (Option IpAddr × ConnectorWorkloadIdentity)}
variable {request : Option IpAddr × ConnectorWorkloadIdentity}

theorem start : ConnectorSound config (.new config.idleEntryTtl) [] :=
  ⟨rfl, Nat.zero_le _, .empty, .empty⟩

theorem observe (sound : ConnectorSound config state live) (newer : state.lastObservedNow ≤ now) :
    ConnectorSound config (state.observe config now) live := by
  unfold AdmissionState.observe AdmissionState.cleanupIfDue
  split
  · exact ⟨sound.total, sound.total_le, sound.sources.later newer, sound.identities.later newer⟩
  · exact ⟨sound.total, sound.total_le, (sound.sources.later newer).evictIdle now _,
      (sound.identities.later newer).evictIdle now _⟩

theorem survives_observe (sound : ConnectorSound config state live) :
    (state.observe config now).totalInFlight = state.totalInFlight ∧
      Survives state.sources (state.observe config now).sources ∧
      Survives state.identities (state.observe config now).identities := by
  unfold AdmissionState.observe AdmissionState.cleanupIfDue
  split
  · exact ⟨rfl, .refl _, .refl _⟩
  · exact ⟨rfl, survives_evictIdle sound.sources.distinct now _,
      survives_evictIdle sound.identities.distinct now _⟩

theorem lastObservedNow_observe (state : AdmissionState) :
    (state.observe config now).lastObservedNow = now := by
  unfold AdmissionState.observe AdmissionState.cleanupIfDue
  split <;> rfl

theorem grant (sound : ConnectorSound config state live)
    (granted : (connectorTransportAdmission config).tryAcquire request now state =
      (true, after)) : ConnectorSound config after (request :: live) := by
  obtain ⟨newer, admits⟩ := settle_eq_true.mp granted
  obtain ⟨total, _, sources, identities⟩ := sound.observe newer
  rw [lastObservedNow_observe] at sources identities
  unfold AdmissionState.admitRequest at admits
  split at admits
  case isTrue => cases admits
  case isFalse below =>
    simp only [Option.bind_eq_bind, Option.bind_eq_some_iff] at admits
    obtain ⟨table, admits, others, admitsIdentity, written⟩ := admits
    cases written
    refine ⟨?_, Nat.not_le.mp below, ?_, ?_⟩
    · rw [List.length_cons, ← total]
    · rw [lastObservedNow_observe, filterMap_cons_toList]
      exact sources.admitOptional admits
    · rw [lastObservedNow_observe]
      exact identities.admitKey admitsIdentity

theorem refuse (sound : ConnectorSound config state live)
    (refused : (connectorTransportAdmission config).tryAcquire request now state =
      (false, after)) :
    ConnectorSound config after live ∧ after.totalInFlight = state.totalInFlight ∧
      Survives state.sources after.sources ∧ Survives state.identities after.identities := by
  rcases settle_eq_false.mp refused with ⟨_, rfl⟩ | ⟨newer, _, rfl⟩
  · exact ⟨sound, rfl, .refl _, .refl _⟩
  · exact ⟨sound.observe newer, sound.survives_observe⟩

theorem drop (sound : ConnectorSound config state live)
    {rest : List (Option IpAddr × ConnectorWorkloadIdentity)}
    (permits : live.Perm (request :: rest)) :
    ConnectorSound config ((connectorTransportAdmission config).release request state) rest := by
  refine ⟨?_, (Nat.sub_le _ _).trans sound.total_le, ?_, ?_⟩
  · have total := sound.total
    rw [permits.length_eq, List.length_cons] at total
    exact Nat.sub_eq_of_eq_add total
  · apply TableSound.releaseOptional
    have named := sound.sources.perm (permits.filterMap _)
    rw [filterMap_cons_toList] at named
    exact named
  · exact (sound.identities.perm (permits.map Prod.snd)).releaseKey

theorem of_reachable
    {served : Served AdmissionState (Option IpAddr × ConnectorWorkloadIdentity)}
    (run : (connectorTransportAdmission config).Reachable served) :
    ConnectorSound config served.state served.live := by
  refine run.invariant (fun served => ConnectorSound config served.state served.live) ?_ ?_
  · rintro served rfl
    exact start
  · intro served event later sound step
    cases step with
    | grants granted => exact sound.grant granted
    | refuses refused => exact (sound.refuse refused).1
    | drops held => exact sound.drop (perm_drop held)

end ConnectorSound

/-! ## Both guards -/

/-- The number of live permits that name a source. -/
def livePermits {π : Type} (sourceOf : π → Option IpAddr) (live : List π) (source : IpAddr) : Nat :=
  live.countP fun request => sourceOf request = some (canonicalSourceIp source)

theorem count_sources {π : Type} (keyOf : π → Option IpAddr) (live : List π) (source : IpAddr) :
    (live.filterMap keyOf).count (canonicalSourceIp source) = livePermits keyOf live source := by
  rw [List.count_filterMap, livePermits]
  congr 1
  funext request
  rw [Bool.eq_iff_iff]
  simp

/-- For both guards and every run: the counts are the numbers of live permits, no count,
table or bucket exceeds its limit, and what is refused leaves them as they were. -/
theorem permits_counted :
    (∀ (config : SourceTransportAdmissionConfig)
        (served : Served SourceAdmissionState (Option IpAddr)),
      (sourceTransportAdmission config).Reachable served →
      served.state.global.inFlight = served.live.length ∧
      (∀ source, inFlightOf served.state.sources (canonicalSourceIp source) =
        livePermits sourceOf served.live source) ∧
      EntrySound config.global served.state.lastObservedNow served.state.global ∧
      (∀ key entry, served.state.sources.get? key = some entry →
        EntrySound config.source served.state.lastObservedNow entry) ∧
      served.state.sources.length ≤ config.maxSourceEntries ∧
      ∀ request now after,
        (sourceTransportAdmission config).tryAcquire request now served.state = (false, after) →
        after.global = served.state.global ∧ Survives served.state.sources after.sources) ∧
    (∀ (config : ConnectorTransportAdmissionConfig)
        (served : Served AdmissionState (Option IpAddr × ConnectorWorkloadIdentity)),
      (connectorTransportAdmission config).Reachable served →
      served.state.totalInFlight = served.live.length ∧
      served.state.totalInFlight ≤ config.maxConcurrent ∧
      (∀ source, inFlightOf served.state.sources (canonicalSourceIp source) =
        livePermits (fun request => sourceOf request.1) served.live source) ∧
      (∀ identity, inFlightOf served.state.identities identity =
        (served.live.map Prod.snd).count identity) ∧
      (∀ key entry, served.state.sources.get? key = some entry →
        EntrySound config.source served.state.lastObservedNow entry) ∧
      (∀ key entry, served.state.identities.get? key = some entry →
        EntrySound config.identity served.state.lastObservedNow entry) ∧
      served.state.sources.length ≤ config.maxSourceEntries ∧
      served.state.identities.length ≤ config.maxIdentityEntries ∧
      ∀ request now after,
        (connectorTransportAdmission config).tryAcquire request now served.state =
          (false, after) →
        after.totalInFlight = served.state.totalInFlight ∧
        Survives served.state.sources after.sources ∧
        Survives served.state.identities after.identities) := by
  constructor
  · intro config served run
    have sound := SourceSound.of_reachable run
    refine ⟨sound.total, ?_, sound.global, sound.sources.entries, sound.sources.size, ?_⟩
    · intro source
      rw [sound.sources.counts, count_sources]
    · intro request now after refused
      exact (sound.refuse refused).2
  · intro config served run
    have sound := ConnectorSound.of_reachable run
    refine ⟨sound.total, sound.total_le, ?_, sound.identities.counts, sound.sources.entries,
      sound.identities.entries, sound.sources.size, sound.identities.size, ?_⟩
    · intro source
      rw [sound.sources.counts, count_sources]
    · intro request now after refused
      exact (sound.refuse refused).2

/-! ### Refusals, drops and evictions -/

/-- The state that an event leads to; only a live permit can be dropped. -/
def Admission.apply {σ π : Type} [DecidableEq π] (admission : Admission σ π)
    (served : Served σ π) : Event π → Served σ π
  | .acquire request now =>
      match admission.tryAcquire request now served.state with
      | (true, after) => ⟨after, request :: served.live, (request, now) :: served.grants⟩
      | (false, after) => ⟨after, served.live, served.grants⟩
  | .drop request =>
      if request ∈ served.live then
        ⟨admission.release request served.state, served.live.erase request, served.grants⟩
      else served

/-- The state that some events lead to. -/
def Admission.served {σ π : Type} [DecidableEq π] (admission : Admission σ π)
    (events : List (Event π)) : Served σ π :=
  events.foldl admission.apply ⟨admission.start, [], []⟩

theorem Admission.reachable_served {σ π : Type} [DecidableEq π] (admission : Admission σ π)
    (events : List (Event π)) : admission.Reachable (admission.served events) := by
  induction events using List.reverseRecOn with
  | nil => exact .initial rfl
  | append_singleton events event ih =>
    rw [served, List.foldl_concat, ← served]
    generalize admission.served events = served at ih
    cases event with
    | acquire request now =>
      simp only [Admission.apply]
      split
      case h_1 after granted => exact .next _ ih (.grants granted)
      case h_2 after refused => exact .next _ ih (.refuses refused)
    | drop request =>
      simp only [Admission.apply]
      split
      case isTrue held => exact .next _ ih (.drops held)
      case isFalse => exact ih

/-- Two tokens that come back one in a second. -/
def secondDimension : DimensionConfig := ⟨2, 2, 1000000000, by decide, by decide⟩

/-- An idle time of one second, which the constructor accepts. -/
def hastyConfig : SourceTransportAdmissionConfig :=
  ⟨⟨8, 8, 1000000000, by decide, by decide⟩, secondDimension, 1000000000, 8, by decide, by decide,
    by decide, by decide⟩

def helloConfig : ConnectorTransportAdmissionConfig :=
  ⟨8, secondDimension, secondDimension, 2000000000, 8, 8, by decide, by decide, by decide,
    by decide⟩

def sampleSource : Option IpAddr := some (.v4 3221225985)

def sampleHello : Option IpAddr × ConnectorWorkloadIdentity :=
  (sampleSource, ⟨.tagged 1, .tagged 2⟩)

/-- Two grants, a refusal, both drops, and a grant for another key that forgets the first. -/
def countedEvents {π : Type} (request other : π) : List (Event π) :=
  [.acquire request 0, .acquire request 0, .acquire request 0, .drop request, .drop request,
    .acquire other 2000000000]

theorem countedEvents_counted :
    let served := (sourceTransportAdmission hastyConfig).served
      (countedEvents sampleSource (some (.v4 1)))
    let greeted := (connectorTransportAdmission helloConfig).served
      (countedEvents sampleHello (some (.v4 1), ⟨.tagged 1, .tagged 3⟩))
    (served.grants.length = 3 ∧ served.live = [some (.v4 1)] ∧
        served.state.sources.get? (.v4 3221225985) = none ∧ served.state.global.inFlight = 1) ∧
      greeted.grants.length = 3 ∧ greeted.state.identities.get? sampleHello.2 = none ∧
        greeted.state.totalInFlight = greeted.live.length ∧ greeted.state.totalInFlight ≤ 8 := by
  obtain ⟨sources, greeters⟩ := permits_counted
  obtain ⟨total, -⟩ := sources hastyConfig _
    ((sourceTransportAdmission hastyConfig).reachable_served
      (countedEvents sampleSource (some (.v4 1))))
  obtain ⟨count, most, -⟩ := greeters helloConfig _
    ((connectorTransportAdmission helloConfig).reachable_served
      (countedEvents sampleHello (some (.v4 1), ⟨.tagged 1, .tagged 3⟩)))
  exact ⟨⟨by decide +kernel, by decide +kernel, by decide +kernel, total⟩, by decide +kernel,
    by decide +kernel, count, most⟩

end Dirextalk.Transport
