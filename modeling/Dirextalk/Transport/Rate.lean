import Dirextalk.Transport.Counts

/-!
# Grants in a window of time

A token bucket grants at most its burst and one more for every interval of the window, as
long as no bucket is forgotten before it is full again.  The constructors compare the idle
time of an entry with one interval only, so a forgotten bucket may come back with tokens
that it had not earned.
-/

namespace Dirextalk.Transport

open Lib

variable {policy : DimensionConfig} {now last : Nat}

/-! ## One bucket -/

/-- The number of times from some start on. -/
def countSince (times : List Nat) (start : Nat) : Nat := times.countP (start ≤ ·)

/-- The number of times in a window, both ends included. -/
def countWithin (times : List Nat) (start stop : Nat) : Nat :=
  times.countP fun time => start ≤ time ∧ time ≤ stop

/-- What a bucket may still grant, after its grants since some start. -/
def Covers (policy : DimensionConfig) (granted start last : Nat) : Option AdmissionEntry → Prop
  | some entry => ∀ later, last ≤ later →
      granted + (entry.tokens + (later - entry.lastRefill) / policy.refillInterval) ≤
        policy.burst + (later - start) / policy.refillInterval
  | none => ∀ later, last ≤ later → granted ≤ (later - start) / policy.refillInterval

/-- The times at which a bucket has granted, none of them after the last observed one. -/
structure Metered (policy : DimensionConfig) (last : Nat) (entry : Option AdmissionEntry)
    (times : List Nat) : Prop where
  observed : ∀ time ∈ times, time ≤ last
  covered : ∀ start, 0 < countSince times start →
    Covers policy (countSince times start) start last entry
  window : ∀ start stop,
    countWithin times start stop ≤ policy.burst + (stop - start) / policy.refillInterval

namespace Metered

variable {current : Option AdmissionEntry} {entry taken : AdmissionEntry} {times : List Nat}

theorem empty : Metered policy last none [] :=
  ⟨fun _ listed => (nomatch listed), fun _ some => (nomatch some), fun _ _ => Nat.zero_le _⟩

theorem later (metered : Metered policy last current times) (after : last ≤ now) :
    Metered policy now current times := by
  refine ⟨fun time listed => (metered.observed time listed).trans after, ?_, metered.window⟩
  intro start some
  have covers := metered.covered start some
  cases current with
  | none => exact fun later newer => covers later (after.trans newer)
  | some entry => exact fun later newer => covers later (after.trans newer)

/-- A permit that is dropped changes no bucket. -/
theorem release (metered : Metered policy last (some entry) times) (inFlight : Nat) :
    Metered policy last (some { entry with inFlight }) times :=
  ⟨metered.observed, metered.covered, metered.window⟩

/-- An entry that was idle for as long as its bucket takes to fill is forgotten full. -/
theorem evict (metered : Metered policy last (some entry) times)
    (sound : EntrySound policy last entry) (newer : last ≤ now)
    (idle : policy.burst * policy.refillInterval ≤ now - entry.lastSeen) :
    Metered policy now none times := by
  refine ⟨(metered.later newer).observed, ?_, metered.window⟩
  intro start some later after
  have covers := metered.covered start some later (newer.trans after)
  have full : policy.burst ≤ (later - entry.lastRefill) / policy.refillInterval := by
    rw [Nat.le_div_iff_mul_le policy.refillInterval_pos]
    have seen := sound.lastRefill
    omega
  omega

theorem countSince_cons (time start : Nat) (times : List Nat) :
    countSince (time :: times) start =
      countSince times start + if start ≤ time then 1 else 0 := by
  simp [countSince, List.countP_cons]

theorem countSince_eq_zero (observed : ∀ time ∈ times, time ≤ last) {start : Nat}
    (future : last < start) : countSince times start = 0 := by
  apply List.countP_eq_zero.mpr
  intro time listed
  have before := observed time listed
  simp only [decide_eq_true_eq]
  omega

/-- With a first grant in the window, less than one interval was carried over into it. -/
theorem covers_first {refilled : AdmissionEntry} {start : Nat} (from_start : start ≤ now)
    (refills : Refilled policy now entry refilled) (token : 0 < refilled.tokens) :
    Covers policy 1 start now (some (refilled.taken policy now)) := by
  intro later after
  simp only [AdmissionEntry.taken]
  split
  case isTrue full =>
    have longer : (later - now) / policy.refillInterval ≤ (later - start) / policy.refillInterval :=
      Nat.div_le_div_right (Nat.sub_le_sub_left from_start later)
    omega
  case isFalse short =>
    have missing : refilled.tokens < policy.burst := Nat.lt_of_le_of_ne refills.tokens short
    have carried := refills.carried missing
    have longer : (later - refilled.lastRefill) / policy.refillInterval ≤
        (later - start) / policy.refillInterval + 1 := by
      rw [← Nat.add_div_right _ policy.refillInterval_pos]
      exact Nat.div_le_div_right (by omega)
    omega

theorem covers_next {refilled : AdmissionEntry} {granted start : Nat} (from_start : start ≤ now)
    (newer : last ≤ now) (covers : Covers policy granted start last current)
    (refills : Refilled policy now (current.getD (.new policy now)) refilled)
    (token : 0 < refilled.tokens) :
    Covers policy (granted + 1) start now (some (refilled.taken policy now)) := by
  intro later after
  have credit := refills.credit later after
  have shorter : (later - (refilled.taken policy now).lastRefill) / policy.refillInterval ≤
      (later - refilled.lastRefill) / policy.refillInterval := by
    apply Nat.div_le_div_right
    simp only [AdmissionEntry.taken]
    have observed := refills.lastRefill
    split <;> omega
  have spent : (refilled.taken policy now).tokens + 1 = refilled.tokens := Nat.sub_add_cancel token
  cases current with
  | some entry =>
    have covers := covers later (newer.trans after)
    simp only [Option.getD_some] at credit
    omega
  | none =>
    have covers := covers now newer
    simp only [Option.getD_none, AdmissionEntry.new] at credit
    have span : later - start = now - start + (later - now) := by omega
    have whole : (now - start) / policy.refillInterval + (later - now) / policy.refillInterval ≤
        (later - start) / policy.refillInterval := by
      rw [span]
      exact Nat.div_add_div_le_add_div
    omega

theorem grant (metered : Metered policy last current times)
    (sound : ∀ entry ∈ current, EntrySound policy last entry) (newer : last ≤ now)
    (admits : AdmissionEntry.candidate current policy now = some taken) :
    Metered policy now (some taken) (now :: times) := by
  obtain ⟨refilled, refills, candidate⟩ :=
    AdmissionEntry.candidate_spec (AdmissionEntry.sound_getD sound newer)
  rw [candidate] at admits
  split at admits
  case isTrue => cases admits
  case isFalse free =>
    cases admits
    have token : 0 < refilled.tokens := Nat.pos_of_ne_zero (not_or.mp free).2
    have observed : ∀ time ∈ now :: times, time ≤ now := by
      intro time listed
      exact (List.mem_cons.mp listed).elim (·.le) fun old => (metered.observed time old).trans newer
    have covered : ∀ start, 0 < countSince (now :: times) start →
        Covers policy (countSince (now :: times) start) start now
          (some (refilled.taken policy now)) := by
      intro start some
      rw [countSince_cons] at some ⊢
      split at some
      case isTrue from_start =>
        rw [if_pos from_start]
        rcases Nat.eq_zero_or_pos (countSince times start) with first | earlier
        · rw [first]
          exact covers_first from_start refills token
        · exact covers_next from_start newer (metered.covered start earlier) refills token
      case isFalse future =>
        rw [countSince_eq_zero metered.observed (by omega)] at some
        cases some
    refine ⟨observed, covered, ?_⟩
    intro start stop
    by_cases inside : start ≤ now ∧ now ≤ stop
    · have all : countWithin (now :: times) start stop = countSince (now :: times) start := by
        apply List.countP_congr
        intro time listed
        have before := observed time listed
        simp only [decide_eq_true_eq]
        omega
      have some : 0 < countSince (now :: times) start := by
        rw [countSince_cons, if_pos inside.1]
        exact Nat.succ_pos _
      have covers := covered start some now (Nat.le_refl _)
      have longer : (now - start) / policy.refillInterval ≤
          (stop - start) / policy.refillInterval :=
        Nat.div_le_div_right (Nat.sub_le_sub_right inside.2 start)
      rw [all]
      exact ((Nat.le_add_right _ _).trans covers).trans (Nat.add_le_add_left longer _)
    · have same : countWithin (now :: times) start stop = countWithin times start stop := by
        simp [countWithin, inside]
      rw [same]
      exact metered.window start stop

end Metered

/-! ## Keyed dimensions -/

section Dimension

variable {κ π : Type} [DecidableEq κ] {maxEntries : Nat} {live : List κ}
variable {table after : KeyTable κ AdmissionEntry} {grants : List (π × Nat)}
variable {keyOf : π → Option κ} {request : π}

/-- The times of the grants that name a key. -/
def timesOf (keyOf : π → Option κ) (grants : List (π × Nat)) (key : κ) : List Nat :=
  (grants.filter fun grant => keyOf grant.1 = some key).map Prod.snd

theorem timesOf_cons (key : κ) :
    timesOf keyOf ((request, now) :: grants) key =
      if keyOf request = some key then now :: timesOf keyOf grants key
      else timesOf keyOf grants key := by
  by_cases named : keyOf request = some key <;> simp [timesOf, named]

/-- Every bucket of a dimension is metered. -/
def TableMetered (policy : DimensionConfig) (last : Nat) (table : KeyTable κ AdmissionEntry)
    (keyOf : π → Option κ) (grants : List (π × Nat)) : Prop :=
  ∀ key, Metered policy last (table.get? key) (timesOf keyOf grants key)

namespace TableMetered

theorem later (metered : TableMetered policy last table keyOf grants) (newer : last ≤ now) :
    TableMetered policy now table keyOf grants :=
  fun key => (metered key).later newer

theorem evictIdle (metered : TableMetered policy last table keyOf grants)
    (sound : TableSound policy maxEntries last table live) (newer : last ≤ now) {ttl : Nat}
    (fills : policy.burst * policy.refillInterval ≤ ttl) :
    TableMetered policy now (Transport.evictIdle now ttl table) keyOf grants := by
  intro key
  have metered := metered key
  rw [Transport.evictIdle, KeyTable.get?_retain sound.distinct]
  cases found : table.get? key with
  | none =>
    rw [found] at metered
    exact metered.later newer
  | some entry =>
    rw [found] at metered
    cases expired : entry.isExpired now ttl with
    | false =>
      simp only [Option.filter, expired, Bool.not_false, if_true]
      exact metered.later newer
    | true =>
      simp only [Option.filter, expired, Bool.not_true, Bool.false_eq_true, if_false]
      simp only [AdmissionEntry.isExpired, Bool.and_eq_true, decide_eq_true_eq] at expired
      exact metered.evict (sound.entries key entry found) newer (fills.trans expired.2)

theorem admitted (metered : TableMetered policy now table keyOf grants)
    (sound : TableSound policy maxEntries now table live)
    (admits : admitOptional policy maxEntries now (keyOf request) table = some after) :
    TableMetered policy now after keyOf ((request, now) :: grants) := by
  intro key
  rw [timesOf_cons]
  cases named : keyOf request with
  | none =>
    rw [named] at admits
    cases admits
    exact metered key
  | some granted =>
    rw [named] at admits
    unfold admitOptional admitKey at admits
    simp only at admits
    split at admits
    case isTrue => cases admits
    case isFalse =>
      rw [Option.bind_eq_bind, Option.bind_eq_some_iff] at admits
      obtain ⟨taken, candidate, inserted⟩ := admits
      cases inserted
      rw [KeyTable.get?_insert]
      by_cases same : key = granted
      · subst same
        rw [if_pos rfl, if_pos rfl]
        exact (metered key).grant (sound.entries key) (Nat.le_refl now) candidate
      · rw [if_neg same, if_neg fun other => same (Option.some.inj other).symm]
        exact metered key

theorem release (metered : TableMetered policy last table keyOf grants) (dropped : Option κ) :
    TableMetered policy last (releaseOptional dropped table) keyOf grants := by
  cases dropped with
  | none => exact metered
  | some dropped =>
    intro key
    have metered := metered key
    rw [releaseOptional, releaseKey, KeyTable.get?_modify]
    split
    · cases found : table.get? key with
      | none =>
        rw [found] at metered
        exact metered
      | some entry =>
        rw [found] at metered
        exact metered.release _
    · exact metered

end TableMetered

end Dimension

/-! ## Both guards -/

theorem source_metered {config : SourceTransportAdmissionConfig}
    (fills : config.source.burst * config.source.refillInterval ≤ config.idleEntryTtl)
    {served : Served SourceAdmissionState (Option IpAddr)}
    (run : (sourceTransportAdmission config).Reachable served) :
    TableMetered config.source served.state.lastObservedNow served.state.sources sourceOf
      served.grants := by
  have both := run.invariant (fun served => SourceSound config served.state served.live ∧
    TableMetered config.source served.state.lastObservedNow served.state.sources sourceOf
      served.grants) ?_ ?_
  · exact both.2
  · rintro served rfl
    exact ⟨.start, fun _ => .empty⟩
  · intro served event after ⟨sound, metered⟩ step
    have observes {now : Nat} (newer : served.state.lastObservedNow ≤ now) :
        TableMetered config.source now (served.state.observe config now).sources sourceOf
          served.grants := by
      unfold SourceAdmissionState.observe SourceAdmissionState.cleanupIfDue
      split
      · exact metered.later newer
      · exact metered.evictIdle sound.sources newer fills
    cases step with
    | @grants request now after granted =>
      refine ⟨sound.grant granted, ?_⟩
      obtain ⟨newer, admits⟩ := settle_eq_true.mp granted
      have observed := (sound.observe newer).sources
      simp only [SourceAdmissionState.admitRequest, Option.bind_eq_bind,
        Option.bind_eq_some_iff] at admits
      obtain ⟨_, _, table, admits, written⟩ := admits
      cases written
      rw [SourceSound.lastObservedNow_observe] at observed ⊢
      exact (observes newer).admitted observed admits
    | @refuses request now after refused =>
      refine ⟨(sound.refuse refused).1, ?_⟩
      rcases settle_eq_false.mp refused with ⟨_, rfl⟩ | ⟨newer, _, rfl⟩
      · exact metered
      · rw [SourceSound.lastObservedNow_observe]
        exact observes newer
    | drops held => exact ⟨sound.drop (perm_drop held), metered.release _⟩

/-- The buckets of a dimension are metered if they are not forgotten before they are full. -/
def ConnectorMetered (config : ConnectorTransportAdmissionConfig) (state : AdmissionState)
    (grants : List ((Option IpAddr × ConnectorWorkloadIdentity) × Nat)) : Prop :=
  (config.source.burst * config.source.refillInterval ≤ config.idleEntryTtl →
    TableMetered config.source state.lastObservedNow state.sources
      (fun request => sourceOf request.1) grants) ∧
  (config.identity.burst * config.identity.refillInterval ≤ config.idleEntryTtl →
    TableMetered config.identity state.lastObservedNow state.identities
      (fun request => some request.2) grants)

theorem connector_metered {config : ConnectorTransportAdmissionConfig}
    {served : Served AdmissionState (Option IpAddr × ConnectorWorkloadIdentity)}
    (run : (connectorTransportAdmission config).Reachable served) :
    ConnectorMetered config served.state served.grants := by
  have both := run.invariant (fun served => ConnectorSound config served.state served.live ∧
    ConnectorMetered config served.state served.grants) ?_ ?_
  · exact both.2
  · rintro served rfl
    exact ⟨.start, fun _ _ => .empty, fun _ _ => .empty⟩
  · intro served event after ⟨sound, metered⟩ step
    have observes {now : Nat} (newer : served.state.lastObservedNow ≤ now) :
        ConnectorMetered config (served.state.observe config now) served.grants := by
      unfold ConnectorMetered
      rw [ConnectorSound.lastObservedNow_observe]
      unfold AdmissionState.observe AdmissionState.cleanupIfDue
      split
      · exact ⟨fun fills => (metered.1 fills).later newer,
          fun fills => (metered.2 fills).later newer⟩
      · exact ⟨fun fills => (metered.1 fills).evictIdle sound.sources newer fills,
          fun fills => (metered.2 fills).evictIdle sound.identities newer fills⟩
    cases step with
    | @grants request now after granted =>
      refine ⟨sound.grant granted, ?_⟩
      obtain ⟨newer, admits⟩ := settle_eq_true.mp granted
      obtain ⟨_, _, sources, identities⟩ := sound.observe newer
      obtain ⟨sourcesMetered, identitiesMetered⟩ := observes newer
      unfold AdmissionState.admitRequest at admits
      split at admits
      case isTrue => cases admits
      case isFalse =>
        simp only [Option.bind_eq_bind, Option.bind_eq_some_iff] at admits
        obtain ⟨table, admits, others, admitsIdentity, written⟩ := admits
        cases written
        rw [ConnectorSound.lastObservedNow_observe] at sources identities
        rw [ConnectorSound.lastObservedNow_observe] at sourcesMetered identitiesMetered
        unfold ConnectorMetered
        rw [ConnectorSound.lastObservedNow_observe]
        exact ⟨fun fills => (sourcesMetered fills).admitted sources admits,
          fun fills => (identitiesMetered fills).admitted identities admitsIdentity⟩
    | @refuses request now after refused =>
      refine ⟨(sound.refuse refused).1, ?_⟩
      rcases settle_eq_false.mp refused with ⟨_, rfl⟩ | ⟨newer, _, rfl⟩
      · exact metered
      · exact observes newer
    | @drops request held =>
      exact ⟨sound.drop (perm_drop held), fun fills => (metered.1 fills).release _,
        fun fills => (metered.2 fills).release (some request.2)⟩

/-- In every run of both guards and for every key of a dimension whose buckets fill up within
the idle time of an entry: the grants in a window are at most the burst and one for every
whole interval. -/
theorem grants_within_window {config : SourceTransportAdmissionConfig}
    {connector : ConnectorTransportAdmissionConfig}
    {served : Served SourceAdmissionState (Option IpAddr)}
    {greeted : Served AdmissionState (Option IpAddr × ConnectorWorkloadIdentity)}
    (run : (sourceTransportAdmission config).Reachable served)
    (helloRun : (connectorTransportAdmission connector).Reachable greeted) :
    (config.source.burst * config.source.refillInterval ≤ config.idleEntryTtl →
      ∀ source start stop,
        countWithin (timesOf sourceOf served.grants source) start stop ≤
          config.source.burst + (stop - start) / config.source.refillInterval) ∧
    (connector.source.burst * connector.source.refillInterval ≤ connector.idleEntryTtl →
      ∀ source start stop,
        countWithin (timesOf (fun request => sourceOf request.1) greeted.grants source)
            start stop ≤
          connector.source.burst + (stop - start) / connector.source.refillInterval) ∧
    (connector.identity.burst * connector.identity.refillInterval ≤ connector.idleEntryTtl →
      ∀ identity start stop,
        countWithin (timesOf (fun request => some request.2) greeted.grants identity)
            start stop ≤
          connector.identity.burst + (stop - start) / connector.identity.refillInterval) := by
  obtain ⟨sources, identities⟩ := connector_metered helloRun
  refine ⟨?_, ?_, ?_⟩
  · intro fills source start stop
    exact (source_metered fills run source).window start stop
  · intro fills source start stop
    exact (sources fills source).window start stop
  · intro fills identity start stop
    exact (identities fills identity).window start stop

/-! ## A bucket that is forgotten too early -/

/-- Two grants, their ends, and the same a second later. -/
def hastyEvents : List (Event (Option IpAddr)) :=
  [.acquire sampleSource 0, .acquire sampleSource 0, .drop sampleSource, .drop sampleSource,
    .acquire sampleSource 1000000000, .acquire sampleSource 1000000000]

/-- An idle time in which the buckets fill up. -/
def patientConfig : SourceTransportAdmissionConfig :=
  { hastyConfig with
    idleEntryTtl := 2000000000
    ttl_pos := helloConfig.ttl_pos
    ttl_source := by decide }

/-- Two grants and a refusal, a grant after a refill, and one after the entry was forgotten. -/
def patientEvents {π : Type} (request : π) : List (Event π) :=
  [.acquire request 0, .acquire request 0, .acquire request 0, .drop request, .drop request,
    .acquire request 1000000000, .drop request, .acquire request 3000000000]

theorem patientConfig_within_window :
    let served := (sourceTransportAdmission patientConfig).served (patientEvents sampleSource)
    let greeted := (connectorTransportAdmission helloConfig).served (patientEvents sampleHello)
    served.grants.length = 4 ∧ greeted.grants.length = 4 ∧
      countWithin (timesOf sourceOf served.grants (.v4 3221225985)) 0 1000000000 ≤ 3 ∧
      countWithin (timesOf (fun request => sourceOf request.1) greeted.grants
        (.v4 3221225985)) 0 3000000000 ≤ 5 ∧
      countWithin (timesOf (fun request => some request.2) greeted.grants sampleHello.2)
        0 3000000000 ≤ 5 := by
  obtain ⟨sources, greeters, identities⟩ := grants_within_window
    ((sourceTransportAdmission patientConfig).reachable_served (patientEvents sampleSource))
    ((connectorTransportAdmission helloConfig).reachable_served (patientEvents sampleHello))
  exact ⟨by decide +kernel, by decide +kernel, sources (by decide) _ 0 1000000000,
    greeters (by decide) _ 0 3000000000, identities (by decide) _ 0 3000000000⟩

/-- Four grants in a second, where two and one more are allowed. -/
theorem hastyConfig_outside_window : ∃ served,
    SourceTransportAdmissionConfig.new hastyConfig.global secondDimension 1000000000 8 =
        .ok hastyConfig ∧
      (sourceTransportAdmission hastyConfig).Reachable served ∧
      secondDimension.burst + (1000000000 - 0) / secondDimension.refillInterval <
        countWithin (timesOf sourceOf served.grants (.v4 3221225985)) 0 1000000000 :=
  ⟨_, rfl, (sourceTransportAdmission hastyConfig).reachable_served hastyEvents, by decide +kernel⟩

end Dirextalk.Transport
