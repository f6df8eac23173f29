import Dirextalk.HttpCache.Fencing

/-!
# Coalescing of misses

Calls that wait keep the gate that they have cloned, while its flight is removed when the
holder ends.  A waiting call that then finds no fresh entry loads behind a gate that later
calls do not know.  Loaders of a key exclude each other as long as no call loads behind
such a gate.
-/

namespace Dirextalk.HttpCache

open Lib

variable {cache : ResponseCache} {requests : Nat → Request} {request : Request}

/-! ## Flights that stay -/

theorem CacheState.fresh_flights {state after : CacheState} {key : String} {now : Nat}
    {found : Option Produced} (looked : state.fresh key now = (found, after)) :
    after.flights = state.flights := by
  cases found with
  | none =>
    rw [fresh_eq_none looked, removeEntry]
    split <;> rfl
  | some produced => rw [(fresh_eq_some looked).2]

theorem Evicts.flights {length : Nat} {state after : CacheState}
    (evicts : Evicts cache length state after) : after.flights = state.flights := by
  induction evicts with
  | roomy | emptied => rfl
  | oldest _ _ _ _ ih =>
    rw [ih, CacheState.removeEntry]
    split <;> rfl

/-- Only the flight of the given gate is removed. -/
theorem CacheState.gateAt_removeMatchingFlight {state : CacheState} {key other : String}
    {gate found : Nat} (flight : state.gateAt other = some found) :
    (state.removeMatchingFlight key gate).gateAt other = some found ∨
      key = other ∧ gate = found := by
  unfold removeMatchingFlight
  split
  case isTrue current =>
    by_cases same : other = key
    · subst same
      exact .inr ⟨rfl, Option.some.inj (current.symm.trans flight)⟩
    · rw [gateAt_filter state fun name => decide (name ≠ key)]
      exact .inl (by simpa [same] using flight)
  case isFalse => exact .inl flight

variable {before after : CacheState} {progress next : Progress}

/-- A step of a call removes no flight but the one of the gate that it holds. -/
theorem CallStep.gateAt_kept {call now : Nat}
    (step : CallStep cache request call now before progress after next) {key : String} {gate : Nat}
    (flight : before.gateAt key = some gate) :
    after.gateAt key = some gate ∨ progress.holds = some gate ∧ next.filling = none := by
  have same {state : CacheState} (flights : state.flights = before.flights) :
      state.gateAt key = some gate := by
    rw [CacheState.gateAt, flights]
    exact flight
  cases step with
  | enters | joins | bypasses | loadsBypassing | failsBypassing | loads | fails | superseded
  | leaves => exact .inl flight
  | hits fresh | misses fresh | hitsLocked fresh | missesLocked fresh =>
    exact .inl (same (CacheState.fresh_flights fresh))
  | opens absent =>
    rw [CacheState.gateAt_openFlight absent]
    split
    case isTrue here => cases absent.symm.trans (here ▸ flight)
    case isFalse => exact .inl flight
  | finishes | uncacheable =>
    exact (CacheState.gateAt_removeMatchingFlight flight).imp id
      fun removed => ⟨congrArg some removed.2, rfl⟩
  | stores _ _ _ evicts =>
    refine (CacheState.gateAt_removeMatchingFlight ?_).imp id
      fun removed => ⟨congrArg some removed.2, rfl⟩
    exact same evicts.flights

/-! ## Loaders of one key -/

/-- A step without an invalidation and with fewer flights than the capacity. -/
structure Undisturbed (cache : ResponseCache) (requests : Nat → Request) (before : System)
    (event : Event) (after : System) : Prop where
  step : Step cache requests before event after
  unfenced : ∀ start, event ≠ .invalidatePrefix start
  below : before.cache.flights.length < cache.capacity

/-- No step leads to a loader behind a gate without a flight: a call that holds such a gate
finds a fresh entry, and no cleanup removes the flight of a call that is about to load. -/
structure KeepsFlights (requests : Nat → Request) (before : System) (event : Event) : Prop where
  attached : ∀ call now gate, event = .call call now → before.progress call = .locked gate →
    before.cache.gateAt (requests call).scopedKey = some gate ∨
      (before.cache.fresh (requests call).scopedKey now).1.isSome = true
  unshared : ∀ flight, event = .cleanup flight →
    before.cache.gateAt flight.key = some flight.gate →
      ∀ call, (before.progress call).filling ≠ some flight.gate

/-- A call that is to fill the cache holds the gate of its key's flight. -/
structure Attached (requests : Nat → Request) (system : System) : Prop where
  guarded : Guarded requests system
  current : ∀ call gate, (system.progress call).filling = some gate →
    system.cache.gateAt (requests call).scopedKey = some gate
  gated : ∀ call, system.progress call ≠ .starting none ∧ system.progress call ≠ .loading none

theorem CallStep.gated {call now : Nat}
    (step : CallStep cache request call now before progress after next)
    (below : before.flights.length < cache.capacity) :
    next ≠ .starting none ∧ next ≠ .loading none := by
  cases step with
  | bypasses _ full => exact absurd full (Nat.not_le.mpr below)
  | _ => simp

/-- A call that comes to fill the cache has found no fresh entry behind its gate. -/
theorem CallStep.fresh_of_filling {call now gate : Nat}
    (step : CallStep cache request call now before progress after next)
    (locked : progress = .locked gate) (fills : next.filling = some gate) :
    (before.fresh request.scopedKey now).1 = none := by
  cases step with
  | missesLocked fresh => rw [fresh]
  | loads | leaves => cases locked
  | _ => cases fills

theorem Attached.initial : Attached requests .initial :=
  ⟨.initial, fun _ _ fills => (nomatch fills), fun _ => by simp [System.initial]⟩

theorem Attached.move {before after : System} {call : Nat} {next : Progress}
    (attached : Attached requests before) (guarded : Guarded requests after)
    (progress : after.progress = Function.update before.progress call next)
    (mine : ∀ gate, next.filling = some gate →
      after.cache.gateAt (requests call).scopedKey = some gate)
    (others : ∀ other, other ≠ call → ∀ gate, (before.progress other).filling = some gate →
      after.cache.gateAt (requests other).scopedKey = some gate)
    (gated : next ≠ .starting none ∧ next ≠ .loading none) : Attached requests after := by
  refine ⟨guarded, ?_, ?_⟩
  · intro other gate fills
    rw [progress, Function.update_apply] at fills
    split at fills
    case isTrue here =>
      rw [here]
      exact mine gate fills
    case isFalse away => exact others other away gate fills
  · intro other
    rw [progress, Function.update_apply]
    split
    · exact gated
    · exact attached.gated other

theorem Attached.step {before after : System} {event : Event}
    (attached : Attached requests before) (taken : Undisturbed cache requests before event after)
    (keeps : KeepsFlights requests before event) : Attached requests after := by
  have guarded := attached.guarded.step taken.step
  have others (call other : Nat) (_ : other ≠ call) := attached.current other
  cases taken.step with
  | @call call now _ next step =>
    refine attached.move guarded rfl ?_ ?_ (step.gated taken.below)
    · intro gate fills
      have flight : before.cache.gateAt (requests call).scopedKey = some gate := by
        apply (step.acts.filling gate fills).elim
        · intro ⟨kept, _⟩
          exact attached.current call gate kept
        · intro ⟨locked, _⟩
          have missed := step.fresh_of_filling locked fills
          apply (keeps.attached call now gate rfl locked).elim id
          intro hit
          simp [missed] at hit
      apply (step.gateAt_kept flight).elim id
      intro ⟨_, settled⟩
      cases settled.symm.trans fills
    · intro other away gate fills
      apply (step.gateAt_kept (attached.current other gate fills)).elim id
      intro ⟨held, _⟩
      have locked := Progress.holds_of_filling fills
      exact absurd (attached.guarded.exclusive other call gate locked held) away
  | @locks call =>
    exact attached.move guarded rfl (fun _ fills => (nomatch fills)) (others call) (by simp)
  | @startsLoader call _ gate starting =>
    refine attached.move guarded rfl ?_ (others call) ?_
    · intro found fills
      apply attached.current call found
      rw [starting]
      exact fills
    · have gated := (attached.gated call).1
      rw [starting] at gated
      exact ⟨Progress.noConfusion, by simpa using gated⟩
  | @cancel call =>
    exact attached.move guarded rfl (fun _ fills => (nomatch fills)) (others call) (by simp)
  | @cleanup flight =>
    refine ⟨guarded, ?_, attached.gated⟩
    intro call gate fills
    have current := attached.current call gate fills
    apply (CacheState.gateAt_removeMatchingFlight current).elim id
    rintro ⟨key, rfl⟩
    exact absurd fills (keeps.unshared flight rfl (key ▸ current) call)
  | @invalidatePrefix start => exact absurd rfl (taken.unfenced start)

/-- In a run without invalidations and with fewer flights than the capacity, in which every
step keeps the flights, at most one loader of a key runs at any time. -/
theorem one_loader_of_keepsFlights {system : System}
    (run : Reached (· = .initial) (fun before event after =>
      Undisturbed cache requests before event after ∧ KeepsFlights requests before event) system) :
    ∀ call other, (system.progress call).isLoading = true →
      (system.progress other).isLoading = true →
      (requests call).scopedKey = (requests other).scopedKey → call = other := by
  have attached := run.invariant (Attached requests)
    (fun _ start => start ▸ .initial) fun _ _ _ attached taken => attached.step taken.1 taken.2
  have gate {call : Nat} (loading : (system.progress call).isLoading = true) :
      ∃ gate, (system.progress call).filling = some gate := by
    have gated := (attached.gated call).2
    cases progress : system.progress call with
    | loading gate =>
      cases gate with
      | none => exact absurd progress gated
      | some gate => exact ⟨gate, rfl⟩
    | _ => simp [progress, Progress.isLoading] at loading
  intro call other first second same
  obtain ⟨mine, fills⟩ := gate first
  obtain ⟨theirs, otherFills⟩ := gate second
  have flight := attached.current call mine fills
  rw [same, attached.current other theirs otherFills] at flight
  cases flight
  exact attached.guarded.exclusive call other mine (Progress.holds_of_filling fills)
    (Progress.holds_of_filling otherFills)

/-! ## A loader that fails while another call waits -/

/-- The first call loads, and the second waits for its gate. -/
def waitingSystem : System where
  cache := { CacheState.empty with flights := [⟨"profile\x00body", 0⟩], gates := 1 }
  progress
    | 0 => .loading (some 0)
    | 1 => .waiting 0
    | _ => .idle
  cleanups := []
  started := [0]

/-- Runs of the sample in which every step keeps the flights. -/
abbrev SampleRun : System → Prop :=
  Reached (· = .initial) (fun before event after =>
    Undisturbed sampleCache sampleRequests before event after ∧
      KeepsFlights sampleRequests before event)

theorem SampleRun.call {before after : System} (run : SampleRun before) (call : Nat)
    (step : Step sampleCache sampleRequests before (.call call 0) after)
    (below : before.cache.flights.length < 4)
    (attached : ∀ gate, before.progress call = .locked gate →
      before.cache.gateAt (sampleRequests call).scopedKey = some gate) : SampleRun after := by
  refine run.next (.call call 0) ⟨⟨step, by simp, below⟩, ?_, by simp⟩
  rintro other now gate ⟨⟩ locked
  exact .inl (attached gate locked)

theorem waitingSystem_reached : SampleRun waitingSystem := by
  have start : SampleRun .initial := .initial rfl
  have entered := start.call 0 (.call .enters) (by decide) (by rintro _ ⟨⟩)
  have missed := entered.call 0 (.call (.misses rfl)) (by decide) (by rintro _ ⟨⟩)
  have opened := missed.call 0 (.call (.opens rfl (by decide))) (by decide) (by rintro _ ⟨⟩)
  have arrived := opened.call 1 (.call .enters) (by decide) (by rintro _ ⟨⟩)
  have missedToo := arrived.call 1 (.call (.misses rfl)) (by decide) (by rintro _ ⟨⟩)
  have joined := missedToo.call 1 (.call (.joins rfl)) (by decide) (by rintro _ ⟨⟩)
  have locked := joined.call 0 (.locks rfl (by
    rintro (_ | _ | other) <;> simp [Function.update, System.advance, System.initial,
      Progress.holds, Progress.gate])) (by decide) (by rintro _ ⟨⟩)
  have second := locked.call 0 (.call (.missesLocked rfl)) (by decide) (by rintro _ ⟨⟩; rfl)
  have started := second.call 0 (.startsLoader rfl) (by decide) (by rintro _ ⟨⟩)
  refine (congrArg SampleRun ?_).mp started
  simp only [waitingSystem, System.mk.injEq]
  refine ⟨rfl, ?_, rfl, rfl⟩
  funext call
  rcases call with _ | _ | call <;> rfl

/-- While a call waits for the gate of a loader, no other loader of the key runs. -/
theorem waitingSystem_one_loader :
    SampleRun waitingSystem ∧ ∀ other, (waitingSystem.progress other).isLoading = true →
      0 = other :=
  ⟨waitingSystem_reached, fun other loading =>
    one_loader_of_keepsFlights waitingSystem_reached 0 other rfl loading rfl⟩

/-- The loader fails and its flight goes.  A third call opens a new flight and loads, while
the second call, whose gate has become free, loads as well. -/
theorem two_loaders : ∃ system,
    Reached (· = .initial) (Undisturbed sampleCache sampleRequests) system ∧
      (system.progress 1).isLoading = true ∧ (system.progress 2).isLoading = true ∧
      (sampleRequests 1).scopedKey = (sampleRequests 2).scopedKey := by
  have next {before after : System} (call : Nat)
      (run : Reached (· = .initial) (Undisturbed sampleCache sampleRequests) before)
      (step : Step sampleCache sampleRequests before (.call call 0) after)
      (below : before.cache.flights.length < 4) :
      Reached (· = .initial) (Undisturbed sampleCache sampleRequests) after :=
    run.next (.call call 0) ⟨step, by simp, below⟩
  have waiting : Reached (· = .initial) (Undisturbed sampleCache sampleRequests) waitingSystem :=
    waitingSystem_reached.mono fun _ _ _ taken => taken.1
  have failed := next 0 waiting (.call .fails) (by decide)
  have finished := next 0 failed (.call .finishes) (by decide)
  have left := next 0 finished (.call .leaves) (by decide)
  have arrived := next 2 left (.call .enters) (by decide)
  have missed := next 2 arrived (.call (.misses rfl)) (by decide)
  have opened := next 2 missed (.call (.opens rfl (by decide))) (by decide)
  have lockedNew := next 2 opened (.locks rfl (by
    rintro (_ | _ | _ | other) <;> simp [Function.update, System.advance, waitingSystem,
      Progress.holds, Progress.gate])) (by decide)
  have second := next 2 lockedNew (.call (.missesLocked rfl)) (by decide)
  have started := next 2 second (.startsLoader rfl) (by decide)
  have lockedOld := next 1 started (.locks rfl (by
    rintro (_ | _ | _ | other)
    case succ.succ.succ => simp [Function.update, System.advance, waitingSystem, Progress.holds,
      Progress.gate]
    all_goals decide)) (by decide)
  have missedOld := next 1 lockedOld (.call (.missesLocked rfl)) (by decide)
  exact ⟨_, next 1 missedOld (.startsLoader rfl) (by decide), rfl, rfl, rfl⟩

end Dirextalk.HttpCache
