import Dirextalk.HttpCache.Model
import Mathlib.Algebra.BigOperators.Group.List.Basic

/-!
# Bounds and fences of the response cache

Whatever the interleaving, the cache keeps its books and its bounds, and an
invalidation is a fence: what a loader produced that had started before it is not
returned by a call that starts after it.  A call returns only what a loader has produced.
-/

namespace Dirextalk.HttpCache

open Lib

variable {cache : ResponseCache} {requests : Nat → Request} {request : Request}

/-! ## What a critical section can do -/

/-- No entry and no flight is new. -/
structure Shrinks (before after : CacheState) : Prop where
  entries : ∀ entry ∈ after.entries, ∃ old ∈ before.entries,
    old.key = entry.key ∧ old.produced = entry.produced
  gateAt : ∀ key gate, after.gateAt key = some gate → before.gateAt key = some gate
  gates : after.gates = before.gates

theorem Shrinks.refl (state : CacheState) : Shrinks state state :=
  ⟨fun entry stored => ⟨entry, stored, rfl, rfl⟩, fun _ _ flight => flight, rfl⟩

theorem Shrinks.trans {first second third : CacheState} (left : Shrinks first second)
    (right : Shrinks second third) : Shrinks first third := by
  refine ⟨?_, fun key gate flight => left.gateAt key gate (right.gateAt key gate flight),
    right.gates.trans left.gates⟩
  intro entry stored
  obtain ⟨middle, kept, key, produced⟩ := right.entries entry stored
  obtain ⟨old, held, oldKey, oldProduced⟩ := left.entries middle kept
  exact ⟨old, held, oldKey.trans key, oldProduced.trans produced⟩

namespace CacheState

variable {state after : CacheState} {key : String} {produced : Produced} {now : Nat}

theorem gateAt_filter (state : CacheState) (keep : String → Bool) (key : String) :
    { state with flights := state.flights.filter fun flight => keep flight.key }.gateAt key =
      if keep key then state.gateAt key else none := by
  rw [gateAt, rowAt_filter, gateAt, apply_ite (Option.map Flight.gate), Option.map_none]

theorem removeEntry_shrinks (state : CacheState) (key : String) :
    Shrinks state (state.removeEntry key) := by
  unfold removeEntry
  split
  · exact ⟨fun entry stored => ⟨entry, (List.mem_filter.mp stored).1, rfl, rfl⟩,
      fun _ _ flight => flight, rfl⟩
  · exact .refl state

theorem entryAt_removeEntry (state : CacheState) (key : String) :
    (state.removeEntry key).entryAt key = none := by
  unfold removeEntry
  split
  case h_1 =>
    rw [entryAt, rowAt_filter fun other => decide (other ≠ key)]
    simp
  case h_2 absent => exact absent

theorem fresh_eq_none (missed : state.fresh key now = (none, after)) :
    after = state.removeEntry key := by
  unfold fresh at missed
  split at missed
  · cases missed
  · exact (Prod.mk.inj missed).2.symm

theorem fresh_eq_some (hit : state.fresh key now = (some produced, after)) :
    (∃ entry ∈ state.entries, entry.key = key ∧ entry.produced = produced) ∧
      after = { state with
        clock := state.clock + 1
        entries := updateWhere (·.key = key)
          (fun entry => { entry with touched := state.clock + 1 }) state.entries } := by
  unfold fresh at hit
  split at hit
  case h_1 entry found =>
    have search := (Option.filter_eq_some_iff.mp found).1
    cases hit
    exact ⟨⟨entry, mem_of_rowAt search, key_of_rowAt search, rfl⟩, rfl⟩
  case h_2 => cases hit

theorem fresh_shrinks {found : Option Produced} (looked : state.fresh key now = (found, after)) :
    Shrinks state after := by
  cases found with
  | none =>
    rw [fresh_eq_none looked]
    exact removeEntry_shrinks state key
  | some produced =>
    rw [(fresh_eq_some looked).2]
    refine ⟨?_, fun _ _ flight => flight, rfl⟩
    intro entry stored
    obtain ⟨old, held, rfl⟩ := mem_updateWhere.mp stored
    refine ⟨old, held, ?_⟩
    split
    · exact ⟨rfl, rfl⟩
    · exact ⟨rfl, rfl⟩

theorem removeMatchingFlight_shrinks (state : CacheState) (key : String) (gate : Nat) :
    Shrinks state (state.removeMatchingFlight key gate) := by
  unfold removeMatchingFlight
  split
  · refine ⟨fun entry stored => ⟨entry, stored, rfl, rfl⟩, ?_, rfl⟩
    intro other found flight
    rw [gateAt_filter state (fun name => decide (name ≠ key))] at flight
    exact (Option.ite_none_right_eq_some.mp flight).2
  · exact .refl state

theorem removeMatchingFlight_entries (state : CacheState) (key : String) (gate : Nat) :
    (state.removeMatchingFlight key gate).entries = state.entries := by
  unfold removeMatchingFlight
  split <;> rfl

theorem invalidatePrefix_shrinks (state : CacheState) (start : String) :
    Shrinks state (state.invalidatePrefix start) := by
  refine ⟨fun entry stored => ⟨entry, (List.mem_filter.mp stored).1, rfl, rfl⟩, ?_, rfl⟩
  intro key gate flight
  have kept := (gateAt_filter state (fun name => !covers start name) key).symm.trans flight
  exact (Option.ite_none_right_eq_some.mp kept).2

end CacheState

theorem Evicts.shrinks {length : Nat} {state after : CacheState}
    (evicts : Evicts cache length state after) : Shrinks state after := by
  induction evicts with
  | roomy | emptied => exact .refl _
  | oldest _ _ _ _ ih => exact (CacheState.removeEntry_shrinks _ _).trans ih

namespace Progress

/-- The loader of a call has started, or will not start any more. -/
def past : Progress → Prop
  | .loading _ | .loaded .. | .finishing .. | .leaving .. | .returned _ | .cancelled => True
  | .idle | .entered | .missed | .waiting _ | .locked _ | .starting _ => False

/-- The value that a call is about to return. -/
def outcome : Progress → Option Produced
  | .finishing _ outcome | .leaving _ outcome | .returned outcome => outcome
  | _ => none

theorem holds_of_filling {progress : Progress} {gate : Nat} (fills : progress.filling = some gate) :
    progress.holds = some gate := by
  cases progress <;> first | exact fills | cases fills

theorem gate_of_holds {progress : Progress} {gate : Nat} (locked : progress.holds = some gate) :
    progress.gate = some gate := by
  cases progress <;> first | exact locked | cases locked

end Progress

/-- What a step of a call can do to the cache and to the call itself. -/
structure Acts (request : Request) (call : Nat) (before : CacheState) (progress : Progress)
    (after : CacheState) (next : Progress) : Prop where
  gates : before.gates ≤ after.gates
  gateAt : ∀ key gate, after.gateAt key = some gate → before.gateAt key = some gate ∨
    gate = before.gates ∧ before.gates < after.gates
  entries : ∀ entry ∈ after.entries,
    (∃ old ∈ before.entries, old.key = entry.key ∧ old.produced = entry.produced) ∨
      entry.key = request.scopedKey ∧ entry.produced.loader = call ∧
        ∃ gate, progress.filling = some gate ∧ before.gateAt request.scopedKey = some gate
  gate : ∀ gate, next.gate = some gate →
    progress.gate = some gate ∨ after.gateAt request.scopedKey = some gate ∧ ¬progress.past
  filling : ∀ gate, next.filling = some gate →
    progress.filling = some gate ∧ after = before ∨
      progress = .locked gate ∧ after.entryAt request.scopedKey = none
  past : progress.past → next.past
  outcome : ∀ produced, next.outcome = some produced → progress.outcome = some produced ∨
    produced.loader = call ∨
      ∃ entry ∈ before.entries, entry.key = request.scopedKey ∧ entry.produced = produced

variable {progress next : Progress} {call : Nat}

/-- A step that adds neither an entry nor a flight. -/
theorem Acts.of_shrinks {before after : CacheState} (shrinks : Shrinks before after)
    (gate : ∀ gate, next.gate = some gate →
      progress.gate = some gate ∨ after.gateAt request.scopedKey = some gate ∧ ¬progress.past)
    (filling : ∀ gate, next.filling = some gate →
      progress.filling = some gate ∧ after = before ∨
        progress = .locked gate ∧ after.entryAt request.scopedKey = none)
    (past : progress.past → next.past)
    (outcome : ∀ produced, next.outcome = some produced → progress.outcome = some produced ∨
      produced.loader = call ∨
        ∃ entry ∈ before.entries, entry.key = request.scopedKey ∧ entry.produced = produced) :
    Acts request call before progress after next :=
  ⟨shrinks.gates.ge, fun key gate flight => .inl (shrinks.gateAt key gate flight),
    fun entry stored => .inl (shrinks.entries entry stored), gate, filling, past, outcome⟩

namespace CacheState

variable {state : CacheState} {key : String}

theorem gateAt_openFlight (absent : state.gateAt key = none) (other : String) :
    (state.openFlight key).gateAt other =
      if other = key then some state.gates else state.gateAt other := by
  rw [gateAt, Option.map_eq_none_iff] at absent
  rw [gateAt, openFlight, rowAt_append, gateAt]
  by_cases same : other = key
  · rw [same, absent, if_pos rfl]
    simp [rowAt]
  · rw [if_neg same]
    simp [rowAt, Ne.symm same]

end CacheState

attribute [local simp] Progress.gate Progress.filling Progress.past Progress.outcome

theorem CallStep.acts {call now : Nat} {before after : CacheState}
    (step : CallStep cache request call now before progress after next) :
    Acts request call before progress after next := by
  have found {produced : Produced} {state : CacheState}
      (fresh : before.fresh request.scopedKey now = (some produced, state)) :=
    (CacheState.fresh_eq_some fresh).1
  cases step with
  | enters | bypasses | failsBypassing | loads | fails | leaves | superseded | loadsBypassing =>
    refine .of_shrinks (.refl _) ?_ ?_ ?_ ?_ <;> simp +contextual
  | finishes | uncacheable =>
    refine .of_shrinks (CacheState.removeMatchingFlight_shrinks ..) ?_ ?_ ?_ ?_ <;> simp +contextual
  | misses fresh =>
    refine .of_shrinks (CacheState.fresh_shrinks fresh) ?_ ?_ ?_ ?_ <;> simp
  | hits fresh | hitsLocked fresh =>
    refine .of_shrinks (CacheState.fresh_shrinks fresh) ?_ ?_ ?_ ?_
    case refine_4 =>
      intro produced returned
      cases returned
      exact .inr (.inr (found fresh))
    all_goals simp
  | missesLocked fresh =>
    have absent : after.entryAt request.scopedKey = none := by
      rw [CacheState.fresh_eq_none fresh, CacheState.entryAt_removeEntry]
    refine .of_shrinks (CacheState.fresh_shrinks fresh) ?_ ?_ ?_ ?_ <;> simp [absent]
  | joins flight =>
    refine .of_shrinks (.refl _) ?_ ?_ ?_ ?_ <;> simp [flight]
  | opens absent =>
    have opened := CacheState.gateAt_openFlight absent
    refine ⟨Nat.le_succ _, ?_, fun entry stored => .inl ⟨entry, stored, rfl, rfl⟩, ?_, ?_, ?_,
      ?_⟩
    case refine_1 =>
      intro key gate flight
      rw [opened] at flight
      split at flight
      · exact .inr ⟨(Option.some.inj flight).symm, Nat.lt_succ_self _⟩
      · exact .inl flight
    all_goals simp [opened]
  | @stores gate value evicted current _ _ evicts =>
    have shrinks := evicts.shrinks
    have removed := CacheState.removeMatchingFlight_shrinks (evicted.insertEntry
      ⟨request.scopedKey, ⟨value, call⟩, now + request.ttl value, before.clock + 1⟩)
      request.scopedKey gate
    refine ⟨(removed.gates.trans shrinks.gates).ge, ?_, ?_, ?_, ?_, ?_, ?_⟩
    case refine_1 =>
      intro key gate flight
      exact .inl (shrinks.gateAt key gate (removed.gateAt key gate flight))
    case refine_2 =>
      intro entry stored
      rw [CacheState.removeMatchingFlight_entries] at stored
      apply (List.mem_append.mp stored).elim
      · intro kept
        exact .inl (shrinks.entries entry (List.mem_filter.mp kept).1)
      · intro new
        rw [List.mem_singleton.mp new]
        exact .inr ⟨rfl, rfl, gate, rfl, current⟩
    all_goals simp

/-- A step of a call locks no gate. -/
theorem CallStep.holds {call now : Nat} {before after : CacheState}
    (step : CallStep cache request call now before progress after next) {gate : Nat}
    (locked : next.holds = some gate) : progress.holds = some gate := by
  cases step <;> first | exact locked | cases locked

/-! ## What a step can do -/

/-- A call moves on.  It may lock a gate that no call holds. -/
structure Moves (requests : Nat → Request) (before after : System) (call : Nat) (next : Progress) :
    Prop where
  acts : Acts (requests call) call before.cache (before.progress call) after.cache next
  progress : after.progress = Function.update before.progress call next
  started : ∀ other ∈ after.started, other ∈ before.started ∨ other = call ∧ next.past
  alone : ∀ gate, next.holds = some gate → (before.progress call).holds = some gate ∨
    ∀ other, (before.progress other).holds ≠ some gate

variable {before after : System}

theorem Step.moves {event : Event} (step : Step cache requests before event after) :
    (∃ call next, Moves requests before after call next) ∨
      Shrinks before.cache after.cache ∧ after.progress = before.progress ∧
        after.started = before.started := by
  cases step with
  | @call call _ _ next taken =>
    exact .inl ⟨call, next, taken.acts, rfl, fun _ => .inl, fun _ => .inl ∘ taken.holds⟩
  | @locks call _ gate waiting free =>
    refine .inl ⟨call, .locked gate, ?_, rfl, fun _ => .inl, ?_⟩
    · rw [waiting]
      refine .of_shrinks (.refl _) ?_ ?_ ?_ ?_ <;> simp
    · rintro other ⟨⟩
      exact .inr free
  | @startsLoader call _ gate starting =>
    refine .inl ⟨call, .loading gate, ?_, rfl, ?_, ?_⟩
    · rw [starting]
      refine .of_shrinks (.refl _) ?_ ?_ ?_ ?_ <;> simp +contextual [System.advance]
    · intro other listed
      exact (List.mem_cons.mp listed).symm.imp id fun same => ⟨same, trivial⟩
    · intro other locked
      rw [starting]
      exact .inl locked
  | @cancel call _ awaits _ =>
    refine .inl ⟨call, .cancelled, ?_, rfl, fun _ => .inl, ?_⟩
    · refine .of_shrinks (.refl _) ?_ ?_ ?_ ?_ <;> simp
    · intro other locked
      cases locked
  | cleanup => exact .inr ⟨CacheState.removeMatchingFlight_shrinks .., rfl, rfl⟩
  | invalidatePrefix => exact .inr ⟨CacheState.invalidatePrefix_shrinks .., rfl, rfl⟩

/-! ## Gates -/

/-- A gate is held by one call, and while its flight is the key's own there is no entry for
the key from the second miss of the holder on. -/
structure Guarded (requests : Nat → Request) (system : System) : Prop where
  exclusive : ∀ call other gate, (system.progress call).holds = some gate →
    (system.progress other).holds = some gate → call = other
  issued : ∀ key gate, system.cache.gateAt key = some gate → gate < system.cache.gates
  cloned : ∀ call gate, (system.progress call).gate = some gate → gate < system.cache.gates
  clear : ∀ call gate, (system.progress call).filling = some gate →
    system.cache.gateAt (requests call).scopedKey = some gate →
      ∀ entry ∈ system.cache.entries, entry.key ≠ (requests call).scopedKey
  past : ∀ call ∈ system.started, (system.progress call).past

theorem Guarded.initial : Guarded requests .initial :=
  ⟨fun _ _ _ locked => (nomatch locked), fun _ _ flight => (nomatch flight),
    fun _ _ cloned => (nomatch cloned), fun _ _ fills => (nomatch fills),
    fun _ listed => (nomatch listed)⟩

theorem Guarded.shrink (guarded : Guarded requests before)
    (shrinks : Shrinks before.cache after.cache) (progress : after.progress = before.progress)
    (started : after.started = before.started) : Guarded requests after := by
  refine ⟨?_, ?_, ?_, ?_, ?_⟩
  · rw [progress]
    exact guarded.exclusive
  · intro key gate flight
    rw [shrinks.gates]
    exact guarded.issued key gate (shrinks.gateAt key gate flight)
  · rw [progress, shrinks.gates]
    exact guarded.cloned
  · rw [progress]
    intro call gate fills flight entry stored same
    obtain ⟨old, held, key, -⟩ := shrinks.entries entry stored
    exact guarded.clear call gate fills (shrinks.gateAt _ _ flight) old held (key.trans same)
  · rw [progress, started]
    exact guarded.past

/-- The flight of a key is the one it was, or has a gate that no call knows yet. -/
theorem Moves.gateAt_of_cloned {next : Progress} (moves : Moves requests before after call next)
    (guarded : Guarded requests before) {other gate : Nat} {key : String}
    (cloned : (before.progress other).gate = some gate)
    (flight : after.cache.gateAt key = some gate) : before.cache.gateAt key = some gate := by
  apply (moves.acts.gateAt key gate flight).elim id
  intro ⟨new, _⟩
  exact absurd (guarded.cloned other gate cloned) (new ▸ Nat.lt_irrefl _)

theorem Guarded.move {next : Progress} (guarded : Guarded requests before)
    (moves : Moves requests before after call next) : Guarded requests after := by
  have acts := moves.acts
  have issued : ∀ key gate, after.cache.gateAt key = some gate → gate < after.cache.gates := by
    intro key gate flight
    apply (acts.gateAt key gate flight).elim
    · intro old
      exact (guarded.issued key gate old).trans_le acts.gates
    · rintro ⟨rfl, grown⟩
      exact grown
  have alone : ∀ gate, next.holds = some gate → ∀ other, other ≠ call →
      (before.progress other).holds ≠ some gate := by
    intro gate locked other distinct held
    apply (moves.alone gate locked).elim
    · intro mine
      exact distinct (guarded.exclusive other call gate held mine)
    · intro free
      exact free other held
  refine ⟨?_, issued, ?_, ?_, ?_⟩
  · intro one two gate first second
    rw [moves.progress, Function.update_apply] at first second
    split at first
    case isTrue here =>
      split at second
      · exact here.trans (by assumption : two = call).symm
      · exact absurd second (alone gate first two (by assumption))
    case isFalse away =>
      split at second
      · exact absurd first (alone gate second one away)
      · exact guarded.exclusive one two gate first second
  · intro other gate cloned
    rw [moves.progress, Function.update_apply] at cloned
    split at cloned
    · apply (acts.gate gate cloned).elim
      · intro kept
        exact (guarded.cloned call gate kept).trans_le acts.gates
      · intro ⟨flight, _⟩
        exact issued _ gate flight
    · exact (guarded.cloned other gate cloned).trans_le acts.gates
  · intro other gate fills flight entry stored same
    rw [moves.progress, Function.update_apply] at fills
    -- A new entry is the entry of the call that moves, which holds the flight of its key.
    have settled (before_fills : (before.progress other).filling = some gate)
        (apart : other ≠ call ∨ after.cache = before.cache) : False := by
      have held := Progress.holds_of_filling before_fills
      have flight := moves.gateAt_of_cloned guarded (Progress.gate_of_holds held) flight
      apply (acts.entries entry stored).elim
      · intro ⟨old, held, key, _⟩
        exact guarded.clear other gate before_fills flight old held (key.trans same)
      · intro ⟨key, _, own, mine, current⟩
        rw [← key, same, flight] at current
        cases current
        apply apart.elim
        · intro distinct
          exact distinct (guarded.exclusive other call gate held (Progress.holds_of_filling mine))
        · intro unchanged
          rw [unchanged] at stored
          exact guarded.clear other gate before_fills flight entry stored same
    split at fills
    case isTrue here =>
      subst here
      apply (acts.filling gate fills).elim
      · intro ⟨kept, unchanged⟩
        exact settled kept (.inr unchanged)
      · intro ⟨_, absent⟩
        exact rowAt_eq_none.mp absent (same ▸ List.mem_map_of_mem stored)
    case isFalse away => exact settled fills (.inl away)
  · intro other listed
    rw [moves.progress, Function.update_apply]
    apply (moves.started other listed).elim
    · intro known
      have past := guarded.past other known
      split
      case isTrue here => exact acts.past (here ▸ past)
      case isFalse => exact past
    · intro ⟨here, past⟩
      rw [if_pos here]
      exact past

theorem Guarded.step {before after : System} {event : Event} (guarded : Guarded requests before)
    (step : Step cache requests before event after) : Guarded requests after := by
  apply step.moves.elim
  · intro ⟨call, next, moves⟩
    exact guarded.move moves
  · intro ⟨shrinks, progress, started⟩
    exact guarded.shrink shrinks progress started

/-! ## Books and bounds -/

/-- The counter and the limits of the state behind the mutex. -/
structure Booked (cache : ResponseCache) (state : CacheState) : Prop where
  distinct : (state.entries.map CacheEntry.key).Nodup
  bytes_eq : state.bytes = (state.entries.map CacheEntry.byteLen).sum
  bytes_le : state.bytes ≤ cache.maxBytes
  entries_le : state.entries.length ≤ cache.capacity
  flights_le : state.flights.length ≤ cache.capacity

namespace Booked

variable {state after : CacheState} {key : String}

theorem empty : Booked cache .empty :=
  ⟨.nil, rfl, Nat.zero_le _, Nat.zero_le _, Nat.zero_le _⟩

theorem sum_filter (entries : List CacheEntry) (drop : CacheEntry → Bool) :
    ((entries.filter drop).map CacheEntry.byteLen).sum +
      ((entries.filter fun entry => !drop entry).map CacheEntry.byteLen).sum =
        (entries.map CacheEntry.byteLen).sum := by
  rw [← List.sum_append, ← List.map_append]
  exact ((List.filter_append_perm drop entries).map _).sum_eq

variable (booked : Booked cache state)
include booked

/-- Entries leave together with their bytes. -/
theorem remove (drop : CacheEntry → Bool) (removed : Nat)
    (removes : removed = ((state.entries.filter drop).map CacheEntry.byteLen).sum)
    {flights : List Flight} (fewer : flights.length ≤ state.flights.length) :
    Booked cache { state with
      entries := state.entries.filter fun entry => !drop entry
      flights := flights
      bytes := state.bytes - removed } := by
  have total := sum_filter state.entries drop
  refine ⟨?_, ?_, ?_, ?_, fewer.trans booked.flights_le⟩
  · exact booked.distinct.sublist (List.filter_sublist.map _)
  · rw [removes, booked.bytes_eq, ← total, Nat.add_sub_cancel_left]
  · exact (Nat.sub_le _ _).trans booked.bytes_le
  · exact (List.length_filter_le _ _).trans booked.entries_le

theorem removeEntry (key : String) :
    Booked cache (state.removeEntry key) := by
  unfold CacheState.removeEntry
  split
  case h_1 removed found =>
    have only : state.entries.filter (·.key = key) = [removed] := by
      have stored := mem_of_rowAt found
      obtain rfl := key_of_rowAt found
      apply List.perm_singleton.mp
      have distinct : (state.entries.filter (·.key = removed.key)).Nodup :=
        (booked.distinct.of_map _).filter _
      rw [List.perm_ext_iff_of_nodup distinct (List.nodup_singleton _)]
      intro entry
      rw [List.mem_filter, List.mem_singleton]
      constructor
      · intro ⟨held, same⟩
        exact List.inj_on_of_nodup_map booked.distinct held stored (of_decide_eq_true same)
      · rintro rfl
        exact ⟨stored, decide_eq_true rfl⟩
    have kept := booked.remove (fun entry => decide (entry.key = key)) removed.byteLen
      (by rw [only]; simp) (Nat.le_refl _)
    simpa using kept
  case h_2 => exact booked

theorem fresh {now : Nat} {found : Option Produced}
    (looked : state.fresh key now = (found, after)) : Booked cache after := by
  cases found with
  | none =>
    rw [CacheState.fresh_eq_none looked]
    exact booked.removeEntry key
  | some produced =>
    rw [(CacheState.fresh_eq_some looked).2]
    have kept {τ : Type} (column : CacheEntry → τ)
        (blind : ∀ entry touched, column { entry with touched } = column entry) :
        (updateWhere (·.key = key) (fun entry => { entry with touched := state.clock + 1 })
          state.entries).map column = state.entries.map column :=
      map_updateWhere (fun entry => blind entry _) _
    refine ⟨?_, ?_, booked.bytes_le, ?_, booked.flights_le⟩
    · exact (congrArg List.Nodup (kept CacheEntry.key fun _ _ => rfl)).mpr booked.distinct
    · exact booked.bytes_eq.trans
        (congrArg List.sum (kept CacheEntry.byteLen fun _ _ => rfl)).symm
    · rw [updateWhere, List.length_map]
      exact booked.entries_le

theorem removeMatchingFlight (key : String) (gate : Nat) :
    Booked cache (state.removeMatchingFlight key gate) := by
  unfold CacheState.removeMatchingFlight
  split
  · exact ⟨booked.distinct, booked.bytes_eq, booked.bytes_le, booked.entries_le,
      (List.length_filter_le _ _).trans booked.flights_le⟩
  · exact booked

theorem evict {length : Nat} (fits : length ≤ cache.maxBytes)
    (evicts : Evicts cache length state after) :
    Booked cache after ∧ after.entries.length < cache.capacity ∧
      after.bytes + length ≤ cache.maxBytes := by
  induction evicts with
  | roomy entries bytes => exact ⟨booked, entries, bytes⟩
  | @emptied state none =>
    have zero := booked.bytes_eq
    rw [none] at zero ⊢
    refine ⟨booked, cache.capacity_pos, ?_⟩
    rw [zero]
    simpa using fits
  | oldest _ _ _ _ ih => exact ih (booked.removeEntry _)

/-- An entry for a key that has none comes with its bytes. -/
theorem insertEntry {entry : CacheEntry} (absent : ∀ other ∈ state.entries, other.key ≠ entry.key)
    (room : state.entries.length < cache.capacity)
    (fits : state.bytes + entry.byteLen ≤ cache.maxBytes) :
    Booked cache (state.insertEntry entry) := by
  have kept : state.entries.filter (·.key ≠ entry.key) = state.entries := by
    apply List.filter_eq_self.mpr
    intro other stored
    exact decide_eq_true (absent other stored)
  unfold CacheState.insertEntry
  rw [kept]
  refine ⟨nodup_map_concat.mpr ⟨booked.distinct, absent⟩, ?_, fits, ?_, booked.flights_le⟩
  · rw [booked.bytes_eq]
    simp
  · rw [List.length_append]
    exact room

end Booked

theorem CallStep.booked {call now : Nat} {before after : CacheState} {progress next : Progress}
    (step : CallStep cache request call now before progress after next)
    (booked : Booked cache before)
    (clear : ∀ gate, progress.filling = some gate → before.gateAt request.scopedKey = some gate →
      ∀ entry ∈ before.entries, entry.key ≠ request.scopedKey) : Booked cache after := by
  cases step with
  | enters | joins | bypasses | loadsBypassing | failsBypassing | loads | fails | superseded
  | leaves => exact booked
  | hits fresh | misses fresh | hitsLocked fresh | missesLocked fresh => exact booked.fresh fresh
  | opens _ below =>
    refine ⟨booked.distinct, booked.bytes_eq, booked.bytes_le, booked.entries_le, ?_⟩
    rw [CacheState.openFlight, List.length_append]
    exact below
  | finishes | uncacheable => exact booked.removeMatchingFlight _ _
  | @stores gate value evicted current _ fits evicts =>
    have ticked : Booked cache { before with clock := before.clock + 1 } :=
      ⟨booked.distinct, booked.bytes_eq, booked.bytes_le, booked.entries_le, booked.flights_le⟩
    obtain ⟨evicted_booked, room, bytes⟩ := ticked.evict fits evicts
    refine Booked.removeMatchingFlight ?_ _ _
    refine evicted_booked.insertEntry ?_ room bytes
    intro entry stored
    obtain ⟨old, held, key, -⟩ := evicts.shrinks.entries entry stored
    rw [← key]
    exact clear gate rfl current old held

theorem Booked.step {before after : System} {event : Event} (booked : Booked cache before.cache)
    (guarded : Guarded requests before) (step : Step cache requests before event after) :
    Booked cache after.cache := by
  cases step with
  | call taken => exact taken.booked booked fun gate => guarded.clear _ gate
  | locks | startsLoader | cancel => exact booked
  | cleanup => exact booked.removeMatchingFlight _ _
  | invalidatePrefix => exact booked.remove _ _ rfl (List.length_filter_le _ _)

/-! ## Fences -/

/-- After an invalidation, with the calls whose loader had started by then: what they load
reaches no entry, no flight and no later call of a covered key. -/
structure Fenced (requests : Nat → Request) (start : String) (old : List Nat) (young : Nat → Prop)
    (system : System) : Prop where
  past : ∀ call ∈ old, (system.progress call).past ∧ ¬young call
  entries : ∀ entry ∈ system.cache.entries, CacheState.covers start entry.key = true →
    entry.produced.loader ∉ old
  flights : ∀ call ∈ old, CacheState.covers start (requests call).scopedKey = true →
    ∀ gate, (system.progress call).gate = some gate →
      system.cache.gateAt (requests call).scopedKey ≠ some gate
  outcomes : ∀ call, young call → CacheState.covers start (requests call).scopedKey = true →
    ∀ produced, (system.progress call).outcome = some produced → produced.loader ∉ old

/-- An invalidation leaves no covered entry and no covered flight. -/
theorem Fenced.invalidated {before : System} (guarded : Guarded requests before) (start : String) :
    Fenced requests start before.started (fun call => before.progress call = .idle)
      { before with cache := before.cache.invalidatePrefix start } := by
  refine ⟨?_, ?_, ?_, ?_⟩
  · intro call listed
    have past := guarded.past call listed
    refine ⟨past, fun idle => ?_⟩
    rw [idle] at past
    exact past
  · intro entry stored covered
    have kept := (List.mem_filter.mp stored).2
    simp [covered] at kept
  · intro call _ covered gate _ flight
    have kept := (CacheState.gateAt_filter before.cache
      (fun name => !CacheState.covers start name) _).symm.trans flight
    simp [covered] at kept
  · intro call idle _ produced returned
    rw [idle] at returned
    cases returned

theorem Fenced.step {before after : System} {event : Event} {start : String} {old : List Nat}
    {young : Nat → Prop} (fenced : Fenced requests start old young before)
    (guarded : Guarded requests before) (step : Step cache requests before event after) :
    Fenced requests start old young after := by
  apply step.moves.elim
  · intro ⟨call, next, moves⟩
    have acts := moves.acts
    refine ⟨?_, ?_, ?_, ?_⟩
    · intro other listed
      obtain ⟨past, aged⟩ := fenced.past other listed
      rw [moves.progress, Function.update_apply]
      split
      case isTrue here => exact ⟨acts.past (here ▸ past), aged⟩
      case isFalse => exact ⟨past, aged⟩
    · intro entry stored covered
      apply (acts.entries entry stored).elim
      · intro ⟨kept, held, key, produced⟩
        rw [← produced]
        exact fenced.entries kept held (key ▸ covered)
      · intro ⟨key, mine, gate, fills, flight⟩ listed
        rw [mine] at listed
        have cloned := Progress.gate_of_holds (Progress.holds_of_filling fills)
        exact fenced.flights call listed (key ▸ covered) gate cloned flight
    · intro other listed covered gate cloned flight
      rw [moves.progress, Function.update_apply] at cloned
      -- A call whose loader has started clones no further gate.
      have known : (before.progress other).gate = some gate := by
        split at cloned
        case isTrue here =>
          subst here
          exact (acts.gate gate cloned).elim id fun late => absurd (fenced.past _ listed).1 late.2
        case isFalse => exact cloned
      exact fenced.flights other listed covered gate known
        (moves.gateAt_of_cloned guarded known flight)
    · intro other fresh covered produced returned listed
      rw [moves.progress, Function.update_apply] at returned
      split at returned
      case isTrue here =>
        subst here
        rcases acts.outcome produced returned with kept | mine | ⟨entry, stored, key, rfl⟩
        · exact fenced.outcomes other fresh covered produced kept listed
        · exact (fenced.past _ (mine ▸ listed)).2 fresh
        · exact fenced.entries entry stored (key ▸ covered) listed
      case isFalse => exact fenced.outcomes other fresh covered produced returned listed
  · intro ⟨shrinks, progress, _⟩
    refine ⟨progress ▸ fenced.past, ?_, ?_, progress ▸ fenced.outcomes⟩
    · intro entry stored covered
      obtain ⟨kept, held, key, produced⟩ := shrinks.entries entry stored
      rw [← produced]
      exact fenced.entries kept held (key ▸ covered)
    · intro call listed covered gate cloned flight
      rw [progress] at cloned
      exact fenced.flights call listed covered gate cloned (shrinks.gateAt _ _ flight)

/-- `invalidate` covers what `load` and `load_optional` keep for the key. -/
theorem covers_scopedKey (request : Request) :
    CacheState.covers (request.key ++ "\x00") request.scopedKey = true := by
  cases request with
  | load key => simp [CacheState.covers, Request.key, Request.scopedKey]
  | loadOptional key => simp [CacheState.covers, Request.key, Request.scopedKey]

/-- The states that the calls of a cache reach. -/
abbrev Reachable (cache : ResponseCache) (requests : Nat → Request) : System → Prop :=
  Reached (· = .initial) (Step cache requests)

theorem Reachable.sound {system : System} (run : Reachable cache requests system) :
    Guarded requests system ∧ Booked cache system.cache := by
  refine run.invariant (fun system => Guarded requests system ∧ Booked cache system.cache) ?_ ?_
  · rintro state rfl
    exact ⟨.initial, .empty⟩
  · intro before event after ⟨guarded, booked⟩ step
    exact ⟨guarded.step step, booked.step guarded step⟩

/-- In every interleaving the books and the bounds are kept, and a call that starts after an
invalidation of its key returns nothing that was loaded from before. -/
theorem response_cache_fenced {system : System} (run : Reachable cache requests system) :
    system.cache.bytes = (system.cache.entries.map CacheEntry.byteLen).sum ∧
    system.cache.bytes ≤ cache.maxBytes ∧
    system.cache.entries.length ≤ cache.capacity ∧
    system.cache.flights.length ≤ cache.capacity ∧
    (∀ request : Request, CacheState.covers (request.key ++ "\x00") request.scopedKey = true) ∧
    ∀ start fenced later call produced,
      Step cache requests system (.invalidatePrefix start) fenced →
      ReachedFrom fenced (Step cache requests) later →
      fenced.progress call = .idle →
      CacheState.covers start (requests call).scopedKey = true →
      later.progress call = .returned (some produced) →
      produced.loader ∉ fenced.started := by
  obtain ⟨guarded, booked⟩ := run.sound
  refine ⟨booked.bytes_eq, booked.bytes_le, booked.entries_le, booked.flights_le,
    covers_scopedKey, ?_⟩
  intro start fenced later call produced invalidates further idle covered returned
  have kept : Guarded requests later ∧
      Fenced requests start fenced.started (fun call => fenced.progress call = .idle) later := by
    refine further.invariant (fun later => Guarded requests later ∧ Fenced requests start
      fenced.started (fun call => fenced.progress call = .idle) later) ?_ ?_
    · rintro state rfl
      refine ⟨guarded.step invalidates, ?_⟩
      cases invalidates
      exact .invalidated guarded start
    · intro before event after ⟨guarded, fenced⟩ step
      exact ⟨guarded.step step, fenced.step guarded step⟩
  refine kept.2.outcomes call idle covered produced ?_
  rw [returned]
  rfl

def sampleCache : ResponseCache := .new 4 64

def sampleRequests : Nat → Request := fun _ => .load "profile" 30

theorem loading_reached : ∃ system, Reachable sampleCache sampleRequests system ∧
    system.progress 0 = .loading (some 0) ∧ system.progress 1 = .idle ∧ system.started = [0] := by
  have start : Reachable sampleCache sampleRequests .initial := .initial rfl
  have entered := start.next (.call 0 0) (.call .enters)
  have missed := entered.next (.call 0 0) (.call (.misses rfl))
  have opened := missed.next (.call 0 0) (.call (.opens rfl (by decide)))
  have locked := opened.next (.call 0 0) (.locks rfl (by
    intro other
    cases other <;> simp [Function.update, System.advance, System.initial, Progress.holds,
      Progress.gate]))
  have started := locked.next (.call 0 0) (.call (.missesLocked rfl))
  exact ⟨_, started.next (.call 0 0) (.startsLoader rfl), rfl, rfl, rfl⟩

/-- A loader runs while the key is invalidated: a call that starts then does not return what
it loads. -/
theorem loading_fenced : ∃ system, Reachable sampleCache sampleRequests system ∧
    system.progress 0 = .loading (some 0) ∧ system.cache.bytes ≤ 64 ∧
    ∀ fenced later produced,
      Step sampleCache sampleRequests system (.invalidatePrefix "profile\x00") fenced →
      ReachedFrom fenced (Step sampleCache sampleRequests) later →
      later.progress 1 = .returned (some produced) → produced.loader ≠ 0 := by
  obtain ⟨system, run, loading, idle, started⟩ := loading_reached
  obtain ⟨-, bytes, -, -, covers, fences⟩ := response_cache_fenced run
  refine ⟨system, run, loading, bytes, ?_⟩
  intro fenced later produced invalidates further returned old
  have aged : produced.loader ∉ fenced.started :=
    fences _ fenced later 1 produced invalidates further (by cases invalidates; exact idle)
      (covers (sampleRequests 1)) returned
  cases invalidates
  rw [old, started] at aged
  exact aged List.mem_cons_self

/-! ## Where values come from -/

/-- What the loader of a call produces while the call moves on. -/
def Progress.loads (call : Nat) : Progress → Progress → List Produced
  | .loading _, .loaded _ value => [⟨value, call⟩]
  | .loading _, .returned (some produced) => [⟨produced.value, call⟩]
  | _, _ => []

/-- What loaders produce in a step, with the calls they belong to. -/
def System.loads (before : System) (event : Event) (after : System) : List Produced :=
  match event with
  | .call call _ => Progress.loads call (before.progress call) (after.progress call)
  | .cancel _ | .cleanup _ | .invalidatePrefix _ => []

/-- The systems that are reached, with all that loaders have produced on the way. -/
abbrev Recorded (cache : ResponseCache) (requests : Nat → Request) :
    System × List Produced → Prop :=
  ReachedFrom (.initial, []) (Recording (Step cache requests) System.loads)

/-- The value has been produced by the loader of a call with this key. -/
structure Sourced (requests : Nat → Request) (loads : List Produced) (key : String)
    (produced : Produced) : Prop where
  loaded : produced ∈ loads
  key : (requests produced.loader).scopedKey = key
  allowed : (requests produced.loader).mayLoad produced.value

/-- The value that a call has loaded or is about to return. -/
def Progress.product (call : Nat) : Progress → Option Produced
  | .loaded _ value => some ⟨value, call⟩
  | progress => progress.outcome

/-- All values of the cache have a source. -/
def CacheState.Traced (requests : Nat → Request) (loads : List Produced) (state : CacheState) :
    Prop :=
  ∀ entry ∈ state.entries, Sourced requests loads entry.key entry.produced

/-- The value of a call has a source. -/
def Progress.Traced (requests : Nat → Request) (loads : List Produced) (call : Nat)
    (progress : Progress) : Prop :=
  ∀ produced, progress.product call = some produced →
    Sourced requests loads (requests call).scopedKey produced

/-- All values of a system have a source. -/
structure Traced (requests : Nat → Request) (system : System) (loads : List Produced) : Prop where
  cache : system.cache.Traced requests loads
  calls : ∀ call, (system.progress call).Traced requests loads call

section Traced

variable {loads : List Produced}

theorem Sourced.mono {key : String} {produced : Produced}
    (sourced : Sourced requests loads key produced) (more : List Produced) :
    Sourced requests (loads ++ more) key produced :=
  ⟨List.mem_append_left more sourced.loaded, sourced.key, sourced.allowed⟩

/-- A longer record has the same sources. -/
theorem Traced.mono {system : System} (traced : Traced requests system loads)
    (more : List Produced) : Traced requests system (loads ++ more) :=
  ⟨fun entry stored => (traced.cache entry stored).mono more,
    fun call produced held => (traced.calls call produced held).mono more⟩

theorem Shrinks.traced {before after : CacheState} (shrinks : Shrinks before after)
    (traced : before.Traced requests loads) : after.Traced requests loads := by
  intro entry stored
  obtain ⟨old, held, key, produced⟩ := shrinks.entries entry stored
  rw [← key, ← produced]
  exact traced old held

theorem CallStep.traced {call now : Nat} {before after : CacheState} {progress next : Progress}
    (step : CallStep cache (requests call) call now before progress after next)
    (entries : before.Traced requests loads) (products : progress.Traced requests loads call)
    (recorded : ∀ produced ∈ Progress.loads call progress next, produced ∈ loads) :
    after.Traced requests loads ∧ next.Traced requests loads call := by
  cases step with
  | enters | joins | opens | bypasses | failsBypassing | fails => exact ⟨entries, by rintro _ ⟨⟩⟩
  | loadsBypassing allowed | loads allowed =>
    refine ⟨entries, ?_⟩
    rintro _ ⟨⟩
    exact ⟨recorded _ List.mem_cons_self, rfl, allowed⟩
  | misses fresh | missesLocked fresh =>
    exact ⟨(CacheState.fresh_shrinks fresh).traced entries, by rintro _ ⟨⟩⟩
  | hits fresh | hitsLocked fresh =>
    refine ⟨(CacheState.fresh_shrinks fresh).traced entries, ?_⟩
    rintro _ ⟨⟩
    obtain ⟨entry, stored, key, rfl⟩ := (CacheState.fresh_eq_some fresh).1
    exact key ▸ entries entry stored
  | superseded | leaves => exact ⟨entries, products⟩
  | finishes | uncacheable =>
    exact ⟨(CacheState.removeMatchingFlight_shrinks _ _ _).traced entries, products⟩
  | stores current lasting fits evicts =>
    refine ⟨(CacheState.removeMatchingFlight_shrinks _ _ _).traced ?_, products⟩
    intro entry stored
    apply (List.mem_append.mp stored).elim
    · intro kept
      exact evicts.shrinks.traced entries entry (List.mem_filter.mp kept).1
    · intro new
      rw [List.mem_singleton.mp new]
      exact products _ rfl

theorem Traced.move {before after : System} (traced : Traced requests before loads) {call : Nat}
    {next : Progress} (progress : after.progress = Function.update before.progress call next)
    (cache : after.cache.Traced requests loads) (moved : next.Traced requests loads call) :
    Traced requests after loads := by
  refine ⟨cache, ?_⟩
  intro other
  rw [progress]
  by_cases same : other = call
  · rw [same, Function.update_self]
    exact moved
  · rw [Function.update_of_ne same]
    exact traced.calls other

theorem Traced.step {before after : System} {event : Event} (traced : Traced requests before loads)
    (step : Step cache requests before event after) :
    Traced requests after (loads ++ before.loads event after) := by
  replace traced := traced.mono (before.loads event after)
  cases step with
  | call taken =>
    obtain ⟨cache, moved⟩ := taken.traced traced.cache (traced.calls _) (by
      intro produced listed
      apply List.mem_append_right
      simpa [System.loads, System.advance] using listed)
    exact traced.move rfl cache moved
  | locks | startsLoader | cancel => exact traced.move rfl traced.cache (by rintro _ ⟨⟩)
  | cleanup =>
    exact ⟨(CacheState.removeMatchingFlight_shrinks _ _ _).traced traced.cache, traced.calls⟩
  | invalidatePrefix =>
    exact ⟨(CacheState.invalidatePrefix_shrinks _ _).traced traced.cache, traced.calls⟩

theorem Recorded.traced {system : System} (run : Recorded cache requests (system, loads)) :
    Traced requests system loads := by
  refine run.invariant (fun pair => Traced requests pair.1 pair.2) ?_ ?_
  · rintro _ rfl
    exact ⟨List.forall_mem_nil _, by rintro _ _ ⟨⟩⟩
  · intro before event after traced ⟨step, record⟩
    rw [record]
    exact traced.step step

end Traced

/-- The suffixes of the two kinds of requests keep their keys apart. -/
theorem Request.of_scopedKey {left right : Request} (same : left.scopedKey = right.scopedKey) :
    left.key = right.key ∧
      ((∃ key ttl, left = .load key ttl) ↔ ∃ key ttl, right = .load key ttl) := by
  have last := congrArg (fun text : String => text.toList.getLast?) same
  cases left <;> cases right <;> simp [scopedKey, List.getLast?_append] at last same <;>
    simp [key, same]

/-- In every interleaving a call returns only what a loader has produced before, in a call of
the same key and kind of request, so a call of `load` never meets a cached absence. -/
theorem returned_values_sourced (cache : ResponseCache) (requests : Nat → Request) :
    (∀ system, Reachable cache requests system →
      ∃ loads, Recorded cache requests (system, loads)) ∧
    ∀ system loads call produced, Recorded cache requests (system, loads) →
      system.progress call = .returned (some produced) →
      produced ∈ loads ∧
        (requests produced.loader).key = (requests call).key ∧
        ((∃ key ttl, requests produced.loader = .load key ttl) ↔
          ∃ key ttl, requests call = .load key ttl) ∧
        ((∃ key ttl, requests call = .load key ttl) → produced.value ≠ .notFound) := by
  refine ⟨fun system run => ReachedFrom.recorded run System.loads, ?_⟩
  intro system loads call produced run returned
  have sourced := run.traced.calls call produced (by rw [returned]; rfl)
  obtain ⟨key, kind⟩ := Request.of_scopedKey sourced.key
  refine ⟨sourced.loaded, key, kind, fun load => ?_⟩
  obtain ⟨key, ttl, loader⟩ := kind.mpr load
  have allowed := sourced.allowed
  rw [loader] at allowed
  exact allowed

/-- The first call loads a value and stores it, and the second returns it from the cache. -/
theorem stored_value_sourced : ∃ system, Recorded sampleCache sampleRequests
      (system, [⟨.found [7], 0⟩]) ∧
    system.progress 1 = .returned (some ⟨.found [7], 0⟩) ∧
    ∀ produced, system.progress 1 = .returned (some produced) →
      produced ∈ [⟨.found [7], 0⟩] ∧ produced.value ≠ .notFound := by
  have start : Recorded sampleCache sampleRequests (.initial, []) := .initial rfl
  have allowed : (sampleRequests 0).mayLoad (.found [7]) := by rintro ⟨⟩
  have entered := start.record (.call 0 0) (.call .enters)
  have missed := entered.record (.call 0 0) (.call (.misses rfl))
  have opened := missed.record (.call 0 0) (.call (.opens rfl (by decide)))
  have locked := opened.record (.call 0 0) (.locks rfl (by
    intro other
    cases other <;> simp [Function.update, System.advance, System.initial, Progress.holds,
      Progress.gate]))
  have started := locked.record (.call 0 0) (.call (.missesLocked rfl))
  have loading := started.record (.call 0 0) (.startsLoader rfl)
  have loaded := loading.record (.call 0 0) (.call (.loads allowed))
  have stored := loaded.record (.call 0 0) (.call (.stores rfl (by decide) (by decide)
    (.roomy (by decide) (by decide))))
  have left := stored.record (.call 0 0) (.call .leaves)
  have second := left.record (.call 1 9) (.call .enters)
  have hit := second.record (.call 1 9) (.call (.hits rfl))
  refine ⟨_, hit, rfl, ?_⟩
  intro produced returned
  obtain ⟨loaded, -, -, present⟩ := (returned_values_sourced _ _).2 _ _ 1 produced hit returned
  exact ⟨loaded, present ⟨_, _, rfl⟩⟩

end Dirextalk.HttpCache
