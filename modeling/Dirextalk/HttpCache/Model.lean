import Dirextalk.Lib.Rows

/-!
# The response cache

A bounded cache whose misses on one key are led through one gate.  A call is cut at its
locks: each critical section on the inner mutex, the acquisition and the release of a
gate, and the start and the end of a loader are single steps, and a call may be dropped
wherever it waits.
-/

namespace Dirextalk.HttpCache

open Lib

/-! ## The state behind the inner mutex -/

/-- The validator of a body is a function of its bytes. -/
inductive CachedLookup where
  | found (bytes : List UInt8)
  | notFound
  deriving DecidableEq, Repr

/-- What a value counts against the limit. -/
def CachedLookup.byteLen : CachedLookup → Nat
  | .found bytes => bytes.length
  | .notFound => 0

/-- A value, and the call whose loader produced it.  The call is not part of the code's
data. -/
structure Produced where
  value : CachedLookup
  loader : Nat
  deriving DecidableEq

/-- A cached response. -/
structure CacheEntry where
  key : String
  produced : Produced
  expires : Nat
  touched : UInt64
  deriving DecidableEq

def CacheEntry.byteLen (entry : CacheEntry) : Nat := entry.produced.value.byteLen

/-- A gate is told apart from others by its address. -/
structure Flight where
  key : String
  gate : Nat
  deriving DecidableEq

/-- The limits of a cache, which `new` raises to one. -/
structure ResponseCache where
  capacity : Nat
  maxBytes : Nat
  capacity_pos : 0 < capacity
  maxBytes_pos : 0 < maxBytes

/-- Both limits are at least one. -/
def ResponseCache.new (capacity maxBytes : Nat) : ResponseCache :=
  ⟨max capacity 1, max maxBytes 1, by omega, by omega⟩

/-- The lengths of bodies in memory add up within `usize`, so that the saturating
operations on `bytes` are exact. -/
structure CacheState where
  entries : List CacheEntry
  flights : List Flight
  clock : UInt64
  bytes : Nat
  /-- The address that the next gate gets. -/
  gates : Nat

namespace CacheState

def empty : CacheState := ⟨[], [], 0, 0, 0⟩

variable (state : CacheState) (key : String)

/-- The entry under a key. -/
def entryAt : Option CacheEntry :=
  rowAt CacheEntry.key state.entries key

/-- The gate of the flight under a key. -/
def gateAt : Option Nat :=
  (rowAt Flight.key state.flights key).map Flight.gate

/-- Takes an entry and its bytes out. -/
def removeEntry : CacheState :=
  match state.entryAt key with
  | some removed =>
      { state with
        entries := state.entries.filter (·.key ≠ key)
        bytes := state.bytes - removed.byteLen }
  | none => state

/-- An entry that has not expired is touched, an expired one is removed. -/
def fresh (now : Nat) : Option Produced × CacheState :=
  match (state.entryAt key).filter (now < ·.expires) with
  | some entry =>
      (some entry.produced,
        { state with
          clock := state.clock + 1
          entries := updateWhere (·.key = key)
            (fun entry => { entry with touched := state.clock + 1 }) state.entries })
  | none => (none, state.removeEntry key)

/-- Removes the flight unless it has been replaced. -/
def removeMatchingFlight (gate : Nat) : CacheState :=
  if state.gateAt key = some gate then
    { state with flights := state.flights.filter (·.key ≠ key) }
  else state

/-- `state.flights.insert(key, Arc::new(Mutex::new(())))`. -/
def openFlight : CacheState :=
  { state with
    flights := state.flights ++ [⟨key, state.gates⟩]
    gates := state.gates + 1 }

/-- `key.starts_with(start)`. -/
def covers (start key : String) : Bool := start.toList.isPrefixOf key.toList

/-- Drops the entries and the flights under a common start. -/
def invalidatePrefix (start : String) : CacheState :=
  { state with
    entries := state.entries.filter fun entry => !covers start entry.key
    flights := state.flights.filter fun flight => !covers start flight.key
    bytes := state.bytes -
      ((state.entries.filter fun entry => covers start entry.key).map CacheEntry.byteLen).sum }

/-- Stores an entry in place of the one under its key. -/
def insertEntry (entry : CacheEntry) : CacheState :=
  { state with
    bytes := state.bytes + entry.byteLen
    entries := state.entries.filter (·.key ≠ entry.key) ++ [entry] }

end CacheState

/-- The loop that makes room for a value.  `min_by_key` picks any of the entries that were
touched least recently, and the loop ends when there is none. -/
inductive Evicts (cache : ResponseCache) (length : Nat) : CacheState → CacheState → Prop
  | roomy {state} (entries : state.entries.length < cache.capacity)
      (bytes : state.bytes + length ≤ cache.maxBytes) : Evicts cache length state state
  | emptied {state} (none : state.entries = []) : Evicts cache length state state
  | oldest {state after victim} (crowded : cache.capacity ≤ state.entries.length ∨
        cache.maxBytes < state.bytes + length)
      (stored : victim ∈ state.entries)
      (least : ∀ entry ∈ state.entries, victim.touched ≤ entry.touched)
      (rest : Evicts cache length (state.removeEntry victim.key) after) :
      Evicts cache length state after

/-! ## Calls -/

/-- What a call wants to load, and for how long it may be kept. -/
inductive Request where
  | load (key : String) (ttl : Nat)
  | loadOptional (key : String) (foundTtl notFoundTtl : Nat)
  deriving DecidableEq

namespace Request

def key : Request → String
  | .load key _ | .loadOptional key _ _ => key

/-- Bodies and optional lookups have keys of their own. -/
def scopedKey : Request → String
  | .load key _ => key ++ "\x00body"
  | .loadOptional key _ _ => key ++ "\x00optional"

/-- How long a value is kept. -/
def ttl : Request → CachedLookup → Nat
  | .load _ ttl, .found _ => ttl
  | .load _ _, .notFound => 0
  | .loadOptional _ foundTtl _, .found _ => foundTtl
  | .loadOptional _ _ notFoundTtl, .notFound => notFoundTtl

/-- The loader of `load` has no way to report a missing resource. -/
def mayLoad : Request → CachedLookup → Prop
  | .load _ _, value => value ≠ .notFound
  | .loadOptional .., _ => True

end Request

/-- How far a call has come.  An outcome is a value, or `none` for the loader's error. -/
inductive Progress where
  | idle
  | entered
  | missed
  | waiting (gate : Nat)
  /-- Holds the gate, with the cleanup of its flight armed. -/
  | locked (gate : Nat)
  | starting (gate : Option Nat)
  | loading (gate : Option Nat)
  | loaded (gate : Nat) (value : CachedLookup)
  /-- In `cleanup.finish()`, which has disarmed the cleanup. -/
  | finishing (gate : Nat) (outcome : Option Produced)
  | leaving (gate : Nat) (outcome : Option Produced)
  | returned (outcome : Option Produced)
  | cancelled
  deriving DecidableEq

namespace Progress

/-- The gate that a call has cloned. -/
def gate : Progress → Option Nat
  | .waiting gate | .locked gate | .loaded gate _ | .finishing gate _ | .leaving gate _ => some gate
  | .starting gate | .loading gate => gate
  | .idle | .entered | .missed | .returned _ | .cancelled => none

/-- The gate whose mutex a call has locked. -/
def holds : Progress → Option Nat
  | .waiting _ => none
  | progress => progress.gate

/-- The gate that a call holds between its second miss and its last critical section. -/
def filling : Progress → Option Nat
  | .starting gate | .loading gate => gate
  | .loaded gate _ => some gate
  | _ => none

/-- The gate whose flight a call removes when it is dropped. -/
def armed : Progress → Option Nat
  | .locked gate | .loading (some gate) | .loaded gate _ => some gate
  | _ => none

/-- The places where a call awaits a lock or its loader. -/
def awaits : Progress → Bool
  | .entered | .missed | .waiting _ | .locked _ | .loading _ | .loaded .. | .finishing .. => true
  | .idle | .starting _ | .leaving .. | .returned _ | .cancelled => false

def isLoading : Progress → Bool
  | .loading _ => true
  | _ => false

end Progress

/-- A critical section on the inner mutex, or the end of a loader or of a call: the state
behind the mutex and the progress of the call, before and after. -/
inductive CallStep (cache : ResponseCache) (request : Request) (call now : Nat) :
    CacheState → Progress → CacheState → Progress → Prop
  | enters {state} : CallStep cache request call now state .idle state .entered
  | hits {state produced after}
      (fresh : state.fresh request.scopedKey now = (some produced, after)) :
      CallStep cache request call now state .entered after (.returned (some produced))
  | misses {state after} (fresh : state.fresh request.scopedKey now = (none, after)) :
      CallStep cache request call now state .entered after .missed
  | joins {state gate} (flight : state.gateAt request.scopedKey = some gate) :
      CallStep cache request call now state .missed state (.waiting gate)
  | opens {state} (absent : state.gateAt request.scopedKey = none)
      (below : state.flights.length < cache.capacity) :
      CallStep cache request call now state .missed (state.openFlight request.scopedKey)
        (.waiting state.gates)
  | bypasses {state} (absent : state.gateAt request.scopedKey = none)
      (full : cache.capacity ≤ state.flights.length) :
      CallStep cache request call now state .missed state (.starting none)
  | hitsLocked {state gate produced after}
      (fresh : state.fresh request.scopedKey now = (some produced, after)) :
      CallStep cache request call now state (.locked gate) after (.finishing gate (some produced))
  | missesLocked {state gate after}
      (fresh : state.fresh request.scopedKey now = (none, after)) :
      CallStep cache request call now state (.locked gate) after (.starting (some gate))
  | loadsBypassing {state value} (allowed : request.mayLoad value) :
      CallStep cache request call now state (.loading none) state (.returned (some ⟨value, call⟩))
  | failsBypassing {state} :
      CallStep cache request call now state (.loading none) state (.returned none)
  | loads {state gate value} (allowed : request.mayLoad value) :
      CallStep cache request call now state (.loading (some gate)) state (.loaded gate value)
  | fails {state gate} :
      CallStep cache request call now state (.loading (some gate)) state (.finishing gate none)
  | finishes {state gate outcome} :
      CallStep cache request call now state (.finishing gate outcome)
        (state.removeMatchingFlight request.scopedKey gate) (.leaving gate outcome)
  | superseded {state gate value} (replaced : state.gateAt request.scopedKey ≠ some gate) :
      CallStep cache request call now state (.loaded gate value) state
        (.leaving gate (some ⟨value, call⟩))
  | uncacheable {state gate value} (current : state.gateAt request.scopedKey = some gate)
      (refused : request.ttl value = 0 ∨ cache.maxBytes < value.byteLen) :
      CallStep cache request call now state (.loaded gate value)
        (state.removeMatchingFlight request.scopedKey gate) (.leaving gate (some ⟨value, call⟩))
  | stores {state gate value evicted} (current : state.gateAt request.scopedKey = some gate)
      (lasting : request.ttl value ≠ 0) (fits : value.byteLen ≤ cache.maxBytes)
      (evicts : Evicts cache value.byteLen { state with clock := state.clock + 1 } evicted) :
      CallStep cache request call now state (.loaded gate value)
        ((evicted.insertEntry ⟨request.scopedKey, ⟨value, call⟩, now + request.ttl value,
          state.clock + 1⟩).removeMatchingFlight request.scopedKey gate)
        (.leaving gate (some ⟨value, call⟩))
  | leaves {state gate outcome} :
      CallStep cache request call now state (.leaving gate outcome) state (.returned outcome)

/-! ## Interleavings -/

/-- The cache and all calls. -/
structure System where
  cache : CacheState
  progress : Nat → Progress
  /-- The removals of flights that dropped calls have spawned. -/
  cleanups : List Flight
  /-- The calls whose loader has started. -/
  started : List Nat

namespace System

def initial : System := ⟨.empty, fun _ => .idle, [], []⟩

/-- Moves one call. -/
def advance (system : System) (call : Nat) (progress : Progress) : System :=
  { system with progress := Function.update system.progress call progress }

end System

/-- What can happen next. -/
inductive Event where
  /-- A step of a call, with the reading of the clock that it may take. -/
  | call (call now : Nat)
  | cancel (call : Nat)
  | cleanup (flight : Flight)
  | invalidatePrefix (start : String)

/-- The steps of a system in which every call has its request. -/
inductive Step (cache : ResponseCache) (requests : Nat → Request) : System → Event → System → Prop
  | call {system call now after progress}
      (taken : CallStep cache (requests call) call now system.cache (system.progress call)
        after progress) :
      Step cache requests system (.call call now)
        { system.advance call progress with cache := after }
  | locks {system call now gate} (waiting : system.progress call = .waiting gate)
      (free : ∀ other, (system.progress other).holds ≠ some gate) :
      Step cache requests system (.call call now) (system.advance call (.locked gate))
  | startsLoader {system call now gate} (starting : system.progress call = .starting gate) :
      Step cache requests system (.call call now)
        { system.advance call (.loading gate) with started := call :: system.started }
  | cancel {system call spawned} (awaits : (system.progress call).awaits = true)
      -- The cleanup is spawned only where a runtime is there to run it.
      (spawns : ∀ flight ∈ spawned, flight.key = (requests call).scopedKey ∧
        (system.progress call).armed = some flight.gate) :
      Step cache requests system (.cancel call)
        { system.advance call .cancelled with
          cleanups := system.cleanups ++ Option.toList spawned }
  | cleanup {system flight} (spawned : flight ∈ system.cleanups) :
      Step cache requests system (.cleanup flight)
        { system with
          cache := system.cache.removeMatchingFlight flight.key flight.gate
          cleanups := system.cleanups.erase flight }
  | invalidatePrefix {system start} :
      Step cache requests system (.invalidatePrefix start)
        { system with cache := system.cache.invalidatePrefix start }

end Dirextalk.HttpCache
