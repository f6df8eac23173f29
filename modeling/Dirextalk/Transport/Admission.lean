import Dirextalk.Domain.Identifiers
import Dirextalk.Lib.KeyTable

/-!
# Transport admission

Limits on concurrent work and token buckets per direct source and per connector identity,
in front of the control server.  An admission takes one permit and one token in every
dimension or nothing; entries without permits are forgotten after some idle time.
-/

namespace Dirextalk.Transport

open Domain Lib

/-! ## Configuration -/

def maxConfiguredLimit : Nat := 1000000

def maxConfiguredBurst : Nat := 1000000

/-- Why a configuration is refused. -/
inductive ConfigError where
  | invalidLimit
  | invalidDuration
  | perKeyConcurrencyExceedsGlobal
  | idleTtlTooShort
  deriving DecidableEq, Repr

/-- A limit that is neither zero nor impractically large. -/
abbrev LimitValid (limit : Nat) : Prop := 0 < limit ∧ limit ≤ maxConfiguredLimit

/-- Per-key concurrency and token-bucket limits; durations are in nanoseconds. -/
structure DimensionConfig where
  maxConcurrent : Nat
  burst : Nat
  refillInterval : Nat
  limits : LimitValid maxConcurrent ∧ 0 < burst ∧ burst ≤ maxConfiguredBurst
  refillInterval_pos : 0 < refillInterval
  deriving DecidableEq

/-- Global and direct-source admission policy for anonymous transport work. -/
structure SourceTransportAdmissionConfig where
  global : DimensionConfig
  source : DimensionConfig
  idleEntryTtl : Nat
  maxSourceEntries : Nat
  entries : LimitValid maxSourceEntries
  concurrency : source.maxConcurrent ≤ global.maxConcurrent
  ttl_pos : 0 < idleEntryTtl
  ttl_source : source.refillInterval ≤ idleEntryTtl

def SourceTransportAdmissionConfig.new (global source : DimensionConfig)
    (idleEntryTtl maxSourceEntries : Nat) : Except ConfigError SourceTransportAdmissionConfig :=
  if entries : LimitValid maxSourceEntries then
    if concurrency : source.maxConcurrent ≤ global.maxConcurrent then
      if ttl_pos : 0 < idleEntryTtl then
        if ttl_source : source.refillInterval ≤ idleEntryTtl then
          .ok ⟨global, source, idleEntryTtl, maxSourceEntries, entries, concurrency, ttl_pos,
            ttl_source⟩
        else .error .idleTtlTooShort
      else .error .invalidDuration
    else .error .perKeyConcurrencyExceedsGlobal
  else .error .invalidLimit

/-- Authenticated first-`Hello` admission policy by global, source and identity. -/
structure ConnectorTransportAdmissionConfig where
  maxConcurrent : Nat
  source : DimensionConfig
  identity : DimensionConfig
  idleEntryTtl : Nat
  maxSourceEntries : Nat
  maxIdentityEntries : Nat
  limits : LimitValid maxConcurrent ∧ LimitValid maxSourceEntries ∧ LimitValid maxIdentityEntries
  concurrency : source.maxConcurrent ≤ maxConcurrent ∧ identity.maxConcurrent ≤ maxConcurrent
  ttl_pos : 0 < idleEntryTtl
  ttl_refill : source.refillInterval ≤ idleEntryTtl ∧ identity.refillInterval ≤ idleEntryTtl

/-! ## Entries -/

/-- A bucket of tokens and what it has in flight. -/
structure AdmissionEntry where
  tokens : Nat
  lastRefill : Nat
  lastSeen : Nat
  inFlight : Nat
  deriving DecidableEq

namespace AdmissionEntry

/-- A full bucket. -/
def new (policy : DimensionConfig) (now : Nat) : AdmissionEntry := ⟨policy.burst, now, now, 0⟩

variable (entry : AdmissionEntry)

/-- `none` is the one opaque error.  The products stay below the elapsed time, so that no
operation saturates. -/
def refill (policy : DimensionConfig) (now : Nat) : Option AdmissionEntry :=
  if now < entry.lastRefill then none
  else
    let intervals := (now - entry.lastRefill) / policy.refillInterval
    if intervals = 0 ∨ entry.tokens = policy.burst then some entry
    else
      let added := min intervals (policy.burst - entry.tokens)
      let tokens := entry.tokens + added
      some { entry with
        tokens
        lastRefill :=
          if tokens = policy.burst then now
          else entry.lastRefill + policy.refillInterval * added }

/-- The entry that a refilled one becomes when a token and a permit are taken. -/
def taken (policy : DimensionConfig) (now : Nat) : AdmissionEntry where
  tokens := entry.tokens - 1
  lastRefill := if entry.tokens = policy.burst then now else entry.lastRefill
  lastSeen := now
  inFlight := entry.inFlight + 1

/-- The entry with a token and a permit taken, if there are both. -/
def candidate (current : Option AdmissionEntry) (policy : DimensionConfig) (now : Nat) :
    Option AdmissionEntry := do
  let refilled ← (current.getD (new policy now)).refill policy now
  if policy.maxConcurrent ≤ refilled.inFlight ∨ refilled.tokens = 0 then none
  else some (refilled.taken policy now)

/-- Only an idle entry expires. -/
def isExpired (now idleEntryTtl : Nat) : Bool :=
  entry.inFlight = 0 && entry.lastSeen ≤ now && idleEntryTtl ≤ now - entry.lastSeen

end AdmissionEntry

/-! ## Keyed dimensions -/

section Dimension

variable {κ : Type} [DecidableEq κ]

/-- `retain(|_, entry| !entry.is_expired(now, idle_entry_ttl))`. -/
def evictIdle (now idleEntryTtl : Nat) (table : KeyTable κ AdmissionEntry) :
    KeyTable κ AdmissionEntry :=
  table.retain fun entry => !entry.isExpired now idleEntryTtl

/-- The checks of one dimension and its write.  All errors are the same and nothing is
written before the last check, so that a dimension can be taken as a whole. -/
def admitKey (policy : DimensionConfig) (maxEntries now : Nat) (key : κ)
    (table : KeyTable κ AdmissionEntry) : Option (KeyTable κ AdmissionEntry) := do
  if (table.get? key).isNone ∧ maxEntries ≤ table.length then none
  else
    let candidate ← AdmissionEntry.candidate (table.get? key) policy now
    some (table.insert key candidate)

/-- A missing key skips the dimension. -/
def admitOptional (policy : DimensionConfig) (maxEntries now : Nat) (key : Option κ)
    (table : KeyTable κ AdmissionEntry) : Option (KeyTable κ AdmissionEntry) :=
  match key with
  | some key => admitKey policy maxEntries now key table
  | none => some table

/-- Gives a permit back. -/
def releaseKey (key : κ) (table : KeyTable κ AdmissionEntry) : KeyTable κ AdmissionEntry :=
  table.modify key fun entry => { entry with inFlight := entry.inFlight - 1 }

def releaseOptional (key : Option κ) (table : KeyTable κ AdmissionEntry) :
    KeyTable κ AdmissionEntry :=
  match key with
  | some key => releaseKey key table
  | none => table

end Dimension

/-! ## Keys -/

/-- The address of a peer. -/
inductive IpAddr where
  | v4 (bits : BitVec 32)
  | v6 (bits : BitVec 128)
  deriving DecidableEq

/-- An IPv4-mapped IPv6 address is the IPv4 address. -/
def canonicalSourceIp : IpAddr → IpAddr
  | .v6 bits => if bits >>> 32 = 0xffff then .v4 (bits.setWidth 32) else .v6 bits
  | .v4 bits => .v4 bits

/-- Whom the certificate of a connector names. -/
structure ConnectorWorkloadIdentity where
  tenantId : TenantId
  connectorId : ConnectorId
  deriving DecidableEq

/-! ## Admission by source -/

/-- The end of an acquisition: refused in the state it found if its time is older than the
last one, else granted, or refused in the state it has observed. -/
def settle {σ : Type} (last now : Nat) (state observed : σ) (admitted : Option σ) : Bool × σ :=
  if now < last then (false, state)
  else
    match admitted with
    | some after => (true, after)
    | none => (false, observed)

/-- The largest `Duration`, in nanoseconds. -/
def durationMax : Nat := 18446744073709551615999999999

/-- The buckets of the sources and the one that they share. -/
structure SourceAdmissionState where
  global : AdmissionEntry
  sources : KeyTable IpAddr AdmissionEntry
  lastObservedNow : Nat
  nextCleanup : Nat

namespace SourceAdmissionState

def new (config : SourceTransportAdmissionConfig) : SourceAdmissionState :=
  ⟨.new config.global 0, [], 0, config.idleEntryTtl⟩

variable (state : SourceAdmissionState) (config : SourceTransportAdmissionConfig)

/-- Drops idle entries from time to time. -/
def cleanupIfDue (now idleEntryTtl : Nat) : SourceAdmissionState :=
  if now < state.nextCleanup then state
  else
    { state with
      sources := evictIdle now idleEntryTtl state.sources
      nextCleanup := min (now + idleEntryTtl) durationMax }

/-- What precedes the checks of an acquisition at a time that is not older than the last. -/
def observe (now : Nat) : SourceAdmissionState :=
  { state with lastObservedNow := now }.cleanupIfDue now config.idleEntryTtl

/-- A request is admitted in all dimensions or in none. -/
def admitRequest (source : Option IpAddr) (now : Nat) : Option SourceAdmissionState := do
  let global ← AdmissionEntry.candidate (some state.global) config.global now
  let sources ← admitOptional config.source config.maxSourceEntries now source state.sources
  some { state with global, sources }

/-- Whether the acquisition is granted, and the state it leaves. -/
def tryAcquire (source : Option IpAddr) (now : Nat) : Bool × SourceAdmissionState :=
  settle state.lastObservedNow now state (state.observe config now)
    ((state.observe config now).admitRequest config source now)

/-- Gives the permits of a request back. -/
def release (source : Option IpAddr) : SourceAdmissionState :=
  { state with
    global := { state.global with inFlight := state.global.inFlight - 1 }
    sources := releaseOptional source state.sources }

end SourceAdmissionState

/-! ## Admission by source and identity -/

/-- The buckets of the sources and of the connectors. -/
structure AdmissionState where
  totalInFlight : Nat
  sources : KeyTable IpAddr AdmissionEntry
  identities : KeyTable ConnectorWorkloadIdentity AdmissionEntry
  lastObservedNow : Nat
  nextCleanup : Nat

namespace AdmissionState

def new (idleEntryTtl : Nat) : AdmissionState := ⟨0, [], [], 0, idleEntryTtl⟩

variable (state : AdmissionState)

def cleanupIfDue (now idleEntryTtl : Nat) : AdmissionState :=
  if now < state.nextCleanup then state
  else
    { state with
      sources := evictIdle now idleEntryTtl state.sources
      identities := evictIdle now idleEntryTtl state.identities
      nextCleanup := min (now + idleEntryTtl) durationMax }

variable (config : ConnectorTransportAdmissionConfig)

def observe (now : Nat) : AdmissionState :=
  { state with lastObservedNow := now }.cleanupIfDue now config.idleEntryTtl

/-- A request needs a permit of its source and of its connector. -/
def admitRequest (source : Option IpAddr) (identity : ConnectorWorkloadIdentity) (now : Nat) :
    Option AdmissionState := do
  if config.maxConcurrent ≤ state.totalInFlight then none
  else
    let sources ← admitOptional config.source config.maxSourceEntries now source state.sources
    let identities ←
      admitKey config.identity config.maxIdentityEntries now identity state.identities
    some { state with sources, identities, totalInFlight := state.totalInFlight + 1 }

/-- Whether the request is granted, and the state it leaves. -/
def tryAcquire (source : Option IpAddr) (identity : ConnectorWorkloadIdentity) (now : Nat) :
    Bool × AdmissionState :=
  settle state.lastObservedNow now state (state.observe config now)
    ((state.observe config now).admitRequest config source identity now)

/-- Gives the permits of a request back. -/
def release (source : Option IpAddr) (identity : ConnectorWorkloadIdentity) : AdmissionState :=
  { state with
    totalInFlight := state.totalInFlight - 1
    sources := releaseOptional source state.sources
    identities := releaseKey identity state.identities }

end AdmissionState

/-! ## Runs -/

/-- An admission guard for requests of some type. -/
structure Admission (σ π : Type) where
  start : σ
  tryAcquire : π → Nat → σ → Bool × σ
  release : π → σ → σ

/-- Requests are direct sources. -/
def sourceTransportAdmission (config : SourceTransportAdmissionConfig) :
    Admission SourceAdmissionState (Option IpAddr) where
  start := .new config
  tryAcquire source now state := state.tryAcquire config (source.map canonicalSourceIp) now
  release source state := state.release (source.map canonicalSourceIp)

/-- Requests are direct sources with an authenticated identity. -/
def connectorTransportAdmission (config : ConnectorTransportAdmissionConfig) :
    Admission AdmissionState (Option IpAddr × ConnectorWorkloadIdentity) where
  start := .new config.idleEntryTtl
  tryAcquire request now state :=
    state.tryAcquire config (request.1.map canonicalSourceIp) request.2 now
  release request state := state.release (request.1.map canonicalSourceIp) request.2

/-- A guard with the requests whose permits are live, and all grants with their times. -/
structure Served (σ π : Type) where
  state : σ
  live : List π
  grants : List (π × Nat)

/-- What the server asks of an admission. -/
inductive Event (π : Type) where
  | acquire (request : π) (now : Nat)
  | drop (request : π)

/-- One acquisition or one drop. -/
inductive Admission.Step {σ π : Type} [DecidableEq π] (admission : Admission σ π) :
    Served σ π → Event π → Served σ π → Prop
  | grants {served request now after}
      (granted : admission.tryAcquire request now served.state = (true, after)) :
      admission.Step served (.acquire request now)
        ⟨after, request :: served.live, (request, now) :: served.grants⟩
  | refuses {served request now after}
      (refused : admission.tryAcquire request now served.state = (false, after)) :
      admission.Step served (.acquire request now) ⟨after, served.live, served.grants⟩
  | drops {served request} (held : request ∈ served.live) :
      admission.Step served (.drop request)
        ⟨admission.release request served.state, served.live.erase request, served.grants⟩

/-- The states that any acquisitions and drops lead to. -/
abbrev Admission.Reachable {σ π : Type} [DecidableEq π] (admission : Admission σ π) :
    Served σ π → Prop :=
  Reached (· = ⟨admission.start, [], []⟩) admission.Step

end Dirextalk.Transport
