import Remagic.ManagerState

/-!
# The power policy

`PowerManager` is shared by every task of the daemon. Its activity revision and
its managed flag are atomics beside a runtime record under a mutex, so that an
operation is not one step: it is a list of sections, each a load or an addition on
an atomic or what is done while the mutex is held.
-/

namespace Remagic.PowerPolicy

inductive PowerPhase where
  | awake
  | quiescing
  | suspended
  | resuming
  | externallyBlocked
  deriving DecidableEq, Repr

inductive WorkClass where
  | agentTurn
  | ocr
  | fileTransfer
  | packageTransaction
  | storageCommit
  | displayCommit
  deriving DecidableEq, Repr

def WorkClass.maximumLeaseMs : WorkClass → Nat
  | .agentTurn | .ocr => 180000
  | .fileTransfer => 30000
  | .packageTransaction => 15 * 60000
  | .storageCommit | .displayCommit => 10000

/-- Instants and durations are in nanoseconds. -/
def fromMillis (ms : Nat) : Nat := ms * 1000000
def fromSecs (secs : Nat) : Nat := secs * 1000000000

structure LeaseRecord where
  id : Nat
  owner : AppId
  kind : WorkClass
  reason : String
  expiresAt : Nat
  deriving DecidableEq

structure RuntimeState where
  phase : PowerPhase
  lastActivity : Nat
  leases : List LeaseRecord
  deriving DecidableEq

structure PowerManager where
  idleSuspendSecs : Nat
  runtime : RuntimeState
  managed : Bool
  activityRevision : Nat
  nextLease : Nat
  deriving DecidableEq

/-- `PowerManager::load`, with the idle time that the settings file gave. -/
def PowerManager.load (idleSuspendSecs now : Nat) : PowerManager :=
  { idleSuspendSecs
    runtime := { phase := .awake, lastActivity := now, leases := [] }
    managed := false
    activityRevision := 1
    nextLease := 1 }

/-- The leases that have not run out. -/
def live (now : Nat) (leases : List LeaseRecord) : List LeaseRecord := leases.filter fun lease => now < lease.expiresAt

/-- `prune_expired`. -/
def pruneExpired (now : Nat) (runtime : RuntimeState) : RuntimeState :=
  { runtime with leases := live now runtime.leases }

/-- `suspend_blocked_by_external_wake_lock`. -/
def suspendBlockedByExternalWakeLock (owners : List String) : Bool := owners.any (· != "remagic-managed")

def minIdleSuspendSecs : Nat := 60
def maxIdleSuspendSecs : Nat := 1800

/-- `PowerSettings::validate`. -/
def validateIdle (seconds : Nat) : Except String Unit :=
  if seconds ≠ 0 ∧ ¬ (minIdleSuspendSecs ≤ seconds ∧ seconds ≤ maxIdleSuspendSecs) then
    .error "idle suspension must be disabled or between 60 and 1800 seconds"
  else .ok ()

/-! ## Operations -/

/-- What the other tasks call. `setIdleSuspend` comes with the result of writing the settings file. -/
inductive Operation where
  | noteActivity
  | beginWork (owner : AppId) (kind : WorkClass) (reason : String) (requestedMs : Nat)
  | finishWork (owner : AppId) (leaseId : Nat) (visibleResult : Bool)
  | setIdleSuspend (seconds : Nat) (saved : Except String Unit)
  | snapshot
  | enterManaged
  | enterStock
  | cancelQuiescing
  | beginSuspend
  | suspended
  | externallyBlocked
  | resumed
  | retainedLockResume

/-- One indivisible part of an operation. -/
inductive Section where
  /-- `note_activity` loads the managed flag and returns if it is off. -/
  | gate
  | manage (managed : Bool)
  /-- `activity_revision.fetch_add(1)` -/
  | count
  /-- `next_lease.fetch_add(1)`: the lease that is inserted later gets its number. -/
  | number (owner : AppId) (kind : WorkClass) (reason : String) (ttlMs : Nat)
  | insert (id : Nat) (owner : AppId) (kind : WorkClass) (reason : String) (ttlMs : Nat)
  | remove (owner : AppId) (leaseId : Nat) (visibleResult : Bool)
  | settings (seconds : Nat)
  | restart
  | prune
  | enteredManaged
  | enteredStock
  | note
  | cancel
  | beginSuspend
  | suspended
  | externallyBlocked
  | resumed
  | retainedLockResume

/-- The sections of an operation, in the source's order. -/
def Operation.sections : Operation → List Section
  | .noteActivity => [.gate, .count, .note]
  | .beginWork owner kind reason requestedMs =>
    [.number owner kind reason (max 1 (min requestedMs kind.maximumLeaseMs)), .count]
  | .finishWork owner leaseId visibleResult =>
    .remove owner leaseId visibleResult :: if visibleResult then [.count] else []
  | .setIdleSuspend seconds saved =>
    match validateIdle seconds, saved with
    | .ok (), .ok () => [.settings seconds, .count, .restart]
    | _, _ => []
  | .snapshot => [.prune]
  | .enterManaged => [.manage true, .count, .enteredManaged]
  | .enterStock => [.manage false, .count, .enteredStock]
  | .cancelQuiescing => [.cancel, .count]
  | .beginSuspend => [.beginSuspend]
  | .suspended => [.suspended]
  | .externallyBlocked => [.externallyBlocked]
  | .resumed => [.count, .resumed]
  | .retainedLockResume => [.retainedLockResume]

/-- What a section does to the runtime record while it holds the mutex. -/
def Section.locked (now : Nat) (runtime : RuntimeState) : Section → RuntimeState
  | .insert id owner kind reason ttlMs =>
    { runtime with
      phase := if runtime.phase = .quiescing then .awake else runtime.phase
      leases := ⟨id, owner, kind, reason, now + fromMillis ttlMs⟩ :: runtime.leases.filter (·.id != id) }
  | .remove owner leaseId visibleResult =>
    if runtime.leases.any fun lease => lease.id == leaseId && lease.owner == owner then
      let leases := runtime.leases.filter (·.id != leaseId)
      { runtime with
        leases := leases
        lastActivity := if leases.isEmpty && visibleResult then now else runtime.lastActivity }
    else runtime
  | .restart => { runtime with lastActivity := now }
  | .prune => pruneExpired now runtime
  | .enteredManaged => { phase := .awake, lastActivity := now, leases := [] }
  | .enteredStock => { runtime with phase := .awake, leases := [] }
  | .note =>
    match runtime.phase with
    | .awake | .quiescing | .resuming => { runtime with phase := .awake, lastActivity := now }
    | .suspended | .externallyBlocked => runtime
  | .cancel =>
    if runtime.phase = .quiescing then { runtime with phase := .awake, lastActivity := now } else runtime
  | .beginSuspend => { runtime with phase := .quiescing }
  | .suspended => { runtime with phase := .suspended }
  | .externallyBlocked => { runtime with phase := .externallyBlocked }
  | .resumed => { runtime with phase := .awake, lastActivity := now }
  | .retainedLockResume => { runtime with phase := .resuming }
  | .gate | .manage _ | .count | .number .. | .settings _ => runtime

/-- One section at an instant. -/
def PowerManager.perform (p : PowerManager) (now : Nat) (part : Section) : PowerManager :=
  { idleSuspendSecs := match part with
      | .settings seconds => seconds
      | _ => p.idleSuspendSecs
    runtime := part.locked now p.runtime
    managed := match part with
      | .manage managed => managed
      | _ => p.managed
    activityRevision := match part with
      | .count => p.activityRevision + 1
      | _ => p.activityRevision
    nextLease := match part with
      | .number .. => p.nextLease + 1
      | _ => p.nextLease }

/-- What is left of an operation after its first section. -/
def PowerManager.remaining (p : PowerManager) (part : Section) (rest : List Section) : List Section :=
  match part with
  | .gate => if p.managed then rest else []
  | .number owner kind reason ttlMs => .insert (max 1 p.nextLease) owner kind reason ttlMs :: rest
  | _ => rest

/-- An operation that nothing comes between. -/
def PowerManager.call (now : Nat) : PowerManager → List Section → PowerManager
  | p, [] => p
  | p, .gate :: rest => if p.managed then p.call now rest else p
  | p, .number owner kind reason ttlMs :: rest =>
    ((p.perform now (.number owner kind reason ttlMs)).perform now
      (.insert (max 1 p.nextLease) owner kind reason ttlMs)).call now rest
  | p, part :: rest => (p.perform now part).call now rest

/-! ## The idle policy -/

/-- What `next_policy_deadline` does under the mutex: the deadline, unless the phase has none. -/
def RuntimeState.deadline (runtime : RuntimeState) (now secs : Nat) : Option Nat :=
  let pruned := pruneExpired now runtime
  if pruned.phase ≠ .awake then none
  else some ((pruned.leases.map (·.expiresAt)).foldl max (pruned.lastActivity + fromSecs secs))

/-- What `reserve_auto_sleep` asks under the mutex. -/
def RuntimeState.idles (runtime : RuntimeState) (now secs : Nat) : Bool :=
  let pruned := pruneExpired now runtime
  decide (pruned.phase = .awake) && pruned.leases.isEmpty && decide (fromSecs secs ≤ now - pruned.lastActivity)

/-- What `reserve_auto_sleep` leaves under the mutex. -/
def RuntimeState.reserve (runtime : RuntimeState) (now secs : Nat) : RuntimeState :=
  let pruned := pruneExpired now runtime
  if runtime.idles now secs then { pruned with phase := .quiescing } else pruned

/-- `next_policy_deadline`: the deadline and the revision it was computed at. -/
def PowerManager.nextPolicyDeadline (p : PowerManager) (now : Nat) (owners : List String) :
    Option (Nat × Nat) × PowerManager :=
  if !p.managed || suspendBlockedByExternalWakeLock owners || p.idleSuspendSecs == 0 then (none, p)
  else
    ((p.runtime.deadline now p.idleSuspendSecs).map fun deadline => (deadline, p.activityRevision),
      { p with runtime := pruneExpired now p.runtime })

/-- `reserve_auto_sleep`. -/
def PowerManager.reserveAutoSleep (p : PowerManager) (now : Nat) (owners : List String) (revision : Nat) :
    Bool × PowerManager :=
  if !p.managed || p.activityRevision != revision || suspendBlockedByExternalWakeLock owners ||
      p.idleSuspendSecs == 0 then (false, p)
  else
    (p.runtime.idles now p.idleSuspendSecs, { p with runtime := p.runtime.reserve now p.idleSuspendSecs })

/-- `auto_sleep_is_current`. -/
def PowerManager.autoSleepIsCurrent (p : PowerManager) (revision : Nat) : Bool :=
  p.managed && p.activityRevision == revision && decide (p.runtime.phase = .quiescing)

end Remagic.PowerPolicy
