import Remagic.Programs
import Remagic.SleepTransaction

/-!
# What the daemon's tasks share

The event loop, the tasks of control clients and the requests of applications act on
one daemon: its domain, the tables of its applications' processes, the fences of the
requests under way and the transition lock. They act on it and on the world around it
by operations, each of which is one step.
-/

namespace Remagic.Daemon
open Supervisor

/-! ## The data -/

inductive BackgroundExecution where
  | keep
  | freeze
  deriving DecidableEq

def BackgroundExecution.freezesProcess : BackgroundExecution → Bool
  | .freeze => true
  | .keep => false

inductive BackgroundService where
  | systemd (unit : String)
  | managed
  deriving DecidableEq

/-- The helpers that exchange an application's data. -/
structure SyncProvider where
  exporter : String
  importer : String
  deriving DecidableEq

structure AppManifest where
  id : AppId
  display : String := "qtfb"
  capabilities : List String := []
  runtimeDir : Option String := none
  /-- `effective_background_service`. -/
  backgroundService : Option BackgroundService := none
  backgroundExecution : BackgroundExecution := .keep
  syncProvider : Option SyncProvider := none
  /-- `is_resident`. -/
  resident : Bool := false
  hasDataSchema : Bool := false
  /-- `AppKind::System`. -/
  system : Bool := false
  deriving DecidableEq

def AppManifest.hasCapability (manifest : AppManifest) (expected : String) : Bool := manifest.capabilities.contains expected

def AppManifest.supportsLifecycleV2 (manifest : AppManifest) : Bool := manifest.hasCapability "lifecycle:v2"

inductive SessionStatus where
  | background
  | parked
  | crashed
  deriving DecidableEq

structure AppSession where
  appId : AppId
  status : SessionStatus
  resumePayload : Option String := none
  lastError : Option String := none
  deriving DecidableEq

inductive ExitReportSource where
  | runner
  | synthetic
  | controlled
  deriving DecidableEq

structure PendingExit where
  generation : Nat
  source : ExitReportSource
  deriving DecidableEq

inductive InputMode where
  | writing
  | animationLocked
  | modal
  deriving DecidableEq

def InputMode.inkEnabled : InputMode → Bool
  | .writing => true
  | _ => false

structure RuntimeInputState where
  generation : Nat
  foregroundEpoch : Nat
  leaseId : Nat
  mode : InputMode
  dynamicAllowed : Bool
  directInkAllowed : Bool
  pending : Bool
  deriving DecidableEq

inductive RequestFence where
  | pending
  | cancelled
  | committing
  deriving DecidableEq

inductive RuntimeLaunchAuthority where
  | legacyPeer (app : AppId)
  | foregroundToken (token : AppToken)
  deriving DecidableEq

inductive Event where
  | userActivity
  | singlePower
  | triplePower
  | longPower
  | launch (app : AppId) (openPath : Option String)
  | runtimeLaunch (authority : RuntimeLaunchAuthority) (app : AppId) (openPath : Option String)
  | openManager
  | returnSystem
  | coverClosed
  | coverOpened
  | sleep (lockSurfaceSequence : Nat)
  | wake (managerSurfaceSequence : Nat)
  | resuspend (sleepEpoch sleepRevision interactionEpoch : Nat)
  | autoSleep (activityRevision : Nat)
  | close (app : AppId) (complete : Bool)
  | runtimeExited (app : AppId) (generation : Nat) (exitCode : Int) (crashed : Bool) (source : ExitReportSource)
  | displayHostExited (stateSequence sleepRevision : Nat)
  | appReady (app : AppId)
  | appParked (session : AppSession)
  | package
  | reloadManifests
  deriving DecidableEq

/-- The events that a user sees supersede a launch that is not ready yet. -/
def Event.interruptsLaunch : Event → Bool
  | .singlePower | .triplePower | .longPower | .launch .. | .runtimeLaunch .. | .openManager | .returnSystem
  | .coverClosed | .coverOpened | .sleep _ | .wake _ | .close .. | .displayHostExited .. => true
  | _ => false

/-! ## The world -/

inductive ServiceUnit where
  | app (id : AppId)
  | everyApp
  | home
  | display
  | runtime
  | background (name : String)
  deriving DecidableEq

def ServiceUnit.name : ServiceUnit → String
  | .app id => "remagic-app@" ++ id.value ++ ".service"
  | .everyApp => "remagic-app@*.service"
  | .home => "remagic-home.service"
  | .display => "remagic-display-host.service"
  | .runtime => "remagic-runtime.service"
  | .background name => name

def managedBackgroundUnit (id : AppId) : ServiceUnit := .background ("remagic-background-" ++ id.value ++ ".service")

def homeSurfaceKey : Nat := 245209900

/-- `qtfb_key_for_app`: a hash of the identifier that is never Home's key. -/
def appSurfaceKey (app : AppId) : Nat :=
  let hash : UInt32 := ("remagic-qtfb-v2:" ++ app.value).toList.foldl
    (fun hash byte => (hash ^^^ UInt32.ofNat byte.toNat) * 0x01000193) 0x811c9dc5
  let key := max (hash &&& 0x7fffffff).toNat 1
  if key = homeSurfaceKey then key + 1 else key

structure DisplayLease where
  key : Nat
  generation : Nat
  epoch : Nat
  deriving DecidableEq

/-- What the display host says of itself. -/
structure Display where
  foreground : Option DisplayLease := none
  inkEnabled : Bool := false
  lockEpoch : Nat := 0
  lockCommitted : Bool := false
  /-- Home's latest committed sequence. -/
  homeSequence : Nat := 0
  deriving DecidableEq

/-- A call to something outside of the daemon, which answers or fails. -/
inductive Call : Type → Type where
  | isActive (unit : ServiceUnit) : Call Bool
  | start (unit : ServiceUnit) : Call Unit
  | startAndWait (unit : ServiceUnit) : Call Unit
  | stopAndWait (unit : ServiceUnit) : Call Unit
  | restart (unit : ServiceUnit) : Call Unit
  | thawAndWait (unit : ServiceUnit) : Call Unit
  | freezeAndWait (unit : ServiceUnit) : Call Unit
  | startManagedBackground (id : AppId) : Call Unit
  | startWorker : Call Unit
  | enterManaged : Call Unit
  | restoreSystem : Call Unit
  | suspend : Call Unit
  | acquireWakelock : Call Unit
  | grab (grab : Bool) : Call Unit
  | armWakeGuard : Call Unit
  | cancelWakeGuard : Call Unit
  | resumeWakeGuard : Call Bool
  | setForegroundMarker (app : Option AppId) : Call Unit
  | saveSession (session : AppSession) : Call Unit
  | removeSession (id : AppId) : Call Unit
  | loadManifests : Call (List AppManifest)
  | validateOpenPath (id : AppId) (path : String) : Call String
  | publishDescriptor (id : AppId) : Call Unit
  | clearPhaseMarkers (id : AppId) : Call Unit
  | enterForeground (id : AppId) (foregroundEpoch leaseId : Nat) : Call Unit
  | enterBackground (id : AppId) : Call Unit
  | shutdown (id : AppId) : Call Unit
  | detectDevice : Call Unit
  | prepareBundle : Call Unit
  | installBundle (id : AppId) : Call Unit
  | rollbackBundle (id : AppId) : Call Unit
  | uninstallBundle (id : AppId) : Call Unit
  /-- `wait_for_application`: until the application is ready, or fails, or gives way. -/
  | awaitApplication (id : AppId) (generation foregroundEpoch : Nat) : Call Unit
  /-- `wait_event` for the ready event. -/
  | awaitReady (id : AppId) (generation foregroundEpoch : Nat) : Call Unit
  /-- `wait_background_ready`, with the payload that the application resumes from. -/
  | awaitBackground (id : AppId) (generation foregroundEpoch : Nat) : Call (Option String)
  | displayStatus : Call Display
  | waitReady : Call Unit
  | waitSurface (key : Nat) : Call Unit
  | waitSurfaceSequence (key sequence : Nat) : Call Display
  | setForeground (key generation epoch : Nat) : Call Unit
  | prepareForeground (key generation epoch : Nat) : Call Unit
  | activateForeground (key generation epoch : Nat) (inkEnabled : Bool) : Call Unit
  | clearForeground : Call Unit
  | configureInk (key generation epoch : Nat) (enabled : Bool) : Call Unit
  | showLock (key generation epoch sleepEpoch : Nat) : Call Unit
  | cancelLock (sleepEpoch sequence : Nat) : Call Unit
  | notifyHome (message : String) : Call Unit

/-- A question to the world that always has an answer. -/
inductive Question where
  | executableExists (id : AppId)
  /-- `is_active`, which takes a failure for a yes. -/
  | maybeActive (unit : ServiceUnit)
  | descriptorRemoved (id : AppId)
  /-- `background_restore_is_safe`. -/
  | schemaComplete (id : AppId) (generation : Nat)
  | autoSleepIsCurrent (activityRevision : Nat)
  deriving DecidableEq

/-- What the world answers to one operation. A call that fails may have been carried
    out all the same. -/
structure Answer where
  ok : Bool := true
  took : Bool := false
  error : String := "failed"
  flag : Bool := true
  payload : Option String := none
  manifests : List AppManifest := []

/-! ## The daemon -/

/-- The tables that are kept by application. -/
abbrev Table (α : Type) := AppId → Option α

inductive Lock where
  | transition
  /-- The lock of `runtime_input_modes`, held for writing. -/
  | inputModes
  /-- `package_lock`. -/
  | package
  deriving DecidableEq

/-- An event that is on its way to the event loop, under the number of its request. -/
structure QueuedEvent where
  request : Nat
  event : Event
  interruptEpoch : Nat
  deriving DecidableEq

structure SharedDaemon where
  state : ManagerState := {}
  manifests : List AppManifest := []
  sessions : Table AppSession := fun _ => none
  generations : Table Nat := fun _ => none
  backgroundExecution : Table BackgroundExecution := fun _ => none
  foregroundFences : Table (Nat × Nat) := fun _ => none
  inputModes : Table RuntimeInputState := fun _ => none
  exitReports : Table PendingExit := fun _ => none
  missingObservations : Table (Nat × Nat) := fun _ => none
  /-- Which task holds each lock. -/
  locks : Lock → Option Nat := fun _ => none
  /-- This counter and those that follow are the source's `u64`s, without their wrap. -/
  nextGeneration : Nat := 1
  nextForegroundEpoch : Nat := 1
  nextSleepEpoch : Nat := 1
  sleep : SleepSnapshot := {}
  launchInterruptEpoch : Nat := 1
  /-- The source's input thread stores this too, ahead of the event that it queues. Here it
      changes where the event is handled. -/
  coverClosed : Bool := false
  coverResumeApp : Option AppId := none
  /-- The fences of the requests, by their numbers. -/
  fences : Nat → RequestFence := fun _ => .pending
  requests : Nat := 0
  queue : List QueuedEvent := []
  /-- Events that were created and have yet to enter the queue. -/
  sending : List QueuedEvent := []
  /-- Events that the daemon's own timers are yet to create, unless the interaction is over. -/
  posted : List (Event × Nat) := []
  display : Display := {}
  /-- Whether the units of applications are active. -/
  units : AppId → Bool := fun _ => false
  /-- Ghost: the event loop has a failed transition to recover from. -/
  owed : Bool := false
  /-- Ghost: the launch epoch at which a request's commit began. -/
  begunAt : Nat → Option Nat := fun _ => none

def SharedDaemon.domain (s : SharedDaemon) : DomainState := s.state.domain

def SharedDaemon.manifest (s : SharedDaemon) (id : AppId) : Option AppManifest := s.manifests.find? fun manifest => manifest.id = id

/-- A change of one of the daemon's tables. -/
inductive Edit where
  | manifests (manifests : List AppManifest)
  | session (id : AppId) (session : Option AppSession)
  | generation (id : AppId) (generation : Option Nat)
  | backgroundExecution (id : AppId) (policy : Option BackgroundExecution)
  | foregroundFence (id : AppId) (fence : Option (Nat × Nat))
  | inputMode (id : AppId) (input : Option RuntimeInputState)
  | exitReport (id : AppId) (pending : Option PendingExit)
  | missingObservation (id : AppId)
  | clearGenerations
  | clearBackgroundExecution
  | clearForegroundFences
  | clearInputModes
  | coverClosed (closed : Bool)
  | coverResumeApp (app : Option AppId)

/-- One indivisible step of a task. -/
inductive Op : Type → Type 1 where
  | read {β : Type} (look : SharedDaemon → β) : Op β
  /-- A look at `inputModes` and what depends on it. -/
  | readModes {β : Type} (look : SharedDaemon → β) : Op β
  | acquire (lock : Lock) : Op Unit
  /-- Let the lock go, at the end of a body that failed or did not. -/
  | release (lock : Lock) (failed : Bool) : Op Unit
  /-- The look at the domain that decides on a recovery. -/
  | assess : Op DomainState
  | apply (transition : Transition) : Op (Except String Unit)
  /-- `restore_system` takes the domain from wherever it is. -/
  | beginRestore : Op Unit
  | beginPark (id : AppId) (returningSystem : Bool) : Op (Except String Unit)
  | finishPark (id : AppId) : Op (Except String Unit)
  | appParked (id : AppId) : Op (Except String Unit)
  | appReady (id : AppId) : Op (Except String Unit)
  | closed (id : AppId) (wasForeground : Bool) : Op (Except String Unit)
  | stopped (id : AppId) : Op (Except String Unit)
  | commitReady (id : AppId) : Op (Except String Unit)
  | beginCommit (request : Nat) : Op Bool
  /-- Ghost: the rollback of a launch reports success. -/
  | rolledBack (id : AppId) : Op Unit
  | allocateGeneration : Op Nat
  | allocateForegroundEpoch : Op Nat
  | allocateSleepEpoch : Op Nat
  | edit (change : Edit) : Op Unit
  | takeGeneration (id : AppId) (generation : Nat) : Op Bool
  | consumeReport (id : AppId) (pending : PendingExit) : Op Bool
  | reserveReport (id : AppId) (pending : PendingExit) : Op Bool
  | releaseReport (id : AppId) (pending : PendingExit) : Op Unit
  | setPendingMode (token : AppToken) (mode : InputMode) : Op (Option (Except String Bool))
  | takeCoverResumeApp : Op (Option AppId)
  | sleep (operation : SleepTransaction.Operation) : Op (Except String SleepSnapshot)
  /-- Have a timer create the event, unless there is a newer interaction by then. -/
  | post (event : Event) (interactionEpoch : Nat) : Op Unit
  /-- Queue an event that cannot be cancelled, if there is room in time. -/
  | send (event : Event) : Op Bool
  | ask (question : Question) : Op Bool
  | call {β : Type} (call : Call β) : Op (Except String β)

/-! ## What the operations do -/

def AppId.debug (id : AppId) : String := "AppId(\"" ++ id.value ++ "\")"

def DomainState.debug : DomainState → String
  | .system => "System"
  | .enteringManaged => "EnteringManaged"
  | .manager => "Manager"
  | .launching app => "Launching(" ++ AppId.debug app ++ ")"
  | .foreground app => "Foreground(" ++ AppId.debug app ++ ")"
  | .parking app => "Parking(" ++ AppId.debug app ++ ")"
  | .restoringSystem => "RestoringSystem"
  | .sleeping => "Sleeping"
  | .recovering => "Recovering"

def Transition.debug : Transition → String
  | .triplePower => "TriplePower"
  | .singlePower => "SinglePower"
  | .launch app => "Launch(" ++ AppId.debug app ++ ")"
  | .appReady app => "AppReady(" ++ AppId.debug app ++ ")"
  | .appParked app => "AppParked(" ++ AppId.debug app ++ ")"
  | .appRestored app => "AppRestored(" ++ AppId.debug app ++ ")"
  | .appExited app => "AppExited(" ++ AppId.debug app ++ ")"
  | .appCrashed app => "AppCrashed(" ++ AppId.debug app ++ ")"
  | .managedReady => "ManagedReady"
  | .systemReady => "SystemReady"
  | .sleep => "Sleep"
  | .wake => "Wake"
  | .failure => "Failure"

def RuntimeInputState.matches' (input : RuntimeInputState) (token : AppToken) : Bool :=
  input.generation == token.generation && input.foregroundEpoch == token.foregroundEpoch &&
    token.leaseId == some input.leaseId

def RuntimeInputState.validateMode (input : RuntimeInputState) (id : AppId) (mode : InputMode) : Except String Bool := do
  if !input.dynamicAllowed then
    throw ("application " ++ id.value ++ " cannot negotiate input mode without input:mode-v2")
  if mode.inkEnabled && !input.directInkAllowed then
    throw ("application " ++ id.value ++ " cannot enter writing mode without ink:direct-v1")
  return mode.inkEnabled

/-- A domain that the daemon may stay in. -/
def DomainState.atRest : DomainState → Bool
  | .system | .manager | .foreground _ | .sleeping => true
  | _ => false

/-- The event loop among the daemon's tasks. -/
def loopTask : Nat := 0

namespace SharedDaemon

/-- `ManagerState::apply`. -/
def apply (transition : Transition) (s : SharedDaemon) : Except String Unit × SharedDaemon :=
  match s.state.apply transition with
  | some state => (.ok (), { s with state })
  | none => (.error ("transition " ++ transition.debug ++ " is invalid while in " ++ s.domain.debug), s)

def beginPark (id : AppId) (returningSystem : Bool) (s : SharedDaemon) : Except String Unit × SharedDaemon :=
  if s.domain = .foreground id then s.apply (if returningSystem then .triplePower else .singlePower)
  else (.error ("cannot park " ++ id.value ++ " while manager domain is " ++ s.domain.debug), s)

def finishPark (id : AppId) (s : SharedDaemon) : Except String Unit × SharedDaemon :=
  if s.domain = .parking id then s.apply (.appParked id)
  else if s.domain = .manager then (.ok (), s)
  else (.error ("application stopped in unexpected state: " ++ s.domain.debug), s)

/-- The last part of `record_parked`. -/
def appParked (id : AppId) (s : SharedDaemon) : Except String Unit × SharedDaemon :=
  if s.domain = .parking id then s.apply (.appParked id) else (.ok (), s)

/-- What follows a transition under the same lock, as far as the marker's file allows. -/
def marked (answer : Answer) : Except String Unit × SharedDaemon → Except String Unit × SharedDaemon
  | (.ok (), s) => (if answer.ok then .ok () else .error answer.error, s)
  | (.error error, s) => (.error error, s)

/-- `record_app_ready`. -/
def appReady (id : AppId) (answer : Answer) (s : SharedDaemon) : Except String Unit × SharedDaemon :=
  if s.domain = .launching id then marked answer (s.apply (.appReady id)) else (.ok (), s)

/-- `clear_closed_last_app`. -/
def clearClosedLastApp (id : AppId) (s : SharedDaemon) : SharedDaemon :=
  if s.state.lastApp = some id then { s with state := { s.state with lastApp := none } } else s

def closed (id : AppId) (wasForeground : Bool) (s : SharedDaemon) : Except String Unit × SharedDaemon :=
  if wasForeground then
    match s.apply (.appExited id) with
    | (.ok (), s) => (.ok (), s.clearClosedLastApp id)
    | refused => refused
  else (.ok (), s.clearClosedLastApp id)

/-- The domain after a forced stop. -/
def stopped (id : AppId) (s : SharedDaemon) : Except String Unit × SharedDaemon :=
  if s.domain = .parking id ∨ s.domain = .foreground id then s.apply (.appExited id)
  else if s.domain = .manager then (.ok (), s)
  else (.error ("stopped " ++ id.value ++ " while manager domain was unexpectedly " ++ s.domain.debug), s)

def settleInput (id : AppId) (s : SharedDaemon) : SharedDaemon :=
  { s with
    inputModes := Function.update s.inputModes id ((s.inputModes id).map fun input => { input with pending := false }) }

/-- The last part of `commit_launch`. -/
def commitReady (id : AppId) (answer : Answer) (s : SharedDaemon) : Except String Unit × SharedDaemon :=
  match s.apply (.appReady id) with
  | (.ok (), s) => marked answer (.ok (), s.settleInput id)
  | refused => refused

def edit (s : SharedDaemon) : Edit → SharedDaemon
  | .manifests manifests => { s with manifests }
  | .session id session => { s with sessions := Function.update s.sessions id session }
  | .generation id generation => { s with generations := Function.update s.generations id generation }
  | .backgroundExecution id policy => { s with backgroundExecution := Function.update s.backgroundExecution id policy }
  | .foregroundFence id fence => { s with foregroundFences := Function.update s.foregroundFences id fence }
  | .inputMode id input => { s with inputModes := Function.update s.inputModes id input }
  | .exitReport id pending => { s with exitReports := Function.update s.exitReports id pending }
  | .missingObservation id => { s with missingObservations := Function.update s.missingObservations id none }
  | .clearGenerations => { s with generations := fun _ => none }
  | .clearBackgroundExecution => { s with backgroundExecution := fun _ => none }
  | .clearForegroundFences => { s with foregroundFences := fun _ => none }
  | .clearInputModes => { s with inputModes := fun _ => none }
  | .coverClosed coverClosed => { s with coverClosed }
  | .coverResumeApp coverResumeApp => { s with coverResumeApp }

/-- `reserve_runner_report`. -/
def reserveReport (id : AppId) (pending : PendingExit) (s : SharedDaemon) : Bool × SharedDaemon :=
  match s.exitReports id with
  | some existing =>
    if existing = pending ∨ existing.generation = pending.generation ∧ existing.source = .controlled then (false, s)
    else (true, s.edit (.exitReport id (some pending)))
  | none => (true, s.edit (.exitReport id (some pending)))

/-- The update of a pending mode, while the application is on its way to the foreground. -/
def setPendingMode (token : AppToken) (mode : InputMode) (s : SharedDaemon) : Option (Except String Bool) × SharedDaemon :=
  if s.domain = .launching token.appId ∨ s.domain = .parking token.appId then
    match s.inputModes token.appId with
    | none => (some (.error ("application " ++ token.appId.value ++ " has no pending input fence")), s)
    | some input =>
      if !input.matches' token then
        (some (.error ("application " ++ token.appId.value ++ " supplied a stale input-mode token")), s)
      else if !input.pending then
        (some (.error ("application " ++ token.appId.value ++ " input fence is not pending")), s)
      else match input.validateMode token.appId mode with
        | .error error => (some (.error error), s)
        | .ok inkEnabled => (some (.ok inkEnabled), s.edit (.inputMode token.appId (some { input with mode })))
  else (none, s)

end SharedDaemon

/-- What a call that is carried out does to the world. -/
def Call.effect {β : Type} : Call β → SharedDaemon → SharedDaemon
  | .start (.app id), s => { s with units := Function.update s.units id true }
  | .startAndWait (.app id), s => { s with units := Function.update s.units id true }
  | .restart (.app id), s => { s with units := Function.update s.units id true }
  | .stopAndWait (.app id), s => { s with units := Function.update s.units id false }
  | .stopAndWait .everyApp, s => { s with units := fun _ => false }
  | .stopAndWait .display, s => { s with display := {} }
  | .setForeground key generation epoch, s =>
    { s with display := { s.display with foreground := some ⟨key, generation, epoch⟩, inkEnabled := false } }
  | .activateForeground key generation epoch inkEnabled, s =>
    { s with display := { s.display with foreground := some ⟨key, generation, epoch⟩, inkEnabled } }
  | .clearForeground, s => { s with display := { s.display with foreground := none, inkEnabled := false } }
  | .configureInk _ _ _ inkEnabled, s => { s with display := { s.display with inkEnabled } }
  | .showLock key generation epoch sleepEpoch, s =>
    { s with display := { s.display with
      foreground := some ⟨key, generation, epoch⟩
      inkEnabled := false
      lockEpoch := sleepEpoch
      lockCommitted := true } }
  | .cancelLock _ _, s => { s with display := { s.display with lockEpoch := 0, lockCommitted := false } }
  | _, s => s

/-- What a call that succeeds answers. -/
def Call.reply {β : Type} : Call β → Answer → SharedDaemon → β
  | .isActive (.app id), _, s => s.units id
  | .isActive _, answer, _ => answer.flag
  | .resumeWakeGuard, answer, _ => answer.flag
  | .loadManifests, answer, _ => answer.manifests
  | .validateOpenPath _ path, _, _ => path
  | .awaitBackground .., answer, _ => answer.payload
  | .displayStatus, _, s => s.display
  | .waitSurfaceSequence .., _, s => s.display
  | .start _, _, _ | .startAndWait _, _, _ | .stopAndWait _, _, _ | .restart _, _, _ | .thawAndWait _, _, _
  | .freezeAndWait _, _, _ | .startManagedBackground _, _, _ | .startWorker, _, _ | .enterManaged, _, _
  | .restoreSystem, _, _ | .suspend, _, _ | .acquireWakelock, _, _ | .grab _, _, _ | .armWakeGuard, _, _
  | .cancelWakeGuard, _, _ | .setForegroundMarker _, _, _ | .saveSession _, _, _ | .removeSession _, _, _
  | .publishDescriptor _, _, _ | .clearPhaseMarkers _, _, _ | .enterForeground .., _, _ | .enterBackground _, _, _
  | .shutdown _, _, _ | .detectDevice, _, _ | .prepareBundle, _, _ | .installBundle _, _, _ | .rollbackBundle _, _, _
  | .uninstallBundle _, _, _ | .awaitApplication .., _, _ | .awaitReady .., _, _ | .waitReady, _, _ | .waitSurface _, _, _
  | .setForeground .., _, _ | .prepareForeground .., _, _ | .activateForeground .., _, _ | .clearForeground, _, _
  | .configureInk .., _, _ | .showLock .., _, _ | .cancelLock .., _, _ | .notifyHome _, _, _ => ()

/-- What the display host refuses by what it has committed. -/
def Call.refused {β : Type} : Call β → SharedDaemon → Bool
  | .setForeground .., s | .prepareForeground .., s | .activateForeground .., s | .clearForeground, s =>
    s.display.lockEpoch ≠ 0
  | .configureInk key generation epoch _, s =>
    s.display.lockEpoch ≠ 0 ∨ s.display.foreground ≠ some ⟨key, generation, epoch⟩
  | .cancelLock sleepEpoch _, s => s.display.lockEpoch ≠ sleepEpoch ∨ !s.display.lockCommitted
  | _, _ => false

def Call.exec {β : Type} (call : Call β) (answer : Answer) (s : SharedDaemon) : Except String β × SharedDaemon :=
  if call.refused s then (.error answer.error, s)
  else if answer.ok then (.ok (call.reply answer s), call.effect s)
  else (.error answer.error, if answer.took then call.effect s else s)

def Question.answered : Question → Answer → SharedDaemon → Bool
  | .maybeActive (.app id), answer, s => !answer.ok || s.units id
  | _, answer, _ => answer.flag

/-- The table of input modes is free for the task. -/
def SharedDaemon.modesFree (me : Nat) (s : SharedDaemon) : Bool := (s.locks .inputModes).all (· = me)

/-- `QueuedEvent::new`. -/
def SharedDaemon.newEvent (event : Event) (s : SharedDaemon) : QueuedEvent × SharedDaemon :=
  let launchInterruptEpoch := if event.interruptsLaunch then s.launchInterruptEpoch + 1 else s.launchInterruptEpoch
  (⟨s.requests, event, launchInterruptEpoch⟩, { s with launchInterruptEpoch, requests := s.requests + 1 })

def SharedDaemon.push (queued : QueuedEvent) (s : SharedDaemon) : SharedDaemon := { s with queue := s.queue ++ [queued] }

def Op.ready (me : Nat) {β : Type} : Op β → SharedDaemon → Bool
  | .acquire lock, s => (s.locks lock).isNone
  | .readModes _, s => s.modesFree me
  | .edit (.inputMode ..), s => s.modesFree me
  | .edit .clearInputModes, s => s.modesFree me
  | .setPendingMode .., s => s.modesFree me
  | _, _ => true

def Op.exec (me : Nat) {β : Type} : Op β → Answer → SharedDaemon → β × SharedDaemon
  | .read look, _, s => (look s, s)
  | .readModes look, _, s => (look s, s)
  | .acquire lock, _, s => ((), { s with locks := Function.update s.locks lock (some me) })
  | .release lock failed, _, s =>
    ((), { s with
      locks := Function.update s.locks lock none
      owed := if lock = .transition ∧ me = loopTask then failed else s.owed })
  | .assess, _, s => (s.domain, { s with owed := s.owed && !s.domain.atRest })
  | .apply transition, _, s => s.apply transition
  | .beginRestore, _, s => ((), { s with state := { s.state with domain := .restoringSystem } })
  | .beginPark id returningSystem, _, s => s.beginPark id returningSystem
  | .finishPark id, _, s => s.finishPark id
  | .appParked id, _, s => s.appParked id
  | .appReady id, answer, s => s.appReady id answer
  | .closed id wasForeground, _, s => s.closed id wasForeground
  | .stopped id, _, s => s.stopped id
  | .commitReady id, answer, s => s.commitReady id answer
  | .beginCommit request, _, s =>
    if s.fences request = .pending then
      (true, { s with
        fences := Function.update s.fences request .committing
        begunAt := Function.update s.begunAt request (some s.launchInterruptEpoch) })
    else (false, s)
  | .rolledBack _, _, s => ((), s)
  | .allocateGeneration, _, s => (max s.nextGeneration 1, { s with nextGeneration := s.nextGeneration + 1 })
  | .allocateForegroundEpoch, _, s =>
    (max s.nextForegroundEpoch 1, { s with nextForegroundEpoch := s.nextForegroundEpoch + 1 })
  | .allocateSleepEpoch, _, s => (max s.nextSleepEpoch 1, { s with nextSleepEpoch := s.nextSleepEpoch + 1 })
  | .edit change, _, s => ((), s.edit change)
  | .takeGeneration id generation, _, s =>
    if generation ≠ 0 ∧ s.generations id = some generation then (true, s.edit (.generation id none)) else (false, s)
  | .consumeReport id pending, _, s =>
    if s.exitReports id = some pending then (true, s.edit (.exitReport id none)) else (false, s)
  | .reserveReport id pending, _, s => s.reserveReport id pending
  | .releaseReport id pending, _, s =>
    ((), if s.exitReports id = some pending then s.edit (.exitReport id none) else s)
  | .setPendingMode token mode, _, s => s.setPendingMode token mode
  | .takeCoverResumeApp, _, s => (s.coverResumeApp, { s with coverResumeApp := none })
  | .sleep operation, _, s =>
    match operation.call s.sleep with
    | .ok after => (.ok after, { s with sleep := after })
    | .error refusal => (.error refusal, s)
  | .post event interactionEpoch, _, s => ((), { s with posted := s.posted ++ [(event, interactionEpoch)] })
  | .send event, answer, s =>
    if answer.ok then (true, (s.newEvent event).2.push (s.newEvent event).1) else (false, (s.newEvent event).2)
  | .ask question, answer, s => (question.answered answer s, s)
  | .call made, answer, s => made.exec answer s

/-- The operations as the task performs them. -/
def operations (me : Nat) : Programs.Meaning Op Answer SharedDaemon where
  ready := Op.ready me
  exec := Op.exec me

/-- A part of a task of the daemon, which may fail with a message. -/
abbrev Job (α : Type) := Programs.Job Op String α

end Remagic.Daemon
