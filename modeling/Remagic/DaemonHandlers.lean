import Remagic.DaemonState

/-!
# What the daemon does

The handlers of the daemon's events and of the requests of its control clients, as the
tasks perform them: each operation on what they share is one step.
-/

namespace Remagic.Daemon
open Supervisor
open Programs (Program)
open Programs.Job (require ofOption ofResult outcome mapError doIf handle each)

/-! ## Operations -/

def perform {α : Type} (op : Op α) : Job α := Programs.Job.op op

def attempt {α : Type} (op : Op (Except String α)) : Job α := Programs.Job.try' op

def read {α : Type} (look : SharedDaemon → α) : Job α := perform (.read look)

def edit (change : Edit) : Job Unit := perform (.edit change)

def call {α : Type} (made : Call α) : Job α := attempt (.call made)

/-- A call whose failure the daemon looks at itself. -/
def tried {α : Type} (made : Call α) : Job (Except String α) := perform (.call made)

def ask (question : Question) : Job Bool := perform (.ask question)

/-- Hold the transition lock. -/
def locked {α : Type} (body : Job α) : Job α := do
  perform (.acquire .transition)
  let result ← outcome body
  perform (.release .transition (!result.isOk))
  ofResult result

/-- Hold a lock that no transition depends on. -/
def holding {α : Type} (lock : Lock) (body : Job α) : Job α := do
  perform (.acquire lock)
  let result ← outcome body
  perform (.release lock false)
  ofResult result

def getDomain : Job DomainState := read SharedDaemon.domain

/-! ## The sessions -/

def saveSession (session : AppSession) : Job Unit := do
  call (.saveSession session)
  edit (.session session.appId (some session))

def removeSession (id : AppId) : Job Unit := do
  call (.removeSession id)
  edit (.session id none)

def markSessionProcessStopped (id : AppId) : Job Unit := do
  match ← read fun s => s.sessions id with
  | none => pure ()
  | some session =>
    if session.status = .background then saveSession { session with status := .parked } else pure ()

/-! ## Background services -/

def AppManifest.backgroundUnit (manifest : AppManifest) : Option ServiceUnit :=
  manifest.backgroundService.map fun service => match service with
    | .systemd unit => .background unit
    | .managed => managedBackgroundUnit manifest.id

def ensureBackgroundService (manifest : AppManifest) : Job Unit := do
  match manifest.backgroundService with
  | some (.systemd unit) =>
    let active ← call (.isActive (.background unit))
    if active then pure () else call (.startAndWait (.background unit))
  | some .managed =>
    if manifest.hasCapability "agent:pi-v1" then
      let _ ← perform .allocateGeneration
      call (.startManagedBackground manifest.id)
    else call (.startManagedBackground manifest.id)
  | none => pure ()

def startDeclaredBackgroundServices : Job Unit := do
  let manifests ← read SharedDaemon.manifests
  each (fun manifest => do let _ ← outcome (ensureBackgroundService manifest)) manifests

def stopBackgroundService (manifest : Option AppManifest) : Job Unit :=
  match manifest.bind AppManifest.backgroundUnit with
  | some unit => call (.stopAndWait unit)
  | none => pure ()

/-! ## Home's surface -/

def showManagerSurface : Job Unit := do
  call (.waitSurface homeSurfaceKey)
  let generation ← perform .allocateGeneration
  let epoch ← perform .allocateForegroundEpoch
  call (.setForeground homeSurfaceKey generation epoch)

def restartRuntimeAndWait : Job Unit := do
  call (.restart .home)
  call (.waitSurface homeSurfaceKey)
  showManagerSurface

def ensureManagerSurface : Job Unit := do
  if (← getDomain) ≠ .manager then return
  let displayActive ← call (.isActive .display)
  require displayActive "managed display host stopped while manager owned the domain"
  let homeActive ← call (.isActive .home)
  doIf (!homeActive) (call (.start .home))
  call (.waitSurface homeSurfaceKey)
  match ← tried .displayStatus with
  | .ok display =>
    if display.foreground.map DisplayLease.key = some homeSurfaceKey then pure () else showManagerSurface
  | .error _ => showManagerSurface

/-! ## Stopping processes -/

/-- Thaw a frozen unit, so that it can end. -/
def thawIfFrozen (policy : Option BackgroundExecution) (id : AppId) (describe : String → String) : Job Unit := do
  if (policy.map BackgroundExecution.freezesProcess).getD false then
    let active ← call (.isActive (.app id))
    if active then mapError describe (call (.thawAndWait (.app id)))

def clearRuntimeTracking (id : AppId) : Job Unit := do
  edit (.generation id none)
  edit (.backgroundExecution id none)
  edit (.foregroundFence id none)
  edit (.inputMode id none)
  edit (.exitReport id none)
  edit (.missingObservation id)

def stopManagedApp (manifest : AppManifest) : Job Unit := do
  let policy ← read fun s => s.backgroundExecution manifest.id
  thawIfFrozen policy manifest.id
    fun error => "could not thaw " ++ manifest.id.value ++ " before system restore: " ++ error
  call (.stopAndWait (.app manifest.id))
  let _ ← outcome (markSessionProcessStopped manifest.id)

def stopManagedApps : Job Unit := do
  let manifests ← read SharedDaemon.manifests
  each stopManagedApp manifests

/-! ## The stock system -/

def restoreSystem : Job Unit := locked do
  if (← getDomain) = .system then return
  perform .beginRestore
  let _ ← attempt (.sleep .reset)
  let _ ← tried .cancelWakeGuard
  let _ ← tried .clearForeground
  call (.stopAndWait .home)
  stopManagedApps
  call (.stopAndWait .everyApp)
  call (.stopAndWait .runtime)
  call (.stopAndWait .display)
  edit .clearGenerations
  edit .clearBackgroundExecution
  edit .clearForegroundFences
  edit .clearInputModes
  let _ ← tried (.setForegroundMarker none)
  call .restoreSystem
  call (.grab false)
  attempt (.apply .systemReady)

def ensureManagerOrRestore : Job Unit := do
  match ← outcome ensureManagerSurface with
  | .ok () => pure ()
  | .error _ => restoreSystem

def queueCoverClosedIfCurrent : Job Unit := do
  if ← read SharedDaemon.coverClosed then
    let _ ← perform (.send .coverClosed)

def enterManager : Job Unit := locked do
  attempt (.apply .triplePower)
  call (.grab true)
  call .enterManaged
  call (.setForegroundMarker none)
  call (.start .display)
  call .waitReady
  call (.start .home)
  call (.waitSurface homeSurfaceKey)
  showManagerSurface
  attempt (.apply .managedReady)
  queueCoverClosedIfCurrent

/-! ## Parking -/

structure ForegroundFence where
  generation : Nat
  foregroundEpoch : Nat
  leaseId : Nat
  deriving DecidableEq

def initialInputMode (manifest : AppManifest) : InputMode :=
  if manifest.hasCapability "input:mode-v2" then .animationLocked
  else if manifest.hasCapability "ink:direct-v1" then .writing
  else .animationLocked

/-- `AppToken::validate`. -/
def validateToken (token : AppToken) : Except String Unit :=
  if token.generation = 0 then .error ("process generation must be non-zero for " ++ token.appId.value)
  else if token.leaseId = some 0 then .error ("lease id must be non-zero for " ++ token.appId.value)
  else .ok ()

def RuntimeInputState.ofToken (token : AppToken) (manifest : AppManifest) : Except String RuntimeInputState :=
  match validateToken token, token.leaseId with
  | .error error, _ => .error error
  | .ok (), none => .error "input-mode token has no display lease"
  | .ok (), some leaseId =>
    if token.foregroundEpoch = 0 then .error "input-mode token has zero foreground epoch"
    else .ok
      { generation := token.generation
        foregroundEpoch := token.foregroundEpoch
        leaseId
        mode := initialInputMode manifest
        dynamicAllowed := manifest.hasCapability "input:mode-v2"
        directInkAllowed := manifest.hasCapability "ink:direct-v1"
        pending := true }

def foregroundFenceIfSupported (id : AppId) (manifest : AppManifest) : Job (Option ForegroundFence) := do
  if !manifest.supportsLifecycleV2 then return none
  let generation ← ofOption (← read fun s => s.generations id)
    ("application " ++ id.value ++ " has no supervised generation")
  let (foregroundEpoch, leaseId) ← ofOption (← read fun s => s.foregroundFences id)
    ("application " ++ id.value ++ " has no foreground lease")
  return some { generation, foregroundEpoch, leaseId }

def sendBackgroundIfSupported (id : AppId) (manifest : AppManifest) (fence : Option ForegroundFence) :
    Job (Option (Option String)) := do
  if !manifest.supportsLifecycleV2 then return none
  let _ ← ofOption manifest.runtimeDir ("application " ++ id.value ++ " has no runtime directory")
  let fence ← ofOption fence ("application " ++ id.value ++ " lost its foreground fence")
  call (.enterBackground id)
  let payload ← call (.awaitBackground id fence.generation fence.foregroundEpoch)
  return some payload

def parkedSession (id : AppId) (manifest : AppManifest) (lifecycle : Option (Option String)) : Job AppSession := do
  let previous ← read fun s => (s.sessions id).bind AppSession.resumePayload
  return {
    appId := id
    status := if manifest.resident then .background else .parked
    resumePayload := (lifecycle.getD none <|> previous) <|>
      if lifecycle.isNone then some "\x7b\"parked\":true\x7d" else none }

def finishParkTransition (id : AppId) : Job Unit := do
  call (.setForegroundMarker none)
  attempt (.finishPark id)

/-- Hand the display on to Home, or to no one. -/
def handOver (showManager : Bool) : Job Unit := if showManager then showManagerSurface else call .clearForeground

def completePark (id : AppId) (manifest : AppManifest) (fence : Option ForegroundFence) (showManager : Bool) : Job Unit := do
  let lifecycle ← sendBackgroundIfSupported id manifest fence
  let session ← parkedSession id manifest lifecycle
  saveSession session
  require ((← getDomain) = .parking id)
    ("park ownership for " ++ id.value ++ " changed before display handoff")
  call (.setForegroundMarker none)
  handOver showManager
  let policy ← ofOption (← read fun s => s.backgroundExecution id)
    ("application " ++ id.value ++ " lost its scheduling policy during park")
  doIf policy.freezesProcess <|
    mapError (fun error => "could not freeze background application " ++ id.value ++ ": " ++ error)
      (call (.freezeAndWait (.app id)))
  finishParkTransition id

def validateRecoveryFence (id : AppId) (fence : ForegroundFence) : Job Unit := do
  require ((← getDomain) = .parking id) ("park recovery for " ++ id.value ++ " no longer owns Parking")
  let generation ← read fun s => s.generations id
  let current ← read fun s => s.foregroundFences id
  require (generation = some fence.generation && current = some (fence.foregroundEpoch, fence.leaseId))
    ("park recovery for " ++ id.value ++ " lost its original runtime fence")

def commitRestoredForeground (token : AppToken) : Job Unit := holding .inputModes do
  let input ← ofOption (← perform (.readModes fun s => s.inputModes token.appId))
    ("application " ++ token.appId.value ++ " lost its recovery input fence")
  require (input.matches' token && input.pending)
    ("application " ++ token.appId.value ++ " input fence changed during park recovery")
  call (.activateForeground (appSurfaceKey token.appId) token.generation token.foregroundEpoch input.mode.inkEnabled)
  attempt (.apply (.appRestored token.appId))
  edit (.inputMode token.appId (some { input with pending := false }))
  call (.setForegroundMarker (some token.appId))

def restoreForegroundAfterFailedPark (id : AppId) (manifest : AppManifest) (fence : ForegroundFence) : Job Unit := do
  validateRecoveryFence id fence
  let active ← call (.isActive (.app id))
  require active ("application " ++ id.value ++ " exited during park recovery")
  let policy ← ofOption (← read fun s => s.backgroundExecution id)
    ("application " ++ id.value ++ " lost its scheduling policy during recovery")
  doIf policy.freezesProcess <|
    mapError (fun error => "could not thaw " ++ id.value ++ " for park recovery: " ++ error)
      (call (.thawAndWait (.app id)))
  let _ ← ofOption manifest.runtimeDir ("application " ++ id.value ++ " has no runtime directory")
  let foregroundEpoch ← perform .allocateForegroundEpoch
  let token : AppToken := ⟨id, fence.generation, foregroundEpoch, some foregroundEpoch⟩
  edit (.foregroundFence id (some (foregroundEpoch, foregroundEpoch)))
  let input ← ofResult (RuntimeInputState.ofToken token manifest)
  edit (.inputMode id (some input))
  call (.prepareForeground (appSurfaceKey id) fence.generation foregroundEpoch)
  call (.enterForeground id foregroundEpoch foregroundEpoch)
  call (.awaitReady id fence.generation foregroundEpoch)
  let active ← call (.isActive (.app id))
  require active ("application " ++ id.value ++ " exited before foreground recovery commit")
  commitRestoredForeground token

def forceStopAfterFailedPark (id : AppId) : Job Unit := do
  let policy ← read fun s => s.backgroundExecution id
  thawIfFrozen policy id fun error => error
  mapError (fun error => "could not stop " ++ id.value ++ ": " ++ error) (call (.stopAndWait (.app id)))
  markSessionProcessStopped id
  clearRuntimeTracking id
  attempt (.stopped id)
  call (.setForegroundMarker none)
  showManagerSurface

def recoverFailedPark (id : AppId) (manifest : AppManifest) (fence : Option ForegroundFence) : Job String := do
  let restored ← outcome <| match fence with
    | some fence => restoreForegroundAfterFailedPark id manifest fence
    | none => throw "application does not support fenced lifecycle recovery"
  match restored with
  | .ok () => return "application foreground was restored with a new lease"
  | .error error =>
    mapError (fun stop => "foreground restore failed (" ++ error ++ "); forced stop failed (" ++ stop ++ ")")
      (forceStopAfterFailedPark id)
    return "foreground restore failed (" ++ error ++ "); application was stopped and manager ownership was restored"

def park (id : AppId) (returningSystem showManager : Bool) : Job Unit := locked do
  let manifest ← ofOption (← read fun s => s.manifest id) ("unknown application " ++ id.value)
  let fence ← foregroundFenceIfSupported id manifest
  attempt (.beginPark id returningSystem)
  match ← outcome (completePark id manifest fence showManager) with
  | .ok () => pure ()
  | .error cause =>
    match ← outcome (recoverFailedPark id manifest fence) with
    | .ok summary => throw (cause ++ "; " ++ summary)
    | .error error => throw (cause ++ "; park recovery failed: " ++ error)

def recordParked (session : AppSession) : Job Unit := do
  let manifest ← read fun s => s.manifest session.appId
  if (manifest.map AppManifest.supportsLifecycleV2).getD false then return
  if (← getDomain) ≠ .parking session.appId then return
  saveSession session
  call (.setForegroundMarker none)
  attempt (.appParked session.appId)

/-! ## Launching -/

inductive LaunchRoute where
  | alreadyForeground
  | park (app : AppId)
  | manager

def launchRoute (domain : DomainState) (id : AppId) (noPath : Bool) : Except String LaunchRoute :=
  match domain with
  | .foreground current => .ok (if current = id ∧ noPath then .alreadyForeground else .park current)
  | .manager => .ok .manager
  | _ => .error "applications can only be launched from manager or foreground app"

structure LaunchContext where
  id : AppId
  manifest : AppManifest
  active : Bool
  generation : Nat
  backgroundExecution : BackgroundExecution
  foregroundEpoch : Nat
  backgroundQuiesced : Bool

def LaunchContext.token (context : LaunchContext) : AppToken :=
  ⟨context.id, context.generation, context.foregroundEpoch, some context.foregroundEpoch⟩

def ensureLaunchCurrent (queued : QueuedEvent) : Job Unit := do
  let cancelled ← read fun s => decide (s.fences queued.request = .cancelled)
  require (!cancelled) "application launch was superseded by a newer interaction"
  let epoch ← read SharedDaemon.launchInterruptEpoch
  require (epoch = queued.interruptEpoch) "application launch was superseded by a newer interaction"

def validateExistingRuntime (id : AppId) : Job Bool := do
  let active ← call (.isActive (.app id))
  let generation ← read fun s => s.generations id
  let fence ← read fun s => s.foregroundFences id
  let scheduling ← read fun s => s.backgroundExecution id
  if active && (generation.isNone || fence.isNone || scheduling.isNone) then
    let thawed ← tried (.thawAndWait (.app id))
    match ← tried (.stopAndWait (.app id)), thawed with
    | .error stopError, .error thawError =>
      throw ("could not settle stale runtime " ++ (ServiceUnit.app id).name ++ ": thaw failed: " ++ thawError ++
        "; stop failed: " ++ stopError)
    | .error stopError, .ok () => throw stopError
    | .ok (), _ =>
      markSessionProcessStopped id
      edit (.generation id none)
      edit (.foregroundFence id none)
      edit (.backgroundExecution id none)
      return false
  else return active

/-- The scheduling policy of the generation: the one captured, or the one declared. -/
def capturedExecution (active : Bool) (captured : Option BackgroundExecution) (declared : BackgroundExecution)
    (id : AppId) : Except String BackgroundExecution :=
  match active, captured with
  | false, _ => .ok declared
  | true, some policy => .ok policy
  | true, none => .error ("active application " ++ id.value ++ " lost its scheduling policy")

def checkOpenPath (id : AppId) : Option String → Job Unit
  | some path => do let _ ← call (.validateOpenPath id path)
  | none => pure ()

/-- A background service writes what a migration of the data is to read, and waits for it. -/
def prepareBackground (manifest : AppManifest) (quiesced : Bool) : Job Unit :=
  if quiesced then
    match manifest.backgroundUnit with
    | some unit => call (.stopAndWait unit)
    | none => pure ()
  else ensureBackgroundService manifest

def launchGeneration (id : AppId) (active : Bool) : Job Nat := do
  if active then
    ofOption (← read fun s => s.generations id) ("active application " ++ id.value ++ " lost its generation")
  else perform .allocateGeneration

def prepareLaunch (id : AppId) (openPath : Option String) : Job LaunchContext := do
  let manifest ← ofOption (← read fun s => s.manifest id) ("unknown application " ++ id.value)
  require (manifest.display = "qtfb")
    ("application " ++ id.value ++ " is a headless system component and cannot enter the foreground")
  let present ← ask (.executableExists id)
  require present "application executable is missing"
  checkOpenPath id openPath
  let active ← validateExistingRuntime id
  prepareBackground manifest (!active && manifest.hasDataSchema)
  let generation ← launchGeneration id active
  let captured ← read fun s => s.backgroundExecution id
  let backgroundExecution ← ofResult (capturedExecution active captured manifest.backgroundExecution id)
  let foregroundEpoch ← perform .allocateForegroundEpoch
  let _ ← ofOption manifest.runtimeDir ("application " ++ id.value ++ " has no runtime directory")
  return { id, manifest, active, generation, backgroundExecution, foregroundEpoch,
           backgroundQuiesced := !active && manifest.hasDataSchema }

def registerRuntime (context : LaunchContext) : Job Unit := do
  edit (.generation context.id (some context.generation))
  edit (.backgroundExecution context.id (some context.backgroundExecution))
  edit (.foregroundFence context.id (some (context.foregroundEpoch, context.foregroundEpoch)))
  let input ← ofResult (RuntimeInputState.ofToken context.token context.manifest)
  edit (.inputMode context.id (some input))

def resumeOrStart (context : LaunchContext) : Job Unit := do
  if context.active then
    doIf context.backgroundExecution.freezesProcess <|
      mapError (fun error => "could not thaw " ++ context.id.value ++ " before foreground recall: " ++ error)
        (call (.thawAndWait (.app context.id)))
    call (.enterForeground context.id context.foregroundEpoch context.foregroundEpoch)
  else
    call (.clearPhaseMarkers context.id)
    call (.start (.app context.id))

def activateAndWait (context : LaunchContext) (queued : QueuedEvent) : Job Unit := do
  ensureLaunchCurrent queued
  call (.publishDescriptor context.id)
  registerRuntime context
  resumeOrStart context
  call (.awaitApplication context.id context.generation context.foregroundEpoch)
  ensureLaunchCurrent queued
  let active ← call (.isActive (.app context.id))
  require active (context.id.value ++ " exited before foreground commit")
  ensureBackgroundService context.manifest
  ensureLaunchCurrent queued
  ensureLaunchCurrent queued

def commitLaunch (context : LaunchContext) (queued : QueuedEvent) : Job Unit := do
  ensureLaunchCurrent queued
  let committing ← perform (.beginCommit queued.request)
  require committing "application launch was cancelled before foreground commit"
  let epoch ← read SharedDaemon.launchInterruptEpoch
  require (epoch = queued.interruptEpoch) "application launch was superseded at foreground commit"
  holding .inputModes do
    let input ← ofOption (← perform (.readModes fun s => s.inputModes context.id))
      ("application " ++ context.id.value ++ " lost its pending input fence")
    require (input.matches' context.token && input.pending)
      ("application " ++ context.id.value ++ " input fence changed before foreground commit")
    call (.prepareForeground (appSurfaceKey context.id) context.generation context.foregroundEpoch)
    call (.activateForeground (appSurfaceKey context.id) context.generation context.foregroundEpoch input.mode.inkEnabled)
    attempt (.commitReady context.id)

def rollbackLaunch (context : LaunchContext) : Job Unit := do
  thawIfFrozen (some context.backgroundExecution) context.id
    fun error => "could not thaw " ++ context.id.value ++ " during launch rollback: " ++ error
  mapError (fun error => "could not stop " ++ (ServiceUnit.app context.id).name ++ ": " ++ error)
    (call (.stopAndWait (.app context.id)))
  markSessionProcessStopped context.id
  let _ ← ask (.descriptorRemoved context.id)
  clearRuntimeTracking context.id
  mapError (fun error => "could not roll back launch state: " ++ error) (attempt (.apply (.appExited context.id)))
  mapError (fun error => "could not restore manager surface: " ++ error) showManagerSurface
  let complete ← ask (.schemaComplete context.id context.generation)
  if !context.backgroundQuiesced || complete then
    mapError (fun error => "could not restore background service: " ++ error) (ensureBackgroundService context.manifest)

def rollbackError (context : LaunchContext) (cause : String) : Job String := do
  match ← outcome (rollbackLaunch context) with
  | .ok () =>
    perform (.rolledBack context.id)
    return cause ++ "; " ++ context.id.value ++ " launch was rolled back"
  | .error error =>
    return cause ++ "; " ++ context.id.value ++ " rollback failed and requires domain recovery: " ++ error

/-- The part of a launch under the transition lock. -/
def launchFromManager (id : AppId) (openPath : Option String) (queued : QueuedEvent) : Job Unit := do
  require ((← getDomain) = .manager) "manager did not become ready for application launch"
  let context ← prepareLaunch id openPath
  match ← outcome (attempt (.apply (.launch context.id))) with
  | .error error =>
    let _ ← outcome (ensureBackgroundService context.manifest)
    throw error
  | .ok () =>
    match ← outcome (activateAndWait context queued) with
    | .error error => throw (← rollbackError context error)
    | .ok () =>
      match ← outcome (commitLaunch context queued) with
      | .error error => throw (← rollbackError context error)
      | .ok () => pure ()

def launchCurrent (id : AppId) (openPath : Option String) (queued : QueuedEvent) : Job Unit := do
  ensureLaunchCurrent queued
  locked (launchFromManager id openPath queued)

def launch (id : AppId) (openPath : Option String) (queued : QueuedEvent) : Job Unit := do
  ensureLaunchCurrent queued
  match ← ofResult (launchRoute (← getDomain) id openPath.isNone) with
  | .alreadyForeground => pure ()
  | .park current =>
    park current false false
    launchCurrent id openPath queued
  | .manager => launchCurrent id openPath queued

/-! ## Closing and exits -/

def reserveControlledExit (id : AppId) : Job (Option PendingExit) := do
  match ← read fun s => s.generations id with
  | none => return none
  | some generation =>
    let pending : PendingExit := ⟨generation, .controlled⟩
    edit (.exitReport id (some pending))
    return some pending

def releaseControlledExit (id : AppId) (pending : Option PendingExit) : Job Unit :=
  match pending with
  | none => pure ()
  | some pending => perform (.releaseReport id pending)

def thawBeforeShutdown (id : AppId) : Job Unit := do
  let policy ← read fun s => s.backgroundExecution id
  thawIfFrozen policy id fun error => "could not thaw " ++ id.value ++ " before shutdown: " ++ error

def requestShutdown (id : AppId) (manifest : Option AppManifest) : Job Unit := do
  let active ← ask (.maybeActive (.app id))
  if active && (manifest.bind AppManifest.runtimeDir).isSome then
    let _ ← tried (.shutdown id)

def revealManagerBeforeClose : Job Unit := do
  attempt (.apply .singlePower)
  call (.setForegroundMarker none)
  showManagerSurface

/-- What `close` does once the exit of the process is reserved. -/
def closeReserved (id : AppId) (complete wasForeground : Bool) (manifest : Option AppManifest) : Job Unit := do
  thawBeforeShutdown id
  requestShutdown id manifest
  doIf wasForeground revealManagerBeforeClose
  call (.stopAndWait (.app id))
  clearRuntimeTracking id
  attempt (.closed id wasForeground)
  removeSession id
  doIf complete (stopBackgroundService manifest)

def close (id : AppId) (complete : Bool) : Job Unit := locked do
  let domain ← getDomain
  let manifest ← read fun s => s.manifest id
  let controlled ← reserveControlledExit id
  match ← outcome (closeReserved id complete (domain = .foreground id) manifest) with
  | .ok () => pure ()
  | .error error =>
    releaseControlledExit id controlled
    throw error

def ownsDomain (domain : DomainState) (id : AppId) : Bool :=
  domain = .launching id ∨ domain = .foreground id ∨ domain = .parking id

def updateSessionAfterExit (id : AppId) (exitCode : Int) (crashed : Bool) : Job Unit := do
  if !crashed then removeSession id
  else
    let existing ← read fun s => s.sessions id
    saveSession
      { appId := id
        status := .crashed
        resumePayload := existing.bind AppSession.resumePayload
        lastError := some ("process exited with code " ++ toString exitCode) }

def recordRuntimeExit (id : AppId) (generation : Nat) (exitCode : Int) (reportedCrash : Bool)
    (source : ExitReportSource) : Job Unit := locked do
  let accepted ← perform (.consumeReport id ⟨generation, source⟩)
  if !accepted then return
  edit (.missingObservation id)
  let taken ← perform (.takeGeneration id generation)
  if !taken then return
  edit (.foregroundFence id none)
  edit (.backgroundExecution id none)
  edit (.inputMode id none)
  let crashed := reportedCrash || exitCode != 0
  let domain ← getDomain
  let wasForeground : Bool := domain = .foreground id
  doIf wasForeground (call (.setForegroundMarker none))
  doIf (ownsDomain domain id) (attempt (.apply (if crashed then .appCrashed id else .appExited id)))
  doIf wasForeground showManagerSurface
  updateSessionAfterExit id exitCode crashed

/-! ## Sleeping -/

def retainedLockError (cause : String) : String := cause ++ "; lock screen retained"

def isRetainedLockError (error : String) : Bool := "; lock screen retained".toList.isSuffixOf error.toList

def requestHomeUnlock : Job Unit := call (.notifyHome "resume_unlock\n")

/-- `schedule_locked_resuspend`. -/
def scheduleLockedResuspend (sleep : SleepSnapshot) : Job Unit := do
  let interactionEpoch ← read SharedDaemon.launchInterruptEpoch
  perform (.post (.resuspend sleep.epoch sleep.revision interactionEpoch) interactionEpoch)

def suspendErrorRequiresBlockedRetry (error : String) : Bool :=
  "kernel suspend is blocked by active wake locks:".toList.isPrefixOf error.toList ||
    error.toList.tails.any ("active wakeup sources:".toList.isPrefixOf ·)

def scheduleFailedResuspend (error : String) (sleep : SleepSnapshot) (interactionEpoch : Nat) : Job Unit :=
  if suspendErrorRequiresBlockedRetry error then
    perform (.post (.resuspend sleep.epoch sleep.revision interactionEpoch) interactionEpoch)
  else scheduleLockedResuspend sleep

def abortWake {α : Type} (sleepEpoch : Nat) (cause : String) : Job α := do
  match ← perform (.sleep (.abortUnlock sleepEpoch)) with
  | .ok _ => throw cause
  | .error error => throw (cause ++ "; unlock transaction rollback failed: " ++ error)

/-- The display's part of a rolled back sleep. -/
def rollbackDisplayLock (sleepEpoch : Nat) : Job Unit := do
  let display ← call .displayStatus
  if display.lockEpoch = 0 then pure ()
  else if display.lockEpoch = sleepEpoch then
    require (display.homeSequence ≠ 0) "display lock rollback has no committed manager surface"
    call (.cancelLock sleepEpoch display.homeSequence)
  else throw ("display retained unexpected lock epoch " ++ toString display.lockEpoch)

def rollbackSleep {α : Type} (sleepEpoch : Nat) (cause : String) : Job α := do
  let sleep ← read SharedDaemon.sleep
  doIf (sleep.epoch = sleepEpoch ∧ (sleep.phase = .preparing ∨ sleep.phase = .locked)) do
    let _ ← mapError (fun error => cause ++ "; sleep rollback could not begin unlock: " ++ error)
      (attempt (.sleep (.beginUnlock sleepEpoch)))
  match ← tried .cancelWakeGuard with
  | .error error => abortWake sleepEpoch (cause ++ "; wake-guard rollback failed: " ++ error)
  | .ok () =>
    match ← outcome (rollbackDisplayLock sleepEpoch) with
    | .error error => abortWake sleepEpoch (cause ++ "; display-lock rollback failed: " ++ error)
    | .ok () =>
      attempt (.apply .wake)
      let _ ← attempt (.sleep (.finishUnlock sleepEpoch))
      throw cause

/-- The domain goes to sleep, or the transaction that was to be is given up. -/
def enterSleeping : Job Unit := do
  match ← perform (.apply .sleep) with
  | .ok () => pure ()
  | .error error =>
    match ← perform (.sleep .reset) with
    | .error reset => throw (error ++ "; sleep transaction reset failed: " ++ reset)
    | .ok _ => throw error

def prepareSleepLock (lockSurfaceSequence : Nat) (queued : QueuedEvent) : Job (Nat × Nat) := do
  require ((← getDomain) = .manager) "sleep button is only available in the manager"
  let committing ← perform (.beginCommit queued.request)
  require committing "sleep request was cancelled before commit"
  let interactionEpoch ← read SharedDaemon.launchInterruptEpoch
  require (lockSurfaceSequence ≠ 0) "sleep requires a committed ReMagic lock page"
  let display ← call (.waitSurfaceSequence homeSurfaceKey lockSurfaceSequence)
  require (display.foreground.map DisplayLease.key = some homeSurfaceKey) "manager lock page is not the visible surface"
  let sleepEpoch ← perform .allocateSleepEpoch
  let _ ← attempt (.sleep (.start sleepEpoch))
  enterSleeping
  let generation ← perform .allocateGeneration
  let foregroundEpoch ← perform .allocateForegroundEpoch
  handle (← tried (.showLock homeSurfaceKey generation foregroundEpoch sleepEpoch)) (rollbackSleep sleepEpoch)
  let _ ← handle (← perform (.sleep (.markLocked sleepEpoch))) (rollbackSleep sleepEpoch)
  return (sleepEpoch, interactionEpoch)

/-- The device resumed, but not for the user. -/
def retainAwakeLock (awake : SleepSnapshot) (cause : String) : Job Unit := do
  scheduleLockedResuspend awake
  throw (retainedLockError cause)

def finishPhysicalResume (sleepEpoch : Nat) (powerKey : Bool) : Job Unit := do
  let display ← call .displayStatus
  require (display.lockEpoch = sleepEpoch && display.lockCommitted &&
      display.foreground.map DisplayLease.key = some homeSurfaceKey)
    ("display lock epoch " ++ toString sleepEpoch ++ " was not retained across suspend")
  let awake ← attempt (.sleep (.markAwake sleepEpoch))
  let closed ← read SharedDaemon.coverClosed
  if closed then retainAwakeLock awake "physical resume retained the lock because the cover is closed"
  else if !powerKey then
    retainAwakeLock awake "physical resume retained the lock because no power-key wake gesture was observed"
  else
    scheduleLockedResuspend awake
    let _ ← outcome requestHomeUnlock

/-- A failed suspend leaves the lock page, and asks Home to unlock if the user did. -/
def retainAfterFailedSuspend (error : String) (interactionEpoch : Nat) : Job Unit := do
  let closed ← read SharedDaemon.coverClosed
  let current ← read SharedDaemon.launchInterruptEpoch
  doIf (!closed && current ≠ interactionEpoch) do
    let _ ← outcome requestHomeUnlock
  let sleep ← read SharedDaemon.sleep
  scheduleFailedResuspend error sleep interactionEpoch
  throw (retainedLockError error)

def sleep (lockSurfaceSequence : Nat) (queued : QueuedEvent) : Job Unit := locked do
  let (sleepEpoch, interactionEpoch) ← prepareSleepLock lockSurfaceSequence queued
  handle (← tried .armWakeGuard) (rollbackSleep sleepEpoch)
  let epoch ← read SharedDaemon.launchInterruptEpoch
  doIf (epoch ≠ interactionEpoch) (rollbackSleep sleepEpoch "sleep cancelled by newer user interaction")
  let suspended ← tried .suspend
  let wakelock ← tried .acquireWakelock
  match suspended with
  | .error error =>
    let guard ← tried .cancelWakeGuard
    mapError (fun failure => error ++ "; wake-lock recovery: " ++ failure) (ofResult wakelock)
    mapError (fun failure => error ++ "; wake-key recovery: " ++ failure) (ofResult guard)
    retainAfterFailedSuspend error interactionEpoch
  | .ok () =>
    let guard ← tried .resumeWakeGuard
    ofResult wakelock
    let powerKey ← ofResult guard
    finishPhysicalResume sleepEpoch powerKey

def armWakeGuardForLockedResuspend : Job Unit := do
  match ← tried .armWakeGuard with
  | .ok () => pure ()
  | .error error =>
    if error = "power wake guard is already armed" then
      call .cancelWakeGuard
      call .armWakeGuard
    else throw error

/-- `failures.join("; ")` of the stages that failed. -/
def stageFailures (failures : List String) : String := "; ".intercalate failures

def Except.failure {α : Type} (stage : String) : Except String α → List String
  | .ok _ => []
  | .error error => [stage ++ ": " ++ error]

def resuspendLocked (sleepEpoch sleepRevision interactionEpoch : Nat) : Job Unit := locked do
  if (← getDomain) ≠ .sleeping then return
  let current ← read SharedDaemon.launchInterruptEpoch
  let snapshot ← read SharedDaemon.sleep
  if !resuspendFenceMatches snapshot sleepEpoch sleepRevision current interactionEpoch then return
  armWakeGuardForLockedResuspend
  let epoch ← read SharedDaemon.launchInterruptEpoch
  if epoch ≠ interactionEpoch then return ← call .cancelWakeGuard
  let suspended ← tried .suspend
  let wakelock ← tried .acquireWakelock
  match suspended with
  | .error error =>
    let guard ← tried .cancelWakeGuard
    if wakelock.isOk && guard.isOk then retainAfterFailedSuspend error interactionEpoch
    else throw ("locked resuspend transaction failed: " ++ stageFailures (("suspend: " ++ error) ::
      (Except.failure "wake-lock recovery" wakelock ++ Except.failure "wake-key recovery" guard)))
  | .ok () =>
    match ← tried .resumeWakeGuard, wakelock with
    | .ok powerKey, .ok () => finishPhysicalResume sleepEpoch powerKey
    | guard, wakelock =>
      throw ("locked resuspend transaction failed: " ++ stageFailures
        (Except.failure "wake-lock recovery" wakelock ++ Except.failure "wake-key recovery" guard))

def wake (managerSurfaceSequence : Nat) (queued : QueuedEvent) : Job Unit := locked do
  let domain ← getDomain
  if domain = .manager then return
  require (domain = .sleeping) "ReMagic is not locked"
  let committing ← perform (.beginCommit queued.request)
  require committing "wake request was cancelled before commit"
  require (managerSurfaceSequence ≠ 0) "wake requires a committed ReMagic manager page"
  let replacement ← call (.waitSurfaceSequence homeSurfaceKey managerSurfaceSequence)
  require (replacement.foreground.map DisplayLease.key = some homeSurfaceKey)
    "manager replacement page does not own the locked surface"
  let sleep ← read SharedDaemon.sleep
  require (sleep.epoch ≠ 0 && sleep.phase = .locked) ("sleep state has no committed lock transaction (" ++
    sleep.phase.name ++ ", epoch " ++ toString sleep.epoch ++ ")")
  call .acquireWakelock
  let _ ← attempt (.sleep (.beginUnlock sleep.epoch))
  handle (← tried .cancelWakeGuard) (abortWake sleep.epoch)
  handle (← tried (.cancelLock sleep.epoch managerSurfaceSequence)) (abortWake sleep.epoch)
  attempt (.apply .wake)
  let _ ← attempt (.sleep (.finishUnlock sleep.epoch))

/-! ## The keys and the cover -/

def retainSleepingUnlock (unlock : Job Unit) : Job Unit := mapError retainedLockError unlock

def singlePower (queued : QueuedEvent) : Job Unit := do
  match ← getDomain with
  | .manager =>
    match ← read fun s => s.state.lastApp with
    | some app => launch app none queued
    | none => pure ()
  | .foreground app => park app false true
  | .sleeping => retainSleepingUnlock requestHomeUnlock
  | _ => pure ()

def triplePower : Job Unit := do
  match ← getDomain with
  | .system => enterManager
  | .foreground app =>
    park app true false
    restoreSystem
  | .manager | .sleeping => restoreSystem
  | _ => pure ()

def openManager : Job Unit := do
  match ← getDomain with
  | .system => enterManager
  | .foreground app => park app false true
  | .manager => ensureManagerSurface
  | .sleeping => retainSleepingUnlock requestHomeUnlock
  | _ => pure ()

def sendHomeEvent (message : String) : Job Unit := call (.notifyHome message)

def requestAutoSleep (activityRevision : Nat) : Job Unit := do
  let current ← ask (.autoSleepIsCurrent activityRevision)
  if current then sendHomeEvent "auto_sleep\n"

def handleAutoSleep (activityRevision : Nat) (queued : QueuedEvent) : Job Unit := do
  let epoch ← read SharedDaemon.launchInterruptEpoch
  if epoch ≠ queued.interruptEpoch then return
  let current ← ask (.autoSleepIsCurrent activityRevision)
  if !current then return
  match ← getDomain with
  | .foreground app =>
    park app false true
    requestAutoSleep activityRevision
  | .manager =>
    ensureManagerSurface
    requestAutoSleep activityRevision
  | _ => pure ()

def handleCoverClosed (queued : QueuedEvent) : Job Unit := do
  edit (.coverClosed true)
  match ← getDomain with
  | .system | .restoringSystem | .sleeping => pure ()
  | .manager =>
    edit (.coverResumeApp none)
    ensureManagerSurface
    if ← read SharedDaemon.coverClosed then sendHomeEvent "cover_sleep\n"
  | .foreground app =>
    edit (.coverResumeApp (some app))
    park app false true
    if ← read SharedDaemon.coverClosed then sendHomeEvent ("cover_sleep_app " ++ app.value ++ "\n")
  | .enteringManaged | .launching _ | .parking _ | .recovering => perform (.post .coverClosed queued.interruptEpoch)

def handleCoverOpened : Job Unit := do
  edit (.coverClosed false)
  match ← getDomain with
  | .sleeping | .manager =>
    match ← perform .takeCoverResumeApp with
    | some app => sendHomeEvent ("cover_open_app " ++ app.value ++ "\n")
    | none => sendHomeEvent "cover_open\n"
  | _ => pure ()

/-! ## Packages -/

def reloadManifests : Job Unit := do
  let manifests ← call .loadManifests
  edit (.manifests manifests)
  startDeclaredBackgroundServices
  if (← getDomain) = .manager then
    match ← outcome restartRuntimeAndWait with
    | .ok () => pure ()
    | .error _ => restoreSystem

def package : Job Unit := do
  require ((← getDomain) = .manager) "package operations are only available in the manager"
  call .startWorker

/-- A package request of a control client, with the application that the bundle turns out to hold. -/
inductive PackageRequest where
  | install (found : AppId)
  | upgrade (expected found : AppId)
  | rollback (app : AppId)
  | uninstall (app : AppId)
  deriving DecidableEq

def installed (app : AppId) : Job Unit := do
  require (← read fun s => s.manifest app).isSome ("application is not installed: " ++ app.value)

def changePackage : PackageRequest → Job Unit
  | .install found => do
    call .detectDevice
    call .prepareBundle
    doIf (← read fun s => s.manifest found).isSome (close found true)
    call (.installBundle found)
  | .upgrade expected found => do
    call .detectDevice
    call .prepareBundle
    require (found = expected) ("bundle contains " ++ found.value ++ ", expected " ++ expected.value)
    installed expected
    close expected true
    call (.installBundle found)
  | .rollback app => do
    installed app
    call .detectDevice
    close app true
    call (.rollbackBundle app)
  | .uninstall app => do
    let manifest ← ofOption (← read fun s => s.manifest app) ("application is not installed: " ++ app.value)
    require (!manifest.system) ("system application cannot be uninstalled: " ++ app.value)
    close app true
    call (.uninstallBundle app)

def packageReply (request : PackageRequest) : Job Unit := holding .package do
  changePackage request
  reloadManifests

/-! ## Requests of applications -/

def validateActiveForegroundToken (domain : DomainState) (inputs : Table RuntimeInputState) (token : AppToken) :
    Except String RuntimeInputState := do
  validateToken token
  if domain ≠ .foreground token.appId then
    throw ("application " ++ token.appId.value ++ " is not the current foreground application")
  match inputs token.appId with
  | none => throw ("application " ++ token.appId.value ++ " has no active input fence")
  | some input =>
    if !input.matches' token then
      throw ("application " ++ token.appId.value ++ " supplied a stale input-mode token")
    if input.pending then throw ("application " ++ token.appId.value ++ " input fence is still pending")
    return input

def validateForegroundToken (token : AppToken) : Job Unit := locked do
  let domain ← getDomain
  let inputs ← perform (.readModes SharedDaemon.inputModes)
  let _ ← ofResult (validateActiveForegroundToken domain inputs token)

def validateForegroundPeer (peer : AppId) : Job Unit := locked do
  require ((← getDomain) = .foreground peer)
    ("application " ++ peer.value ++ " is not the current foreground application")

def validateRuntimeLaunchAuthority : RuntimeLaunchAuthority → Job Unit
  | .legacyPeer peer => validateForegroundPeer peer
  | .foregroundToken token => validateForegroundToken token

def openApp (authority : RuntimeLaunchAuthority) (app : AppId) (openPath : Option String) : Job Unit := do
  validateRuntimeLaunchAuthority authority
  let sent ← perform (.send (.runtimeLaunch authority app openPath))
  require sent "manager request timed out before it could be queued"

/-- While the application is on its way to the foreground, which holds the transition lock. -/
def setPendingInputMode (token : AppToken) (mode : InputMode) : Job (Option (Except String Bool)) := do
  let domain ← getDomain
  if domain = .launching token.appId ∨ domain = .parking token.appId then perform (.setPendingMode token mode)
  else return none

def setActiveInputMode (token : AppToken) (mode : InputMode) : Job Bool := locked do
  let domain ← getDomain
  holding .inputModes do
    let inputs ← perform (.readModes SharedDaemon.inputModes)
    let input ← ofResult (validateActiveForegroundToken domain inputs token)
    let inkEnabled ← ofResult (input.validateMode token.appId mode)
    call (.configureInk (appSurfaceKey token.appId) token.generation token.foregroundEpoch inkEnabled)
    edit (.inputMode token.appId (some { input with mode }))
    return inkEnabled

def setInputMode (token : AppToken) (mode : InputMode) : Job Bool := do
  ofResult (validateToken token)
  match ← setPendingInputMode token mode with
  | some answered => ofResult answered
  | none => setActiveInputMode token mode

/-- `enqueue_runner_exit`, up to the wait for the event loop: whether the report is accepted. -/
def enqueueRunnerExit (app : AppId) (generation : Nat) (exitCode : Int) (crashed : Bool) : Job Unit := do
  let pending : PendingExit := ⟨generation, .runner⟩
  let reserved ← perform (.reserveReport app pending)
  if reserved then
    let sent ← perform (.send (.runtimeExited app generation exitCode crashed .runner))
    if !sent then
      perform (.releaseReport app pending)
      throw "runtime exit could not be queued before its deadline"

/-! ## The event loop -/

def recordAppReady (id : AppId) : Job Unit := attempt (.appReady id)

def handleDisplayHostExited (stateSequence sleepRevision : Nat) : Job Unit := do
  let currentSequence ← read fun s => s.state.sequence
  let currentRevision ← read fun s => s.sleep.revision
  if recoveryFenceMatches currentSequence currentRevision stateSequence sleepRevision then restoreSystem

def handleEvent (queued : QueuedEvent) : Job Unit :=
  match queued.event with
  | .userActivity => pure ()
  | .singlePower => singlePower queued
  | .triplePower => triplePower
  | .longPower | .returnSystem => restoreSystem
  | .launch app openPath => launch app openPath queued
  | .runtimeLaunch authority app openPath => do
    validateRuntimeLaunchAuthority authority
    launch app openPath queued
  | .openManager => openManager
  | .coverClosed => handleCoverClosed queued
  | .coverOpened => handleCoverOpened
  | .sleep lockSurfaceSequence => sleep lockSurfaceSequence queued
  | .wake managerSurfaceSequence => wake managerSurfaceSequence queued
  | .resuspend sleepEpoch sleepRevision interactionEpoch => resuspendLocked sleepEpoch sleepRevision interactionEpoch
  | .autoSleep activityRevision => handleAutoSleep activityRevision queued
  | .close app complete => close app complete
  | .runtimeExited app generation exitCode crashed source => recordRuntimeExit app generation exitCode crashed source
  | .displayHostExited stateSequence sleepRevision => handleDisplayHostExited stateSequence sleepRevision
  | .appReady app => recordAppReady app
  | .appParked session => recordParked session
  | .package => package
  | .reloadManifests => reloadManifests

def retainedSleepLockIsHealthy : Job Bool := do
  let transaction ← read SharedDaemon.sleep
  if transaction.epoch = 0 ∨ transaction.phase ≠ .locked then return false
  match ← tried .displayStatus with
  | .ok display => return display.lockCommitted && display.lockEpoch = transaction.epoch
  | .error _ => return false

def recoverAfterFailure : Except String Unit → Job Unit
  | .ok () => pure ()
  | .error error => do
    match ← perform .assess with
    | .system | .foreground _ => pure ()
    | .manager => ensureManagerOrRestore
    | .sleeping =>
      let healthy ← retainedSleepLockIsHealthy
      if isRetainedLockError error && healthy then pure () else restoreSystem
    | .enteringManaged | .launching _ | .parking _ | .restoringSystem | .recovering => restoreSystem

/-- What a task ends with: its answer, and what became of the recovery. -/
structure Outcome where
  answered : Except String Bool
  recovery : Except String Unit := .ok ()

/-- The answer to the requester. -/
def attend (queued : QueuedEvent) : Program Op (Except String Unit) := do
  let cancelled ← Program.op (.read fun s => decide (s.fences queued.request = .cancelled))
  if cancelled then return .error "request was cancelled before execution"
  else (handleEvent queued).run

/-- One turn of the event loop. -/
def serve (queued : QueuedEvent) : Program Op Outcome := do
  let answered ← attend queued
  let recovery ← (recoverAfterFailure answered).run
  return { answered := answered.map fun _ => true, recovery }

/-! ## Tasks -/

/-- What a task is there for. -/
inductive Role where
  | serving (queued : QueuedEvent)
  | package (request : PackageRequest)
  | inputMode (token : AppToken) (mode : InputMode)
  | runnerExit (app : AppId) (generation : Nat) (exitCode : Int) (crashed : Bool)
  | handoff (authority : RuntimeLaunchAuthority) (app : AppId) (openPath : Option String)
  deriving DecidableEq

def answerOnly (job : Job Bool) : Program Op Outcome := do
  let answered ← job.run
  return { answered }

def Role.program : Role → Program Op Outcome
  | .serving queued => serve queued
  | .package request => answerOnly do
    packageReply request
    return true
  | .inputMode token mode => answerOnly (setInputMode token mode)
  | .runnerExit app generation exitCode crashed => answerOnly do
    enqueueRunnerExit app generation exitCode crashed
    return true
  | .handoff authority app openPath => answerOnly do
    openApp authority app openPath
    return true

end Remagic.Daemon
