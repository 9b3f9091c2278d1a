import Remagic.DaemonLocks

/-!
# Which operations start something

Units of applications are started by launches and by reloads of the manifests alone.
Every other job performs plain errands, among which there may be those of the
transition lock and of the wake lock.
-/

namespace Remagic.Daemon
open Supervisor
open Programs (Program)
open Programs.Job (Only only_pure only_throw only_bind only_ite only_op only_try only_outcome only_require only_ofOption
  only_ofResult only_mapError only_doIf only_handle only_each)

inductive Errand where
  | plain
  /-- The transition lock is taken or let go. -/
  | lock
  /-- A launch looks for its application. -/
  | probe
  | load
  | manifests
  /-- A unit of an application is started. -/
  | start
  /-- An application is said to be parked, which is its own to say. -/
  | parked
  /-- The wake lock is taken or let go, or the domain is managed because of it. -/
  | wakeful
  /-- A bundle is prepared, and what is pending on disk recovered before. -/
  | prepare
  /-- An operation on a package, which changes what is on disk. -/
  | package
  /-- The unit of an application is thawed, frozen or stopped, or its policy for that is
      changed, or the application is told, or comes to the foreground. -/
  | scheduling
  deriving DecidableEq

@[grind =] def ServiceUnit.errand : ServiceUnit → Errand
  | .app _ | .everyApp | .background _ => .start
  | .home | .display | .runtime => .plain

/-- Stopping, thawing or freezing the unit. -/
@[grind =] def ServiceUnit.scheduling : ServiceUnit → Errand
  | .app _ | .everyApp => .scheduling
  | .background _ | .home | .display | .runtime => .plain

@[grind =] def Call.errand {β : Type} : Call β → Errand
  | .start unit | .startAndWait unit | .restart unit => unit.errand
  | .startManagedBackground _ => .start
  | .loadManifests => .load
  | .enterManaged | .restoreSystem | .suspend | .acquireWakelock => .wakeful
  | .prepareBundle => .prepare
  | .installBundle _ | .rollbackBundle _ | .uninstallBundle _ => .package
  | .stopAndWait unit | .thawAndWait unit | .freezeAndWait unit => unit.scheduling
  | .enterForeground .. | .enterBackground _ | .shutdown _ => .scheduling
  | .isActive _ | .startWorker | .grab _ | .armWakeGuard
  | .cancelWakeGuard | .resumeWakeGuard | .setForegroundMarker _
  | .saveSession _ | .removeSession _ | .validateOpenPath .. | .publishDescriptor _ | .clearPhaseMarkers _
  | .detectDevice
  | .awaitApplication .. | .awaitReady .. | .awaitBackground .. | .displayStatus
  | .waitReady | .waitSurface _ | .waitSurfaceSequence .. | .setForeground .. | .prepareForeground .. | .activateForeground ..
  | .clearForeground | .configureInk .. | .showLock .. | .cancelLock .. | .notifyHome _ => .plain

@[grind =] def Event.errand : Event → Errand
  | .appParked _ => .parked
  | .userActivity | .singlePower | .triplePower | .longPower | .launch .. | .runtimeLaunch .. | .openManager | .returnSystem
  | .coverClosed | .coverOpened | .sleep _ | .wake _ | .resuspend .. | .autoSleep _ | .close .. | .runtimeExited ..
  | .displayHostExited .. | .appReady _ | .package | .reloadManifests => .plain

@[grind =] def Question.errand : Question → Errand
  | .executableExists _ => .probe
  | .maybeActive _ | .descriptorRemoved _ | .schemaComplete .. | .autoSleepIsCurrent _ => .plain

@[grind =] def Edit.errand : Edit → Errand
  | .manifests _ => .manifests
  | .backgroundExecution .. | .clearBackgroundExecution => .scheduling
  | .session .. | .generation .. | .foregroundFence .. | .inputMode .. | .exitReport ..
  | .missingObservation _ | .clearGenerations | .clearForegroundFences | .clearInputModes
  | .coverClosed _ | .coverResumeApp _ => .plain

@[grind =] def Lock.errand : Lock → Errand
  | .transition => .lock
  | .inputModes | .package => .plain

/-- Whether the transition leads into the managed domain, or brings an application to the foreground. -/
@[grind =] def Transition.errand : Transition → Errand
  | .managedReady | .wake => .wakeful
  | .appReady _ | .appRestored _ => .scheduling
  | .triplePower | .singlePower | .launch _ | .appParked _ | .appExited _ | .appCrashed _
  | .systemReady | .sleep | .failure => .plain

@[grind =] def Op.errand {β : Type} : Op β → Errand
  | .acquire lock | .release lock _ => lock.errand
  | .ask question => question.errand
  | .edit change => change.errand
  | .post event _ | .send event => event.errand
  | .call made => made.errand
  | .apply transition => transition.errand
  | .appReady _ | .commitReady _ => .scheduling
  | .read _ | .readModes _ | .assess | .beginRestore | .beginPark .. | .finishPark _ | .appParked _
  | .closed .. | .stopped _ | .beginCommit _ | .rolledBack _ | .allocateGeneration
  | .allocateForegroundEpoch | .allocateSleepEpoch | .takeGeneration .. | .consumeReport .. | .reserveReport ..
  | .releaseReport .. | .setPendingMode .. | .takeCoverResumeApp | .sleep _ => .plain

@[grind =] def Op.errandIn (errands : Errand → Bool) {β : Type} (op : Op β) : Prop := errands op.errand

/-- The job performs errands of these kinds only. -/
abbrev Bare (errands : Errand → Bool) {α : Type} (job : Job α) : Prop := Only (@Op.errandIn errands) job

section
variable {errands : Errand → Bool} {α : Type}

@[grind =] theorem bare_perform (op : Op α) : Bare errands (perform op) ↔ errands op.errand := only_op op

@[grind =] theorem bare_attempt (op : Op (Except String α)) : Bare errands (attempt op) ↔ errands op.errand := only_try op

@[grind =] theorem bare_read (look : SharedDaemon → α) : Bare errands (read look) ↔ errands .plain := only_op _

@[grind =] theorem bare_ask (question : Question) : Bare errands (ask question) ↔ errands question.errand := only_op _

@[grind =] theorem bare_edit (change : Edit) : Bare errands (edit change) ↔ errands change.errand := only_op _

@[grind =] theorem bare_call (made : Call α) : Bare errands (call made) ↔ errands made.errand := only_try _

@[grind =] theorem bare_tried (made : Call α) : Bare errands (tried made) ↔ errands made.errand := only_op _

@[grind =] theorem bare_getDomain : Bare errands getDomain ↔ errands .plain := only_op _

@[grind ←] theorem locked_bare {body : Job α} (lock : errands .lock) (bare : Bare errands body) : Bare errands (locked body) :=
  only_bind ((bare_perform _).mpr lock) fun _ => only_bind (only_outcome bare) fun _ =>
    only_bind ((bare_perform _).mpr lock) fun _ => only_ofResult _

@[grind ←] theorem holding_bare (lock : Lock) {body : Job α} (hold : errands lock.errand) (bare : Bare errands body) :
    Bare errands (holding lock body) :=
  only_bind ((bare_perform _).mpr hold) fun _ => only_bind (only_outcome bare) fun _ =>
    only_bind ((bare_perform _).mpr hold) fun _ => only_ofResult _

@[grind ←] theorem recordAppReady_bare {id : AppId} (scheduling : errands .scheduling) : Bare errands (recordAppReady id) := by
  unfold recordAppReady
  grind

/-! ## Jobs of plain errands -/

variable (plain : errands .plain) {id : AppId} {queued : QueuedEvent} {manifest : AppManifest} {context : LaunchContext}
  {openPath : Option String} {fence : Option ForegroundFence} {token : AppToken} {sleepEpoch : Nat} {cause : String}
include plain

@[grind ←] theorem saveSession_bare {saved : AppSession} : Bare errands (saveSession saved) := by
  unfold saveSession
  grind

@[grind ←] theorem removeSession_bare : Bare errands (removeSession id) := by
  unfold removeSession
  grind

@[grind ←] theorem markSessionProcessStopped_bare : Bare errands (markSessionProcessStopped id) := by
  unfold markSessionProcessStopped
  grind

@[grind ←] theorem stopBackgroundService_bare {manifest : Option AppManifest} :
    Bare errands (stopBackgroundService manifest) := by
  unfold stopBackgroundService
  cases service : manifest.bind AppManifest.backgroundUnit with
  | none => exact only_pure ()
  | some unit =>
    obtain ⟨declared, -, named⟩ := Option.bind_eq_some_iff.mp service
    obtain ⟨name, rfl⟩ := declared.backgroundUnit_named named
    grind

@[grind ←] theorem showManagerSurface_bare : Bare errands showManagerSurface := by
  unfold showManagerSurface
  grind

@[grind ←] theorem restartRuntimeAndWait_bare : Bare errands restartRuntimeAndWait := by
  unfold restartRuntimeAndWait
  grind

@[grind ←] theorem ensureManagerSurface_bare : Bare errands ensureManagerSurface := by
  unfold ensureManagerSurface
  refine only_bind (by grind) fun domain => only_ite (fun _ => only_pure ()) fun _ => ?_
  repeat refine only_bind (by grind) fun _ => ?_
  grind

@[grind ←] theorem thawIfFrozen_bare {policy : Option BackgroundExecution} {describe : String → String}
    (scheduling : errands .scheduling) : Bare errands (thawIfFrozen policy id describe) := by
  unfold thawIfFrozen
  grind

@[grind ←] theorem clearRuntimeTracking_bare (scheduling : errands .scheduling) :
    Bare errands (clearRuntimeTracking id) := by
  unfold clearRuntimeTracking
  grind

@[grind ←] theorem stopManagedApp_bare (scheduling : errands .scheduling) : Bare errands (stopManagedApp manifest) := by
  unfold stopManagedApp
  grind

@[grind ←] theorem stopManagedApps_bare (scheduling : errands .scheduling) : Bare errands stopManagedApps := by
  unfold stopManagedApps
  grind

@[grind ←] theorem queueCoverClosedIfCurrent_bare : Bare errands queueCoverClosedIfCurrent := by
  unfold queueCoverClosedIfCurrent
  grind

@[grind ←] theorem foregroundFenceIfSupported_bare : Bare errands (foregroundFenceIfSupported id manifest) := by
  unfold foregroundFenceIfSupported
  grind

@[grind ←] theorem sendBackgroundIfSupported_bare (scheduling : errands .scheduling) :
    Bare errands (sendBackgroundIfSupported id manifest fence) := by
  unfold sendBackgroundIfSupported
  grind

@[grind ←] theorem parkedSession_bare {lifecycle : Option (Option String)} :
    Bare errands (parkedSession id manifest lifecycle) := by
  unfold parkedSession
  grind

@[grind ←] theorem handOver_bare {showManager : Bool} : Bare errands (handOver showManager) := by
  unfold handOver
  grind

@[grind ←] theorem validateRecoveryFence_bare {fence : ForegroundFence} :
    Bare errands (validateRecoveryFence id fence) := by
  unfold validateRecoveryFence
  grind

@[grind ←] theorem ensureLaunchCurrent_bare : Bare errands (ensureLaunchCurrent queued) := by
  unfold ensureLaunchCurrent
  grind

@[grind ←] theorem validateExistingRuntime_bare (scheduling : errands .scheduling) :
    Bare errands (validateExistingRuntime id) := by
  unfold validateExistingRuntime
  iterate 4 refine only_bind (by grind) fun _ => ?_
  refine only_ite (fun _ => ?_) fun _ => only_pure _
  refine only_bind (by grind) fun thawed => only_bind (by grind) fun stopped => ?_
  cases stopped with
  | ok _ =>
    repeat refine only_bind (by grind) fun _ => ?_
    exact only_pure _
  | error _ => cases thawed <;> exact only_throw _

@[grind ←] theorem checkOpenPath_bare : Bare errands (checkOpenPath id openPath) := by
  unfold checkOpenPath
  grind

@[grind ←] theorem launchGeneration_bare {active : Bool} : Bare errands (launchGeneration id active) := by
  unfold launchGeneration
  grind

@[grind ←] theorem registerRuntime_bare (scheduling : errands .scheduling) : Bare errands (registerRuntime context) := by
  unfold registerRuntime
  grind

@[grind ←] theorem reserveControlledExit_bare : Bare errands (reserveControlledExit id) := by
  unfold reserveControlledExit
  grind

@[grind ←] theorem releaseControlledExit_bare {pending : Option PendingExit} :
    Bare errands (releaseControlledExit id pending) := by
  unfold releaseControlledExit
  grind

@[grind ←] theorem thawBeforeShutdown_bare (scheduling : errands .scheduling) : Bare errands (thawBeforeShutdown id) := by
  unfold thawBeforeShutdown
  grind

@[grind ←] theorem requestShutdown_bare {manifest : Option AppManifest} (scheduling : errands .scheduling) :
    Bare errands (requestShutdown id manifest) := by
  unfold requestShutdown
  grind

@[grind ←] theorem updateSessionAfterExit_bare {exitCode : Int} {crashed : Bool} :
    Bare errands (updateSessionAfterExit id exitCode crashed) := by
  unfold updateSessionAfterExit
  grind

@[grind ←] theorem requestHomeUnlock_bare : Bare errands requestHomeUnlock := by
  unfold requestHomeUnlock
  grind

@[grind ←] theorem scheduleLockedResuspend_bare {sleep : SleepSnapshot} :
    Bare errands (scheduleLockedResuspend sleep) := by
  unfold scheduleLockedResuspend
  grind

@[grind ←] theorem scheduleFailedResuspend_bare {error : String} {sleep : SleepSnapshot} {interactionEpoch : Nat} :
    Bare errands (scheduleFailedResuspend error sleep interactionEpoch) := by
  unfold scheduleFailedResuspend
  grind

@[grind ←] theorem rollbackDisplayLock_bare : Bare errands (rollbackDisplayLock sleepEpoch) := by
  unfold rollbackDisplayLock
  grind

@[grind ←] theorem retainAwakeLock_bare {awake : SleepSnapshot} : Bare errands (retainAwakeLock awake cause) := by
  unfold retainAwakeLock
  grind

@[grind ←] theorem finishPhysicalResume_bare {powerKey : Bool} :
    Bare errands (finishPhysicalResume sleepEpoch powerKey) := by
  unfold finishPhysicalResume
  grind

@[grind ←] theorem retainAfterFailedSuspend_bare {error : String} {interactionEpoch : Nat} :
    Bare errands (retainAfterFailedSuspend error interactionEpoch) := by
  unfold retainAfterFailedSuspend
  repeat refine only_bind (by grind) fun _ => ?_
  grind

@[grind ←] theorem armWakeGuardForLockedResuspend_bare : Bare errands armWakeGuardForLockedResuspend := by
  unfold armWakeGuardForLockedResuspend
  grind

@[grind ←] theorem sendHomeEvent_bare {message : String} : Bare errands (sendHomeEvent message) := by
  unfold sendHomeEvent
  grind

@[grind ←] theorem requestAutoSleep_bare {activityRevision : Nat} : Bare errands (requestAutoSleep activityRevision) := by
  unfold requestAutoSleep
  grind

@[grind ←] theorem retainSleepingUnlock_bare : Bare errands (retainSleepingUnlock requestHomeUnlock) := by
  unfold retainSleepingUnlock
  grind

@[grind ←] theorem handleCoverOpened_bare : Bare errands handleCoverOpened := by
  unfold handleCoverOpened
  grind

@[grind ←] theorem package_bare : Bare errands package := by
  unfold package
  grind

@[grind ←] theorem installed_bare {app : AppId} : Bare errands (installed app) := by
  unfold installed
  grind

@[grind ←] theorem retainedSleepLockIsHealthy_bare : Bare errands retainedSleepLockIsHealthy := by
  unfold retainedSleepLockIsHealthy
  grind

@[grind ←] theorem abortWake_bare : Bare errands (abortWake sleepEpoch cause : Job α) := by
  unfold abortWake
  grind

@[grind ←] theorem rollbackSleep_bare (wakeful : errands .wakeful) :
    Bare errands (rollbackSleep sleepEpoch cause : Job α) := by
  unfold rollbackSleep
  refine only_bind (by grind) fun _ => only_bind (by grind) fun _ => only_bind (by grind) fun guard => ?_
  cases guard with
  | error error => grind
  | ok _ =>
    refine only_bind (by grind) fun unlocked => ?_
    cases unlocked <;> grind

@[grind ←] theorem enterSleeping_bare : Bare errands enterSleeping := by
  unfold enterSleeping
  grind

@[grind ←] theorem prepareSleepLock_bare {lockSurfaceSequence : Nat} (wakeful : errands .wakeful) :
    Bare errands (prepareSleepLock lockSurfaceSequence queued) := by
  unfold prepareSleepLock
  repeat refine only_bind (by grind) fun _ => ?_
  grind

@[grind ←] theorem finishParkTransition_bare : Bare errands (finishParkTransition id) := by
  unfold finishParkTransition
  grind

@[grind ←] theorem completePark_bare {showManager : Bool} (scheduling : errands .scheduling) :
    Bare errands (completePark id manifest fence showManager) := by
  unfold completePark
  repeat refine only_bind (by grind) fun _ => ?_
  grind

@[grind ←] theorem forceStopAfterFailedPark_bare (scheduling : errands .scheduling) :
    Bare errands (forceStopAfterFailedPark id) := by
  unfold forceStopAfterFailedPark
  repeat refine only_bind (by grind) fun _ => ?_
  grind

@[grind ←] theorem revealManagerBeforeClose_bare : Bare errands revealManagerBeforeClose := by
  unfold revealManagerBeforeClose
  grind

@[grind ←] theorem closeReserved_bare {complete wasForeground : Bool} {manifest : Option AppManifest}
    (scheduling : errands .scheduling) : Bare errands (closeReserved id complete wasForeground manifest) := by
  unfold closeReserved
  repeat refine only_bind (by grind) fun _ => ?_
  grind

@[grind ←] theorem commitRestoredForeground_bare (scheduling : errands .scheduling) :
    Bare errands (commitRestoredForeground token) := by
  unfold commitRestoredForeground
  refine holding_bare .inputModes plain ?_
  repeat refine only_bind (by grind) fun _ => ?_
  grind

@[grind ←] theorem restoreForegroundAfterFailedPark_bare {fence : ForegroundFence} (scheduling : errands .scheduling) :
    Bare errands (restoreForegroundAfterFailedPark id manifest fence) := by
  unfold restoreForegroundAfterFailedPark
  iterate 16 refine only_bind (by grind) fun _ => ?_
  exact commitRestoredForeground_bare plain scheduling

@[grind ←] theorem recoverFailedPark_bare (scheduling : errands .scheduling) :
    Bare errands (recoverFailedPark id manifest fence) := by
  unfold recoverFailedPark
  refine only_bind (only_outcome ?_) fun restored => ?_
  · cases fence <;> grind
  · cases restored <;> grind

@[grind ←] theorem commitLaunch_bare (scheduling : errands .scheduling) : Bare errands (commitLaunch context queued) := by
  unfold commitLaunch
  iterate 5 refine only_bind (by grind) fun _ => ?_
  refine holding_bare .inputModes plain ?_
  repeat refine only_bind (by grind) fun _ => ?_
  grind

/-! ## Jobs under the transition lock -/

@[grind ←] theorem park_bare {returningSystem showManager : Bool} (scheduling : errands .scheduling)
    (lock : errands .lock) : Bare errands (park id returningSystem showManager) := by
  unfold park
  refine locked_bare lock ?_
  iterate 4 refine only_bind (by grind) fun _ => ?_
  refine only_bind (by grind) fun result => ?_
  cases result with
  | ok _ => exact only_pure ()
  | error cause =>
    refine only_bind (by grind) fun recovery => ?_
    cases recovery <;> exact only_throw _

@[grind ←] theorem restoreSystem_bare (scheduling : errands .scheduling) (lock : errands .lock)
    (wakeful : errands .wakeful) : Bare errands restoreSystem := by
  unfold restoreSystem
  refine locked_bare lock (only_bind (by grind) fun _ => only_ite (fun _ => only_pure ()) fun _ => ?_)
  repeat refine only_bind (by grind) fun _ => ?_
  grind

@[grind ←] theorem enterManager_bare (lock : errands .lock) (wakeful : errands .wakeful) : Bare errands enterManager := by
  unfold enterManager
  refine locked_bare lock ?_
  repeat refine only_bind (by grind) fun _ => ?_
  grind

@[grind ←] theorem ensureManagerOrRestore_bare (scheduling : errands .scheduling) (lock : errands .lock)
    (wakeful : errands .wakeful) : Bare errands ensureManagerOrRestore := by
  unfold ensureManagerOrRestore
  grind

@[grind ←] theorem close_bare {complete : Bool} (scheduling : errands .scheduling) (lock : errands .lock) :
    Bare errands (close id complete) := by
  unfold close
  refine locked_bare lock ?_
  repeat refine only_bind (by grind) fun _ => ?_
  grind

@[grind ←] theorem recordRuntimeExit_bare {generation : Nat} {exitCode : Int} {crashed : Bool} {source : ExitReportSource}
    (scheduling : errands .scheduling) (lock : errands .lock) :
    Bare errands (recordRuntimeExit id generation exitCode crashed source) := by
  unfold recordRuntimeExit
  refine locked_bare lock (only_bind (by grind) fun _ => only_ite (fun _ => only_pure ()) fun _ => ?_)
  refine only_bind (by grind) fun _ => only_bind (by grind) fun _ => only_ite (fun _ => only_pure ()) fun _ => ?_
  repeat refine only_bind (by grind) fun _ => ?_
  grind

@[grind ←] theorem sleep_bare {lockSurfaceSequence : Nat} (lock : errands .lock) (wakeful : errands .wakeful) :
    Bare errands (sleep lockSurfaceSequence queued) := by
  unfold sleep
  refine locked_bare lock ?_
  repeat refine only_bind (by grind) fun _ => ?_
  grind

@[grind ←] theorem resuspendLocked_bare {sleepEpoch sleepRevision interactionEpoch : Nat} (lock : errands .lock)
    (wakeful : errands .wakeful) : Bare errands (resuspendLocked sleepEpoch sleepRevision interactionEpoch) := by
  unfold resuspendLocked
  refine locked_bare lock (only_bind (by grind) fun _ => only_ite (fun _ => only_pure ()) fun _ => ?_)
  refine only_bind (by grind) fun _ => only_bind (by grind) fun _ => only_ite (fun _ => only_pure ()) fun _ => ?_
  refine only_bind (by grind) fun _ => only_bind (by grind) fun _ => only_ite (fun _ => by grind) fun _ => ?_
  refine only_bind (by grind) fun suspended => only_bind (by grind) fun wakelock => ?_
  cases suspended with
  | error error => grind
  | ok _ =>
    refine only_bind (by grind) fun guard => ?_
    cases guard <;> cases wakelock <;> grind

@[grind ←] theorem wake_bare {managerSurfaceSequence : Nat} (lock : errands .lock) (wakeful : errands .wakeful) :
    Bare errands (wake managerSurfaceSequence queued) := by
  unfold wake
  refine locked_bare lock (only_bind (by grind) fun _ => only_ite (fun _ => only_pure ()) fun _ => ?_)
  repeat refine only_bind (by grind) fun _ => ?_
  grind

@[grind ←] theorem triplePower_bare (scheduling : errands .scheduling) (lock : errands .lock)
    (wakeful : errands .wakeful) : Bare errands triplePower := by
  unfold triplePower
  refine only_bind (by grind) fun domain => ?_
  cases domain <;> grind

@[grind ←] theorem openManager_bare (scheduling : errands .scheduling) (lock : errands .lock)
    (wakeful : errands .wakeful) : Bare errands openManager := by
  unfold openManager
  refine only_bind (by grind) fun domain => ?_
  cases domain <;> grind

@[grind ←] theorem handleAutoSleep_bare {activityRevision : Nat} (scheduling : errands .scheduling)
    (lock : errands .lock) : Bare errands (handleAutoSleep activityRevision queued) := by
  unfold handleAutoSleep
  refine only_bind (by grind) fun _ => only_ite (fun _ => only_pure ()) fun _ => ?_
  refine only_bind (by grind) fun _ => only_ite (fun _ => only_pure ()) fun _ => ?_
  refine only_bind (by grind) fun domain => ?_
  cases domain <;> grind

@[grind ←] theorem handleCoverClosed_bare (scheduling : errands .scheduling) (lock : errands .lock) :
    Bare errands (handleCoverClosed queued) := by
  unfold handleCoverClosed
  refine only_bind (by grind) fun _ => only_bind (by grind) fun domain => ?_
  cases domain <;> grind

@[grind ←] theorem recordParked_bare {session : AppSession} : Bare errands (recordParked session) := by
  unfold recordParked
  refine only_bind (by grind) fun _ => only_ite (fun _ => only_pure ()) fun _ => ?_
  refine only_bind (by grind) fun _ => only_ite (fun _ => only_pure ()) fun _ => ?_
  repeat refine only_bind (by grind) fun _ => ?_
  grind

@[grind ←] theorem handleDisplayHostExited_bare {stateSequence sleepRevision : Nat} (scheduling : errands .scheduling)
    (lock : errands .lock) (wakeful : errands .wakeful) :
    Bare errands (handleDisplayHostExited stateSequence sleepRevision) := by
  unfold handleDisplayHostExited
  grind

@[grind ←] theorem validateRuntimeLaunchAuthority_bare {authority : RuntimeLaunchAuthority} (lock : errands .lock) :
    Bare errands (validateRuntimeLaunchAuthority authority) := by
  cases authority with
  | legacyPeer peer =>
    unfold validateRuntimeLaunchAuthority validateForegroundPeer
    grind
  | foregroundToken token =>
    unfold validateRuntimeLaunchAuthority validateForegroundToken
    grind

@[grind ←] theorem changePackage_bare {request : PackageRequest} (scheduling : errands .scheduling) (lock : errands .lock)
    (prepare : errands .prepare) (package : errands .package) : Bare errands (changePackage request) := by
  cases request <;> unfold changePackage
  · repeat refine only_bind (by grind) fun _ => ?_
    grind
  · repeat refine only_bind (by grind) fun _ => ?_
    grind
  · repeat refine only_bind (by grind) fun _ => ?_
    grind
  · repeat refine only_bind (by grind) fun _ => ?_
    grind

@[grind ←] theorem setInputMode_bare {mode : InputMode} (lock : errands .lock) :
    Bare errands (setInputMode token mode) := by
  unfold setInputMode
  refine only_bind (by grind) fun _ => only_bind ?_ fun answered => ?_
  · unfold setPendingInputMode
    exact only_bind (by grind) fun domain => only_ite (fun _ => by grind) fun _ => only_pure _
  · cases answered with
    | some result => exact only_ofResult result
    | none =>
      unfold setActiveInputMode
      refine locked_bare lock (only_bind (by grind) fun domain => holding_bare .inputModes plain ?_)
      repeat refine only_bind (by grind) fun _ => ?_
      grind

@[grind ←] theorem enqueueRunnerExit_bare {app : AppId} {generation : Nat} {exitCode : Int} {crashed : Bool} :
    Bare errands (enqueueRunnerExit app generation exitCode crashed) := by
  unfold enqueueRunnerExit
  grind

@[grind ←] theorem openApp_bare {authority : RuntimeLaunchAuthority} {app : AppId} (lock : errands .lock) :
    Bare errands (openApp authority app openPath) := by
  unfold openApp
  grind

@[grind ←] theorem recoverAfterFailure_bare {answered : Except String Unit} (scheduling : errands .scheduling)
    (lock : errands .lock) (wakeful : errands .wakeful) : Bare errands (recoverAfterFailure answered) := by
  cases answered with
  | ok _ => exact only_pure ()
  | error error =>
    unfold recoverAfterFailure
    refine only_bind (by grind) fun domain => ?_
    cases domain <;> grind

/-! ## Jobs that start something -/

@[grind ←] theorem ensureBackgroundService_bare (start : errands .start) :
    Bare errands (ensureBackgroundService manifest) := by
  unfold ensureBackgroundService
  cases manifest.backgroundService with
  | none => exact only_pure ()
  | some service => cases service <;> grind

@[grind ←] theorem prepareBackground_bare {quiesced : Bool} (start : errands .start) :
    Bare errands (prepareBackground manifest quiesced) := by
  unfold prepareBackground
  refine only_ite (fun _ => ?_) fun _ => ensureBackgroundService_bare plain start
  cases named : manifest.backgroundUnit with
  | none => exact only_pure ()
  | some unit =>
    obtain ⟨name, rfl⟩ := manifest.backgroundUnit_named named
    grind

@[grind ←] theorem startDeclaredBackgroundServices_bare (start : errands .start) :
    Bare errands startDeclaredBackgroundServices := by
  unfold startDeclaredBackgroundServices
  grind

@[grind ←] theorem prepareLaunch_bare (scheduling : errands .scheduling) (start : errands .start)
    (probe : errands .probe) : Bare errands (prepareLaunch id openPath) := by
  unfold prepareLaunch
  repeat refine only_bind (by grind) fun _ => ?_
  exact only_pure _

@[grind ←] theorem resumeOrStart_bare (scheduling : errands .scheduling) (start : errands .start) :
    Bare errands (resumeOrStart context) := by
  unfold resumeOrStart
  grind

@[grind ←] theorem activateAndWait_bare (scheduling : errands .scheduling) (start : errands .start) :
    Bare errands (activateAndWait context queued) := by
  unfold activateAndWait
  repeat refine only_bind (by grind) fun _ => ?_
  grind

@[grind ←] theorem rollbackLaunch_bare (scheduling : errands .scheduling) (start : errands .start) :
    Bare errands (rollbackLaunch context) := by
  unfold rollbackLaunch
  repeat refine only_bind (by grind) fun _ => ?_
  grind

@[grind ←] theorem rollbackError_bare (scheduling : errands .scheduling) (start : errands .start) :
    Bare errands (rollbackError context cause) := by
  unfold rollbackError
  grind

@[grind ←] theorem launchFromManager_bare (scheduling : errands .scheduling) (start : errands .start)
    (probe : errands .probe) : Bare errands (launchFromManager id openPath queued) := by
  unfold launchFromManager
  iterate 4 refine only_bind (by grind) fun _ => ?_
  grind

@[grind ←] theorem launch_bare (scheduling : errands .scheduling) (lock : errands .lock) (start : errands .start)
    (probe : errands .probe) : Bare errands (launch id openPath queued) := by
  unfold launch launchCurrent
  refine only_bind (by grind) fun _ => only_bind (by grind) fun _ => only_bind (by grind) fun route => ?_
  cases route <;> grind

@[grind ←] theorem singlePower_bare (scheduling : errands .scheduling) (lock : errands .lock) (start : errands .start)
    (probe : errands .probe) : Bare errands (singlePower queued) := by
  unfold singlePower
  refine only_bind (by grind) fun domain => ?_
  cases domain <;> grind

end

end Remagic.Daemon
