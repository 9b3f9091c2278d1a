import Remagic.DaemonHandlers

/-!
# What an operation leaves alone

Operations are of kinds, and a kind says which part of the daemon the operation may
change. So does a job say it that performs operations of certain kinds only.
-/

namespace Remagic.Daemon
open Programs (Program)
open Programs.Job (Only only_pure only_throw only_bind only_ite only_op only_try only_outcome only_require only_ofOption
  only_ofResult only_mapError only_doIf only_handle only_each)

inductive Kind where
  | look
  | assess
  | lock
  | hold
  | commit
  | count
  | domain
  | grant
  | ready
  | sleep
  | manifests
  | session
  | process
  | mode
  | pendingMode
  | report
  | cover
  | event
  | unit
  | display
  | outside
  deriving DecidableEq

/-- What starting the unit is. -/
@[grind =] def ServiceUnit.kind : ServiceUnit → Kind
  | .app _ => .unit
  | .everyApp | .home | .display | .runtime | .background _ => .outside

/-- What stopping the unit is. -/
@[grind =] def ServiceUnit.stopKind : ServiceUnit → Kind
  | .app _ | .everyApp => .unit
  | .display => .display
  | .home | .runtime | .background _ => .outside

@[grind =] def Call.kind {β : Type} : Call β → Kind
  | .start unit | .startAndWait unit | .restart unit => unit.kind
  | .stopAndWait unit => unit.stopKind
  | .setForeground .. | .prepareForeground .. | .activateForeground .. | .clearForeground | .configureInk .. | .showLock ..
  | .cancelLock .. => .display
  | .isActive _ | .thawAndWait _ | .freezeAndWait _ | .startManagedBackground _ | .startWorker | .enterManaged
  | .restoreSystem | .suspend | .acquireWakelock | .grab _ | .armWakeGuard | .cancelWakeGuard | .resumeWakeGuard
  | .setForegroundMarker _ | .saveSession _ | .removeSession _ | .loadManifests | .validateOpenPath .. | .publishDescriptor _
  | .clearPhaseMarkers _ | .enterForeground .. | .enterBackground _ | .shutdown _ | .detectDevice | .prepareBundle
  | .installBundle _ | .rollbackBundle _ | .uninstallBundle _ | .awaitApplication .. | .awaitReady .. | .awaitBackground ..
  | .displayStatus | .waitReady | .waitSurface _ | .waitSurfaceSequence .. | .notifyHome _ => .outside

@[grind =] def Edit.kind : Edit → Kind
  | .manifests _ => .manifests
  | .session .. => .session
  | .generation .. | .backgroundExecution .. | .foregroundFence .. | .clearGenerations | .clearBackgroundExecution
  | .clearForegroundFences => .process
  | .inputMode .. | .clearInputModes => .mode
  | .exitReport .. | .missingObservation _ => .report
  | .coverClosed _ | .coverResumeApp _ => .cover

@[grind =] def Lock.kind : Lock → Kind
  | .transition => .lock
  | .inputModes | .package => .hold

@[grind =] def Op.kind {β : Type} : Op β → Kind
  | .read _ | .readModes _ | .rolledBack _ | .ask _ => .look
  | .assess => .assess
  | .acquire lock | .release lock _ => lock.kind
  | .beginCommit _ => .commit
  | .allocateGeneration | .allocateForegroundEpoch | .allocateSleepEpoch => .count
  | .apply _ | .beginRestore | .beginPark .. | .finishPark _ | .closed .. | .stopped _ => .domain
  | .commitReady _ => .grant
  | .appReady _ | .appParked _ => .ready
  | .sleep _ => .sleep
  | .takeGeneration .. => .process
  | .setPendingMode .. => .pendingMode
  | .consumeReport .. | .reserveReport .. | .releaseReport .. => .report
  | .takeCoverResumeApp => .cover
  | .post .. | .send _ => .event
  | .edit change => change.kind
  | .call made => made.kind

/-! ## Frames -/

section
variable {β : Type} {me : Nat} {answer : Answer} {s : SharedDaemon}

theorem Call.kind_cases (made : Call β) : made.kind = .unit ∨ made.kind = .display ∨ made.kind = .outside := by
  cases made <;> simp only [Call.kind, true_or, or_true]
  case start unit => cases unit <;> simp [ServiceUnit.kind]
  case startAndWait unit => cases unit <;> simp [ServiceUnit.kind]
  case restart unit => cases unit <;> simp [ServiceUnit.kind]
  case stopAndWait unit => cases unit <;> simp [ServiceUnit.stopKind]

/-- A call changes nothing of the daemon itself. -/
theorem Call.effect_eq (made : Call β) (s : SharedDaemon) :
    ∃ display units, made.effect s = { s with display, units } ∧ (made.kind ≠ .display → display = s.display) ∧
      (made.kind ≠ .unit → units = s.units) := by
  unfold Call.effect
  split
  all_goals first
    | exact ⟨_, _, rfl, fun _ => rfl, fun _ => rfl⟩
    | exact ⟨_, _, rfl, fun _ => rfl, fun other => absurd rfl other⟩
    | exact ⟨_, _, rfl, fun other => absurd rfl other, fun _ => rfl⟩

theorem Call.exec_eq (made : Call β) (answer : Answer) (s : SharedDaemon) :
    ∃ display units, (made.exec answer s).2 = { s with display, units } ∧ (made.kind ≠ .display → display = s.display) ∧
      (made.kind ≠ .unit → units = s.units) := by
  unfold Call.exec
  split
  · exact ⟨_, _, rfl, fun _ => rfl, fun _ => rfl⟩
  · split
    · exact made.effect_eq s
    · by_cases took : answer.took = true
      · simp only [took, if_true]
        exact made.effect_eq s
      · simp only [took]
        exact ⟨_, _, rfl, fun _ => rfl, fun _ => rfl⟩

/-- What a step of the kind leaves as it was. -/
structure Frame (kind : Kind) (s t : SharedDaemon) : Prop where
  state : kind ≠ .domain → kind ≠ .grant → kind ≠ .ready → t.state = s.state
  locks : kind ≠ .lock → kind ≠ .hold → t.locks = s.locks
  owed : kind ≠ .lock → kind ≠ .hold → kind ≠ .assess → t.owed = s.owed
  sleep : kind ≠ .sleep → t.sleep = s.sleep
  manifests : kind ≠ .manifests → t.manifests = s.manifests
  sessions : kind ≠ .session → t.sessions = s.sessions
  generations : kind ≠ .process → t.generations = s.generations
  backgroundExecution : kind ≠ .process → t.backgroundExecution = s.backgroundExecution
  foregroundFences : kind ≠ .process → t.foregroundFences = s.foregroundFences
  inputModes : kind ≠ .mode → kind ≠ .pendingMode → kind ≠ .grant → t.inputModes = s.inputModes
  exitReports : kind ≠ .report → t.exitReports = s.exitReports
  missingObservations : kind ≠ .report → t.missingObservations = s.missingObservations
  nextGeneration : kind ≠ .count → t.nextGeneration = s.nextGeneration
  nextForegroundEpoch : kind ≠ .count → t.nextForegroundEpoch = s.nextForegroundEpoch
  fences : kind ≠ .commit → t.fences = s.fences
  begunAt : kind ≠ .commit → t.begunAt = s.begunAt
  launchInterruptEpoch : kind ≠ .event → t.launchInterruptEpoch = s.launchInterruptEpoch
  queue : kind ≠ .event → t.queue = s.queue
  requests : kind ≠ .event → t.requests = s.requests
  display : kind ≠ .display → t.display = s.display
  units : kind ≠ .unit → t.units = s.units

theorem Frame.refl (kind : Kind) (s : SharedDaemon) : Frame kind s s := by
  constructor <;> intros <;> rfl

theorem Edit.frame (change : Edit) (s : SharedDaemon) : Frame change.kind s (s.edit change) := by
  cases change <;> constructor <;> intros <;> first | rfl | contradiction

theorem Call.frame (made : Call β) (answer : Answer) (s : SharedDaemon) : Frame made.kind s (made.exec answer s).2 := by
  obtain ⟨display, units, changed, displayKept, unitsKept⟩ := made.exec_eq answer s
  rw [changed]
  constructor <;> intros <;> first | rfl | exact displayKept ‹_› | exact unitsKept ‹_›

namespace SharedDaemon

/-- A transition changes the domain, or nothing. -/
theorem apply_eq (transition : Transition) (s : SharedDaemon) : ∃ state, (s.apply transition).2 = { s with state } := by
  unfold apply
  split <;> exact ⟨_, rfl⟩

theorem beginPark_eq (id : AppId) (returningSystem : Bool) (s : SharedDaemon) :
    ∃ state, (s.beginPark id returningSystem).2 = { s with state } := by
  unfold beginPark
  split
  · exact apply_eq _ s
  · exact ⟨_, rfl⟩

theorem finishPark_eq (id : AppId) (s : SharedDaemon) : ∃ state, (s.finishPark id).2 = { s with state } := by
  unfold finishPark
  split
  · exact apply_eq _ s
  · split <;> exact ⟨_, rfl⟩

theorem appParked_eq (id : AppId) (s : SharedDaemon) : ∃ state, (s.appParked id).2 = { s with state } := by
  unfold appParked
  split
  · exact apply_eq _ s
  · exact ⟨_, rfl⟩

theorem marked_snd (answer : Answer) (applied : Except String Unit × SharedDaemon) : (marked answer applied).2 = applied.2 := by
  unfold marked
  split <;> rfl

theorem appReady_eq (id : AppId) (answer : Answer) (s : SharedDaemon) : ∃ state, (s.appReady id answer).2 = { s with state } := by
  unfold appReady
  split
  · rw [marked_snd]
    exact apply_eq _ s
  · exact ⟨_, rfl⟩

theorem clearClosedLastApp_eq (id : AppId) (s : SharedDaemon) : ∃ state, s.clearClosedLastApp id = { s with state } := by
  unfold clearClosedLastApp
  split <;> exact ⟨_, rfl⟩

theorem closed_eq (id : AppId) (wasForeground : Bool) (s : SharedDaemon) :
    ∃ state, (s.closed id wasForeground).2 = { s with state } := by
  unfold closed
  split
  · obtain ⟨state, moved⟩ := apply_eq (.appExited id) s
    split
    next after applied =>
      rw [applied] at moved
      have same : after = { s with state } := moved
      subst same
      exact clearClosedLastApp_eq id _
    next => exact ⟨state, moved⟩
  · exact clearClosedLastApp_eq id s

theorem stopped_eq (id : AppId) (s : SharedDaemon) : ∃ state, (s.stopped id).2 = { s with state } := by
  unfold stopped
  split
  · exact apply_eq _ s
  · split <;> exact ⟨_, rfl⟩

theorem commitReady_eq (id : AppId) (answer : Answer) (s : SharedDaemon) :
    ∃ state inputModes, (s.commitReady id answer).2 = { s with state, inputModes } := by
  unfold commitReady
  obtain ⟨state, moved⟩ := apply_eq (.appReady id) s
  split
  next after applied =>
    rw [applied] at moved
    rw [marked_snd, show after = { s with state } from moved]
    exact ⟨_, _, rfl⟩
  next => exact ⟨state, s.inputModes, moved⟩

theorem setPendingMode_eq (token : Supervisor.AppToken) (mode : InputMode) (s : SharedDaemon) :
    ∃ inputModes, (s.setPendingMode token mode).2 = { s with inputModes } := by
  unfold setPendingMode
  repeat' split
  all_goals exact ⟨_, rfl⟩

theorem reserveReport_eq (id : AppId) (pending : PendingExit) (s : SharedDaemon) :
    ∃ exitReports, (s.reserveReport id pending).2 = { s with exitReports } := by
  unfold reserveReport
  repeat' split
  all_goals exact ⟨_, rfl⟩

end SharedDaemon

/-- What an operation leaves as it was. -/
theorem Op.frame (op : Op β) (me : Nat) (answer : Answer) (s : SharedDaemon) : Frame op.kind s (op.exec me answer s).2 := by
  cases op with
  | edit change => exact change.frame s
  | call made => exact made.frame answer s
  | acquire lock => cases lock <;> constructor <;> intros <;> first | rfl | contradiction
  | release lock failed => cases lock <;> constructor <;> intros <;> first | rfl | contradiction
  | apply transition =>
    obtain ⟨state, moved⟩ := s.apply_eq transition
    unfold Op.exec
    simp only [moved]
    constructor <;> intros <;> first | rfl | contradiction
  | beginPark id returningSystem =>
    obtain ⟨state, moved⟩ := s.beginPark_eq id returningSystem
    unfold Op.exec
    simp only [moved]
    constructor <;> intros <;> first | rfl | contradiction
  | finishPark id =>
    obtain ⟨state, moved⟩ := s.finishPark_eq id
    unfold Op.exec
    simp only [moved]
    constructor <;> intros <;> first | rfl | contradiction
  | appParked id =>
    obtain ⟨state, moved⟩ := s.appParked_eq id
    unfold Op.exec
    simp only [moved]
    constructor <;> intros <;> first | rfl | contradiction
  | appReady id =>
    obtain ⟨state, moved⟩ := s.appReady_eq id answer
    unfold Op.exec
    simp only [moved]
    constructor <;> intros <;> first | rfl | contradiction
  | closed id wasForeground =>
    obtain ⟨state, moved⟩ := s.closed_eq id wasForeground
    unfold Op.exec
    simp only [moved]
    constructor <;> intros <;> first | rfl | contradiction
  | stopped id =>
    obtain ⟨state, moved⟩ := s.stopped_eq id
    unfold Op.exec
    simp only [moved]
    constructor <;> intros <;> first | rfl | contradiction
  | commitReady id =>
    obtain ⟨state, inputModes, moved⟩ := s.commitReady_eq id answer
    unfold Op.exec
    simp only [moved]
    constructor <;> intros <;> first | rfl | contradiction
  | setPendingMode token mode =>
    obtain ⟨inputModes, moved⟩ := s.setPendingMode_eq token mode
    unfold Op.exec
    simp only [moved]
    constructor <;> intros <;> first | rfl | contradiction
  | reserveReport id pending =>
    obtain ⟨exitReports, moved⟩ := s.reserveReport_eq id pending
    unfold Op.exec
    simp only [moved]
    constructor <;> intros <;> first | rfl | contradiction
  | beginCommit request =>
    unfold Op.exec
    simp only
    split <;> constructor <;> intros <;> first | rfl | contradiction
  | takeGeneration id generation =>
    unfold Op.exec
    simp only
    split <;> constructor <;> intros <;> first | rfl | contradiction
  | consumeReport id pending =>
    unfold Op.exec
    simp only
    split <;> constructor <;> intros <;> first | rfl | contradiction
  | releaseReport id pending =>
    unfold Op.exec
    simp only
    split
    · exact (Edit.exitReport id none).frame s
    · exact Frame.refl _ s
  | sleep operation =>
    unfold Op.exec
    simp only
    split <;> constructor <;> intros <;> first | rfl | contradiction
  | send event =>
    unfold Op.exec
    simp only
    split <;> constructor <;> intros <;> first | rfl | contradiction
  | read look => exact Frame.refl _ s
  | readModes look => exact Frame.refl _ s
  | ask question => exact Frame.refl _ s
  | _ => constructor <;> intros <;> first | rfl | contradiction

end

/-! ## What the jobs consist of -/

@[grind =] def Op.kindIn (kinds : Kind → Bool) {β : Type} (op : Op β) : Prop := kinds op.kind

/-- The job performs operations of these kinds only. -/
abbrev Within (kinds : Kind → Bool) {α : Type} (job : Job α) : Prop := Only (@Op.kindIn kinds) job

section
variable {kinds : Kind → Bool} {α : Type}

@[grind =] theorem within_perform (op : Op α) : Within kinds (perform op) ↔ kinds op.kind := only_op op

@[grind =] theorem within_attempt (op : Op (Except String α)) : Within kinds (attempt op) ↔ kinds op.kind := only_try op

@[grind =] theorem within_read (look : SharedDaemon → α) : Within kinds (read look) ↔ kinds .look := only_op _

@[grind =] theorem within_ask (question : Question) : Within kinds (ask question) ↔ kinds .look := only_op _

@[grind =] theorem within_edit (change : Edit) : Within kinds (edit change) ↔ kinds change.kind := only_op _

@[grind =] theorem within_call (made : Call α) : Within kinds (call made) ↔ kinds made.kind := only_try _

@[grind =] theorem within_tried (made : Call α) : Within kinds (tried made) ↔ kinds made.kind := only_op _

@[grind =] theorem within_getDomain : Within kinds getDomain ↔ kinds .look := only_op _

theorem AppManifest.backgroundUnit_named {manifest : AppManifest} {unit : ServiceUnit} (there : manifest.backgroundUnit = some unit) :
    ∃ name, unit = .background name := by
  obtain ⟨service, -, same⟩ := Option.map_eq_some_iff.mp there
  cases service with
  | systemd name => exact ⟨name, same.symm⟩
  | managed => exact ⟨_, same.symm⟩

variable {id : AppId} {queued : QueuedEvent} {manifest : AppManifest} {context : LaunchContext} {openPath : Option String}
  {fence : Option ForegroundFence} {sleepEpoch : Nat} {cause : String}

@[grind ←] theorem saveSession_within {saved : AppSession} (outside : kinds .outside) (session : kinds .session) :
    Within kinds (saveSession saved) := by
  unfold saveSession
  grind

@[grind ←] theorem removeSession_within (outside : kinds .outside) (session : kinds .session) :
    Within kinds (removeSession id) := by
  unfold removeSession
  grind

@[grind ←] theorem ensureBackgroundService_within (outside : kinds .outside) (count : kinds .count) :
    Within kinds (ensureBackgroundService manifest) := by
  unfold ensureBackgroundService
  grind

@[grind ←] theorem stopBackgroundService_within {manifest : Option AppManifest} (outside : kinds .outside) :
    Within kinds (stopBackgroundService manifest) := by
  unfold stopBackgroundService
  cases service : manifest.bind AppManifest.backgroundUnit with
  | none => exact only_pure ()
  | some unit =>
    obtain ⟨declared, -, named⟩ := Option.bind_eq_some_iff.mp service
    obtain ⟨name, rfl⟩ := declared.backgroundUnit_named named
    grind

@[grind ←] theorem showManagerSurface_within (outside : kinds .outside) (count : kinds .count)
    (display : kinds .display) : Within kinds showManagerSurface := by
  unfold showManagerSurface
  grind

@[grind ←] theorem restartRuntimeAndWait_within (outside : kinds .outside) (count : kinds .count)
    (display : kinds .display) : Within kinds restartRuntimeAndWait := by
  unfold restartRuntimeAndWait
  grind

@[grind ←] theorem thawIfFrozen_within {policy : Option BackgroundExecution} {describe : String → String}
    (outside : kinds .outside) : Within kinds (thawIfFrozen policy id describe) := by
  unfold thawIfFrozen
  grind

@[grind ←] theorem clearRuntimeTracking_within (process : kinds .process) (mode : kinds .mode) (report : kinds .report) :
    Within kinds (clearRuntimeTracking id) := by
  unfold clearRuntimeTracking
  grind

@[grind ←] theorem foregroundFenceIfSupported_within (look : kinds .look) :
    Within kinds (foregroundFenceIfSupported id manifest) := by
  unfold foregroundFenceIfSupported
  grind

@[grind ←] theorem sendBackgroundIfSupported_within (outside : kinds .outside) :
    Within kinds (sendBackgroundIfSupported id manifest fence) := by
  unfold sendBackgroundIfSupported
  grind

@[grind ←] theorem parkedSession_within {lifecycle : Option (Option String)} (look : kinds .look) :
    Within kinds (parkedSession id manifest lifecycle) := by
  unfold parkedSession
  grind

@[grind ←] theorem handOver_within {showManager : Bool} (outside : kinds .outside) (count : kinds .count)
    (display : kinds .display) : Within kinds (handOver showManager) := by
  unfold handOver
  grind

@[grind ←] theorem validateRecoveryFence_within {fence : ForegroundFence} (look : kinds .look) :
    Within kinds (validateRecoveryFence id fence) := by
  unfold validateRecoveryFence
  grind

@[grind ←] theorem ensureLaunchCurrent_within (look : kinds .look) : Within kinds (ensureLaunchCurrent queued) := by
  unfold ensureLaunchCurrent
  grind

@[grind ←] theorem checkOpenPath_within (outside : kinds .outside) : Within kinds (checkOpenPath id openPath) := by
  unfold checkOpenPath
  grind

@[grind ←] theorem prepareBackground_within {quiesced : Bool} (outside : kinds .outside) (count : kinds .count) :
    Within kinds (prepareBackground manifest quiesced) := by
  unfold prepareBackground
  refine only_ite (fun _ => ?_) fun _ => ensureBackgroundService_within outside count
  cases unit : manifest.backgroundUnit with
  | none => exact only_pure ()
  | some unit =>
    obtain ⟨name, rfl⟩ := manifest.backgroundUnit_named unit
    grind

@[grind ←] theorem launchGeneration_within {active : Bool} (look : kinds .look) (count : kinds .count) :
    Within kinds (launchGeneration id active) := by
  unfold launchGeneration
  grind

@[grind ←] theorem registerRuntime_within (process : kinds .process) (mode : kinds .mode) :
    Within kinds (registerRuntime context) := by
  unfold registerRuntime
  grind

@[grind ←] theorem resumeOrStart_within (outside : kinds .outside) (unit : kinds .unit) :
    Within kinds (resumeOrStart context) := by
  unfold resumeOrStart
  grind

@[grind ←] theorem reserveControlledExit_within (look : kinds .look) (report : kinds .report) :
    Within kinds (reserveControlledExit id) := by
  unfold reserveControlledExit
  grind

@[grind ←] theorem releaseControlledExit_within {pending : Option PendingExit} (report : kinds .report) :
    Within kinds (releaseControlledExit id pending) := by
  unfold releaseControlledExit
  grind

@[grind ←] theorem requestHomeUnlock_within (outside : kinds .outside) : Within kinds requestHomeUnlock := by
  unfold requestHomeUnlock
  grind

@[grind ←] theorem scheduleLockedResuspend_within {sleep : SleepSnapshot} (look : kinds .look) (event : kinds .event) :
    Within kinds (scheduleLockedResuspend sleep) := by
  unfold scheduleLockedResuspend
  grind

@[grind ←] theorem scheduleFailedResuspend_within {error : String} {sleep : SleepSnapshot} {interactionEpoch : Nat}
    (look : kinds .look) (event : kinds .event) :
    Within kinds (scheduleFailedResuspend error sleep interactionEpoch) := by
  unfold scheduleFailedResuspend
  grind

@[grind ←] theorem rollbackDisplayLock_within (outside : kinds .outside) (display : kinds .display) :
    Within kinds (rollbackDisplayLock sleepEpoch) := by
  unfold rollbackDisplayLock
  grind

@[grind ←] theorem retainAwakeLock_within {awake : SleepSnapshot} (look : kinds .look) (event : kinds .event) :
    Within kinds (retainAwakeLock awake cause) := by
  unfold retainAwakeLock
  grind

@[grind ←] theorem armWakeGuardForLockedResuspend_within (outside : kinds .outside) :
    Within kinds armWakeGuardForLockedResuspend := by
  unfold armWakeGuardForLockedResuspend
  grind

@[grind ←] theorem sendHomeEvent_within {message : String} (outside : kinds .outside) :
    Within kinds (sendHomeEvent message) := by
  unfold sendHomeEvent
  grind

@[grind ←] theorem retainSleepingUnlock_within (outside : kinds .outside) :
    Within kinds (retainSleepingUnlock requestHomeUnlock) := by
  unfold retainSleepingUnlock
  grind

@[grind ←] theorem abortWake_within (sleep : kinds .sleep) : Within kinds (abortWake sleepEpoch cause : Job α) := by
  unfold abortWake
  grind

@[grind ←] theorem enterSleeping_within (sleep : kinds .sleep) (domain : kinds .domain) : Within kinds enterSleeping := by
  unfold enterSleeping
  grind

@[grind ←] theorem revealManagerBeforeClose_within (outside : kinds .outside) (count : kinds .count)
    (display : kinds .display) (domain : kinds .domain) : Within kinds revealManagerBeforeClose := by
  unfold revealManagerBeforeClose
  grind

/-! ## Jobs that look at the state and call out -/

variable (look : kinds .look) (outside : kinds .outside)
include look outside

@[grind ←] theorem markSessionProcessStopped_within (session : kinds .session) :
    Within kinds (markSessionProcessStopped id) := by
  unfold markSessionProcessStopped
  grind

@[grind ←] theorem startDeclaredBackgroundServices_within (count : kinds .count) :
    Within kinds startDeclaredBackgroundServices := by
  unfold startDeclaredBackgroundServices
  grind

@[grind ←] theorem ensureManagerSurface_within (count : kinds .count) (display : kinds .display) :
    Within kinds ensureManagerSurface := by
  unfold ensureManagerSurface
  refine only_bind (by grind) fun domain => only_ite (fun _ => only_pure ()) fun _ => ?_
  repeat refine only_bind (by grind) fun _ => ?_
  grind

@[grind ←] theorem stopManagedApp_within (session : kinds .session) (unit : kinds .unit) :
    Within kinds (stopManagedApp manifest) := by
  unfold stopManagedApp
  grind

@[grind ←] theorem stopManagedApps_within (session : kinds .session) (unit : kinds .unit) :
    Within kinds stopManagedApps := by
  unfold stopManagedApps
  grind

@[grind ←] theorem validateExistingRuntime_within (session : kinds .session) (unit : kinds .unit)
    (process : kinds .process) : Within kinds (validateExistingRuntime id) := by
  unfold validateExistingRuntime
  iterate 4 refine only_bind (by grind) fun _ => ?_
  refine only_ite (fun _ => ?_) fun _ => only_pure _
  refine only_bind (by grind) fun thawed => only_bind (by grind) fun stopped => ?_
  cases stopped with
  | ok _ =>
    repeat refine only_bind (by grind) fun _ => ?_
    exact only_pure _
  | error _ => cases thawed <;> exact only_throw _

@[grind ←] theorem prepareLaunch_within (session : kinds .session) (unit : kinds .unit) (process : kinds .process)
    (count : kinds .count) : Within kinds (prepareLaunch id openPath) := by
  unfold prepareLaunch
  repeat refine only_bind (by grind) fun _ => ?_
  grind

@[grind ←] theorem activateAndWait_within (unit : kinds .unit) (process : kinds .process) (mode : kinds .mode)
    (count : kinds .count) : Within kinds (activateAndWait context queued) := by
  unfold activateAndWait
  repeat refine only_bind (by grind) fun _ => ?_
  grind

@[grind ←] theorem thawBeforeShutdown_within : Within kinds (thawBeforeShutdown id) := by
  unfold thawBeforeShutdown
  grind

@[grind ←] theorem requestShutdown_within {manifest : Option AppManifest} :
    Within kinds (requestShutdown id manifest) := by
  unfold requestShutdown
  grind

@[grind ←] theorem updateSessionAfterExit_within {exitCode : Int} {crashed : Bool} (session : kinds .session) :
    Within kinds (updateSessionAfterExit id exitCode crashed) := by
  unfold updateSessionAfterExit
  grind

@[grind ←] theorem finishPhysicalResume_within {powerKey : Bool} (event : kinds .event) (sleep : kinds .sleep) :
    Within kinds (finishPhysicalResume sleepEpoch powerKey) := by
  unfold finishPhysicalResume
  grind

@[grind ←] theorem retainAfterFailedSuspend_within {error : String} {interactionEpoch : Nat} (event : kinds .event) :
    Within kinds (retainAfterFailedSuspend error interactionEpoch) := by
  unfold retainAfterFailedSuspend
  repeat refine only_bind (by grind) fun _ => ?_
  grind

@[grind ←] theorem requestAutoSleep_within {activityRevision : Nat} :
    Within kinds (requestAutoSleep activityRevision) := by
  unfold requestAutoSleep
  grind

@[grind ←] theorem handleCoverOpened_within (cover : kinds .cover) : Within kinds handleCoverOpened := by
  unfold handleCoverOpened
  grind

@[grind ←] theorem rollbackSleep_within (sleep : kinds .sleep) (display : kinds .display) (domain : kinds .domain) :
    Within kinds (rollbackSleep sleepEpoch cause : Job α) := by
  unfold rollbackSleep
  refine only_bind (by grind) fun _ => only_bind (by grind) fun _ => only_bind (by grind) fun guard => ?_
  cases guard with
  | error error => grind
  | ok _ =>
    refine only_bind (by grind) fun unlocked => ?_
    cases unlocked <;> grind

@[grind ←] theorem prepareSleepLock_within {lockSurfaceSequence : Nat} (count : kinds .count) (commit : kinds .commit)
    (sleep : kinds .sleep) (display : kinds .display) (domain : kinds .domain) :
    Within kinds (prepareSleepLock lockSurfaceSequence queued) := by
  unfold prepareSleepLock
  repeat refine only_bind (by grind) fun _ => ?_
  grind

@[grind ←] theorem completePark_within {showManager : Bool} (count : kinds .count) (session : kinds .session)
    (display : kinds .display) (domain : kinds .domain) : Within kinds (completePark id manifest fence showManager) := by
  unfold completePark
  repeat refine only_bind (by grind) fun _ => ?_
  grind

@[grind ←] theorem forceStopAfterFailedPark_within (count : kinds .count) (session : kinds .session)
    (process : kinds .process) (mode : kinds .mode) (report : kinds .report) (unit : kinds .unit)
    (display : kinds .display) (domain : kinds .domain) : Within kinds (forceStopAfterFailedPark id) := by
  unfold forceStopAfterFailedPark
  repeat refine only_bind (by grind) fun _ => ?_
  grind

@[grind ←] theorem rollbackLaunch_within (count : kinds .count) (session : kinds .session) (process : kinds .process)
    (mode : kinds .mode) (report : kinds .report) (unit : kinds .unit) (display : kinds .display)
    (domain : kinds .domain) : Within kinds (rollbackLaunch context) := by
  unfold rollbackLaunch
  repeat refine only_bind (by grind) fun _ => ?_
  grind

@[grind ←] theorem rollbackError_within (count : kinds .count) (session : kinds .session) (process : kinds .process)
    (mode : kinds .mode) (report : kinds .report) (unit : kinds .unit) (display : kinds .display)
    (domain : kinds .domain) : Within kinds (rollbackError context cause) := by
  unfold rollbackError
  grind

@[grind ←] theorem closeReserved_within {complete wasForeground : Bool} {manifest : Option AppManifest}
    (count : kinds .count) (session : kinds .session) (process : kinds .process) (mode : kinds .mode)
    (report : kinds .report) (unit : kinds .unit) (display : kinds .display) (domain : kinds .domain) :
    Within kinds (closeReserved id complete wasForeground manifest) := by
  unfold closeReserved
  repeat refine only_bind (by grind) fun _ => ?_
  grind

end

end Remagic.Daemon
