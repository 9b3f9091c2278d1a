import Remagic.Fallible
import Remagic.ManagerState

/-!
# The Home surface

Home draws the manager's pages, and asks the daemon for all else. It keeps its own mode,
and asks for the daemon's domain only where a request of its own has failed.
-/

namespace Remagic.Home
open Daemon Fallible

inductive UiMode where
  | welcome
  | manager
  | settings
  | backlight
  | wallpaperBrowser
  | store
  | systemUpdate
  | lockPreview
  | locked
  deriving DecidableEq

inductive ResumeTarget where
  | ui (mode : UiMode)
  | app (id : AppId)
  deriving DecidableEq

inductive Action where
  | launch (id : AppId)
  | close (id : AppId)
  | openStore
  | storeInstall (id : String)
  | storeUpgrade (id : String)
  | storeUninstall (id : String)
  | openSystemUpdate
  | refreshSystemUpdate
  | systemUpdate
  | unavailable
  | system
  | sleep
  | openSettings
  | backManager
  | backSettings
  | openBacklight
  | setBacklight (percent : Nat)
  | adjustBacklight (delta : Int)
  | openWallpaperBrowser
  | selectWallpaper (id : String)
  | wallpaperPage (delta : Int)
  | toggleWallpaperFit
  | cycleAutoSleep
  | previewLock
  deriving DecidableEq

/-- What Home keeps between events. Of the two operations in progress, only whether there
    is one. -/
structure HomeState where
  mode : UiMode
  storeProgress : Bool := false
  systemUpdateProgress : Bool := false
  resumeTarget : Option ResumeTarget := none
  deferredCoverSleep : Bool := false
  deriving DecidableEq

/-! ## Calls -/

/-- How a call of Home ends: with success, without effect, or with its reply lost. -/
inductive Outcome where
  | done
  | refused
  | replyLost
  deriving DecidableEq

structure Answer where
  /-- The daemon's domain by then, unless it sleeps: only Home puts it to sleep, and wakes it. -/
  meanwhile : DomainState
  outcome : Outcome
  /-- The domain that the effect leaves, of a request other than to sleep and to wake. -/
  reached : DomainState := .manager

structure World where
  home : HomeState
  domain : DomainState
  answers : List Answer := []
  /-- Ghost: the last look at the domain showed neither the manager nor sleep, and no request to
      sleep or to wake has succeeded since. -/
  blind : Bool := false

abbrev HomeM (α : Type) : Type := ExceptT Unit (StateM World) α

/-- The daemon goes its way. -/
def World.drift (world : World) (meanwhile : DomainState) : World :=
  if world.domain = .sleeping ∨ meanwhile = .sleeping then world else { world with domain := meanwhile }

/-- The next call, of which none is left unanswered: those beyond the list are refused. -/
def call : HomeM Outcome :=
  modifyGet fun world => match world.answers with
    | [] => (.refused, world)
    | answer :: answers => (answer.outcome, { world with answers }.drift answer.meanwhile)

/-- `request`: whether it succeeded, and what it does to the domain if it has an effect. -/
def request (effect : DomainState → DomainState) : HomeM Bool := do
  let outcome ← call
  if outcome ≠ .refused then
    modify fun world => { world with domain := effect world.domain }
  return outcome = .done

/-- A request to sleep or to wake shows the domain where it succeeds. -/
def telling (request : HomeM Bool) : HomeM Bool := do
  let done ← request
  if done then modify fun world => { world with blind := false }
  return done

def requestSleep : HomeM Bool := telling (request fun _ => .sleeping)

def requestWake : HomeM Bool := telling (request fun _ => .manager)

/-- Where a request other than to sleep and to wake takes the daemon. -/
def otherEffect (reached : Option DomainState) (domain : DomainState) : DomainState :=
  match reached with
  | some .sleeping | none => domain
  | some reached => reached

/-- `Launch`, `Close`, `ReturnSystem` and `OpenManager`. -/
def requestOther : HomeM Bool := do
  let answers := (← get).answers
  request (otherEffect (answers.head?.map Answer.reached))

/-- `domain_state`. -/
def domainState : HomeM (Option DomainState) := do
  let outcome ← call
  let domain := (← get).domain
  let seen := if outcome = .done then some domain else none
  modify fun world => { world with blind := !(seen = some .manager || seen = some .sleeping) }
  return seen

/-- A call whose failure is only noted: `refresh_apps`, the catalog, the power and the
    backlight. -/
def consult : HomeM Unit := do
  let _ ← call

/-- Drawing a page, and whatever else ends Home where it fails. -/
def render : HomeM Unit := do
  if (← call) ≠ .done then throw ()

def setMode (mode : UiMode) : HomeM Unit :=
  modify fun world => { world with home := { world.home with mode } }

def getHome : HomeM HomeState := return (← get).home

def editHome (edit : HomeState → HomeState) : HomeM Unit := modify fun world => { world with home := edit world.home }

/-! ## Locking and unlocking -/

def unlockCommittedAfterLostAck (domain : Option DomainState) : Bool := domain = some .manager

def retainLockAfterFailedSleep (domain : Option DomainState) : Bool := domain = some .sleeping

def reconcileMode : HomeM Unit := do
  let domain ← domainState
  let mode := (← getHome).mode
  match domain with
  | none => return
  | some .sleeping =>
    if mode ≠ .locked then
      render
      setMode .locked
  | some .manager =>
    if mode ≠ .manager then
      consult
      render
      setMode .manager
  | some _ => return

def unlock : HomeM Unit := do
  consult
  render
  if ← requestWake then
    setMode .manager
  else if unlockCommittedAfterLostAck (← domainState) then
    setMode .manager
  else
    render
    setMode .locked

def sleep : HomeM Unit := do
  render
  setMode .locked
  if ← requestSleep then unlock
  else if !retainLockAfterFailedSleep (← domainState) then reconcileMode

/-- The page of a mode, and with it the mode. -/
def showPage (mode : UiMode) : HomeM Unit := do
  render
  setMode mode

/-- `render_resume_target`: the application to launch afterwards. -/
def renderResumeTarget : ResumeTarget → HomeM (Option AppId)
  | .app id => do
    consult
    showPage .manager
    return some id
  | .ui .welcome => do
    -- The device profile, which may not be detected.
    render
    showPage .welcome
    return none
  | .ui .manager | .ui .locked => do
    consult
    showPage .manager
    return none
  | .ui .settings | .ui .lockPreview => do
    showPage .settings
    return none
  | .ui .backlight => do
    consult
    showPage .backlight
    return none
  | .ui .wallpaperBrowser => do
    showPage .wallpaperBrowser
    return none
  | .ui .store => do
    consult
    consult
    showPage .store
    return none
  | .ui .systemUpdate => do
    showPage .systemUpdate
    return none

def launchResumeApp : HomeM Unit := do
  if !(← requestOther) then
    consult
    showPage .manager

def resumeUnlock (target : Option ResumeTarget) : HomeM Unit := do
  let launchAfter ← renderResumeTarget (target.getD (.ui .manager))
  if ← requestWake then
    if launchAfter.isSome then launchResumeApp
  else if !unlockCommittedAfterLostAck (← domainState) then
    showPage .locked

/-- `resume_target.take()`. -/
def takeResumeTarget : HomeM (Option ResumeTarget) := do
  let target := (← getHome).resumeTarget
  editHome fun home => { home with resumeTarget := none }
  return target

def requestCoverSleep : HomeM Unit := do
  if ← requestSleep then resumeUnlock (← takeResumeTarget)
  else if !retainLockAfterFailedSleep (← domainState) then reconcileMode

def HomeState.maintenanceActive (home : HomeState) : Bool := home.storeProgress || home.systemUpdateProgress

/-- The lock page, unless it is shown. -/
def lockPage : HomeM Unit := do
  if (← getHome).mode ≠ .locked then showPage .locked

def coverSleep (target : ResumeTarget) : HomeM Unit := do
  editHome fun home => { home with resumeTarget := some target }
  lockPage
  if (← getHome).maintenanceActive then
    editHome fun home => { home with deferredCoverSleep := true }
  else
    editHome fun home => { home with deferredCoverSleep := false }
    requestCoverSleep

def resumeTargetForMode : UiMode → ResumeTarget
  | .locked => .ui .manager
  | .lockPreview => .ui .settings
  | mode => .ui mode

/-! ## Tasks -/

inductive TaskResult where
  | store (ok : Bool)
  | systemInstall (ok : Bool)
  deriving DecidableEq

/-- The page is drawn again. -/
def redraw : HomeM Unit := render

/-- The result itself, in `handle_task_result`. -/
def takeTaskResult : TaskResult → HomeM Unit
  | .store _ => do
    editHome fun home => { home with storeProgress := false }
    if (← getHome).mode = .store then
      consult
      consult
      redraw
    else consult
  | .systemInstall ok => do
    -- An installation that has begun stays in progress, at its end.
    editHome fun home => { home with systemUpdateProgress := ok }
    if (← getHome).mode = .systemUpdate then redraw

def handleTaskResult (result : TaskResult) : HomeM Unit := do
  takeTaskResult result
  let home ← getHome
  if home.deferredCoverSleep && !home.maintenanceActive && home.mode = .locked then
    editHome fun home => { home with deferredCoverSleep := false }
    requestCoverSleep

/-! ## Buttons -/

/-- The welcome's way back to the system, once it is marked as complete. -/
def welcomeReturn : HomeM Unit := do
  render
  if !(← requestOther) then showPage .manager

/-- `handle_welcome`. The result of such a handler is whether the action was its own. -/
def handleWelcome (mode : UiMode) (action : Action) : HomeM Bool := do
  match mode, action with
  | .welcome, .openStore =>
    -- `first_run::complete` may fail.
    render
    consult
    consult
    showPage .store
    return true
  | .welcome, .system =>
    welcomeReturn
    return true
  | _, _ => return false

/-- `install_from_store`, `upgrade_from_store` and `uninstall_from_store`, which differ in
    the task that they start. -/
def startStoreTask : HomeM Unit := do
  if !(← getHome).storeProgress then
    editHome fun home => { home with storeProgress := true }
    redraw

def handleStore (mode : UiMode) (action : Action) : HomeM Bool := do
  match mode, action with
  | .manager, .openStore =>
    consult
    consult
    showPage .store
    return true
  | .store, .backManager =>
    consult
    showPage .manager
    return true
  | .store, .storeInstall _ | .store, .storeUpgrade _ | .store, .storeUninstall _ =>
    startStoreTask
    return true
  | .store, .launch _ =>
    let _ ← requestOther
    consult
    redraw
    return true
  | _, _ => return false

def refreshSystemUpdatePage : HomeM Unit := do
  editHome fun home => { home with systemUpdateProgress := true }
  redraw
  consult
  editHome fun home => { home with systemUpdateProgress := false }
  redraw

def installSystemUpdate : HomeM Unit := do
  if !(← getHome).systemUpdateProgress then
    editHome fun home => { home with systemUpdateProgress := true }
    redraw

def handleSystemUpdate (mode : UiMode) (action : Action) : HomeM Bool := do
  match mode, action with
  | .settings, .openSystemUpdate =>
    refreshSystemUpdatePage
    setMode .systemUpdate
    return true
  | .systemUpdate, .backSettings =>
    showPage .settings
    return true
  | .systemUpdate, .refreshSystemUpdate =>
    refreshSystemUpdatePage
    return true
  | .systemUpdate, .systemUpdate =>
    installSystemUpdate
    return true
  | _, _ => return false

/-- `settings_ui::handle`, with `handle_wallpapers` before it. -/
def handleSettings (mode : UiMode) (action : Action) : HomeM Bool := do
  match mode, action with
  | .settings, .openWallpaperBrowser =>
    showPage .wallpaperBrowser
    return true
  | .wallpaperBrowser, .backSettings =>
    showPage .settings
    return true
  | .wallpaperBrowser, .selectWallpaper _ | .wallpaperBrowser, .wallpaperPage _ | .wallpaperBrowser, .toggleWallpaperFit =>
    redraw
    return true
  | .manager, .openSettings =>
    consult
    consult
    showPage .settings
    return true
  | .settings, .backManager =>
    consult
    showPage .manager
    return true
  | .settings, .toggleWallpaperFit =>
    redraw
    return true
  | .settings, .openBacklight =>
    consult
    showPage .backlight
    return true
  | .backlight, .backSettings =>
    showPage .settings
    return true
  | .backlight, .setBacklight _ | .backlight, .adjustBacklight _ =>
    consult
    consult
    redraw
    return true
  | .settings, .cycleAutoSleep =>
    consult
    redraw
    return true
  | .settings, .system =>
    let _ ← requestOther
    return true
  | .settings, .previewLock =>
    showPage .lockPreview
    return true
  | .lockPreview, .backSettings =>
    showPage .settings
    return true
  | _, _ => return false

/-- `execute_action`. After a close Home looks at the applications until its own is gone,
    ten times at most; what it sees is not kept here. -/
def executeAction : Action → HomeM Unit
  | .launch _ | .system => do
    let _ ← requestOther
  | .close _ => do
    if ← requestOther then consult
  | _ => return

def executeManagerAction (action : Action) : HomeM Unit := do
  executeAction action
  consult
  redraw

def handleManager (mode : UiMode) (action : Action) : HomeM Unit := do
  match mode, action with
  | .manager, .sleep => sleep
  | .manager, action => executeManagerAction action
  | _, _ => return

/-- `release::handle`, of a button that is released where it was pressed. -/
def handle (action : Action) : HomeM Unit := do
  render
  if ← handleWelcome (← getHome).mode action then return
  else if ← handleStore (← getHome).mode action then return
  else if ← handleSystemUpdate (← getHome).mode action then return
  else if ← handleSettings (← getHome).mode action then return
  else handleManager (← getHome).mode action

/-! ## The loop -/

inductive Event where
  | taskResult (result : TaskResult)
  | autoSleep
  | coverSleep (app : Option AppId)
  | resumeUnlock (app : Option AppId)
  | wallpapersChanged
  | button (action : Action)
  deriving DecidableEq

/-- The application that the cover's opening names comes before the one kept. -/
def retarget (app : Option AppId) : HomeM Unit :=
  editHome fun home => { home with deferredCoverSleep := false, resumeTarget := (app.map .app).or home.resumeTarget }

def handleEvent : Event → HomeM Unit
  | .taskResult result => handleTaskResult result
  | .autoSleep => do
    if (← getHome).mode ≠ .locked then sleep
  | .coverSleep app => do
    let mode := (← getHome).mode
    coverSleep ((app.map .app).getD (resumeTargetForMode mode))
  | .resumeUnlock app => do
    if (← getHome).mode = .locked then
      retarget app
      resumeUnlock (← takeResumeTarget)
    else if app.isSome then launchResumeApp
  | .wallpapersChanged => do
    if (← getHome).mode = .wallpaperBrowser then redraw
  | .button action => handle action

/-- `initial_page`, once the display is open. -/
def initialPage (pending : Bool) : HomeM Unit := do
  match ← domainState with
  | none => throw ()
  | some domain =>
    consult
    showPage (if domain = .sleeping then .locked else if pending then .welcome else .manager)
    if domain = .manager then
      if !(← requestOther) then throw ()

/-- Home, while it runs, and the daemon. -/
structure Machine where
  running : Option HomeState := none
  domain : DomainState
  blind : Bool := false

inductive Move where
  /-- Home is started, with or without its welcome to come. -/
  | start (pending : Bool) (answers : List Answer)
  | event (event : Event) (answers : List Answer)
  /-- The daemon goes its way while Home waits. -/
  | drift (meanwhile : DomainState)
  | kill

/-- A handler runs to its end: its failure ends Home. -/
def Machine.run (machine : Machine) (home : HomeState) (answers : List Answer) (handler : HomeM Unit) : Machine :=
  match handler.run { home, domain := machine.domain, answers, blind := machine.blind } with
  | (.ok _, world) => { running := some world.home, domain := world.domain, blind := world.blind }
  | (.error _, world) => { running := none, domain := world.domain, blind := world.blind }

def Machine.next (machine : Machine) : Move → Machine
  | .start pending answers =>
    if machine.running.isSome then machine
    else machine.run { mode := .manager } answers (initialPage pending)
  | .event event answers =>
    match machine.running with
    | some home => machine.run home answers (handleEvent event)
    | none => machine
  | .drift meanwhile =>
    if machine.domain = .sleeping ∨ meanwhile = .sleeping then machine else { machine with domain := meanwhile }
  | .kill => { machine with running := none }

end Remagic.Home
