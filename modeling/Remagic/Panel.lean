import Remagic.Render

/-!
# The panel worker

The thread that alone owns the vendor framebuffer: the commands it receives,
the telemetry it shares with the host and its handlers. A handler works on the
worker's state and may fail after an edit, so it returns the state with its
result. What it reads from outside (the shared surfaces, the clock and the
verdict of the vendor library on a submission) is its environment.
-/

namespace Remagic.Display

inductive ErrorKind where
  | notFound | permissionDenied | alreadyExists | wouldBlock | invalidInput | invalidData
  | brokenPipe | timedOut | other
deriving DecidableEq, Repr

/-- `io::Error`. -/
structure IoError where
  kind : ErrorKind
  message : String
deriving DecidableEq, Repr

structure PanelLease where
  key : Int
  generation : Nat
  foregroundEpoch : Nat
deriving DecidableEq, Repr

inductive SubmissionReason where
  | foregroundSwitch | surfaceDamage | fullRefresh | lockScreen | lockRefresh | unlockScreen | liveInk
deriving DecidableEq, Repr

inductive RefreshIntent where
  | ink | monoQuality | ui | content | full
deriving DecidableEq, Repr

def RefreshIntent.rank : RefreshIntent → Nat
  | .ink => 0
  | .monoQuality => 1
  | .ui => 2
  | .content => 3
  | .full => 4

def strongerIntent (left right : RefreshIntent) : RefreshIntent :=
  if right.rank > left.rank then right else left

structure SubmissionRecord where
  sequence : Nat
  surfaceSequence : Nat
  lease : PanelLease
  intent : RefreshIntent
  reason : SubmissionReason
  visibleSignature : UInt64
  marker : Option Nat
  success : Bool
deriving DecidableEq, Repr

structure DeferredDamage where
  rect : Rect
  intent : RefreshIntent
deriving DecidableEq, Repr

/-! ## Telemetry -/

/-- `PanelTelemetry`, shared between the worker and the host. -/
structure PanelTelemetry where
  submissionCount : Nat
  lastMarker : Nat
  failureCount : Nat
  visibleSignature : UInt64
  fullRefreshCount : Nat
  lastPresented : Option (Int × Nat)
  committedForeground : Option PanelLease
  committedInk : Option (PanelLease × Bool)
  committedLockEpoch : Nat
  cancelledLockEpoch : Nat
  nextSubmissionSequence : Nat
  recentSubmissions : List SubmissionRecord
  deferredDamage : PanelLease → Option DeferredDamage

instance : Inhabited PanelTelemetry :=
  ⟨⟨0, 0, 0, 0, 0, none, none, none, 0, 0, 0, [], fun _ => none⟩⟩

namespace PanelTelemetry
variable (t : PanelTelemetry)

def deferDamage (lease : PanelLease) (rect : Rect) (intent : RefreshIntent) : PanelTelemetry :=
  let damage := match t.deferredDamage lease with
    | some damage => ⟨damage.rect.union rect, strongerIntent damage.intent intent⟩
    | none => ⟨rect, intent⟩
  { t with deferredDamage := Function.update t.deferredDamage lease (some damage) }

def discardDeferredDamage (lease : PanelLease) : PanelTelemetry :=
  { t with deferredDamage := Function.update t.deferredDamage lease none }

def discardDeferredDamageForKey (key : Int) : PanelTelemetry :=
  { t with deferredDamage := fun lease => if lease.key = key then none else t.deferredDamage lease }

def markPresented (key : Int) (sequence : Nat) : PanelTelemetry := { t with lastPresented := some (key, sequence) }

def commitForeground (lease : PanelLease) : PanelTelemetry := { t with committedForeground := some lease }

def commitInk (lease : PanelLease) (enabled : Bool) : PanelTelemetry :=
  { t with committedInk := some (lease, enabled) }

def clearCommittedForeground (lease : PanelLease) : PanelTelemetry :=
  { t with
    committedForeground := if t.committedForeground = some lease then none else t.committedForeground
    committedInk := if t.committedInk.map Prod.fst = some lease then none else t.committedInk }

def commitLock (sleepEpoch : Nat) : PanelTelemetry := { t with committedLockEpoch := sleepEpoch }

def clearCommittedLock (sleepEpoch : Nat) : PanelTelemetry :=
  { t with committedLockEpoch := if t.committedLockEpoch = sleepEpoch then 0 else t.committedLockEpoch }

def recordLockCancelled (sleepEpoch : Nat) : PanelTelemetry := { t with cancelledLockEpoch := sleepEpoch }

def submissionHistoryCapacity : Nat := 64

def recordSubmission (record : SubmissionRecord) : PanelTelemetry :=
  let history := if t.recentSubmissions.length = submissionHistoryCapacity then t.recentSubmissions.drop 1
    else t.recentSubmissions
  { t with
    nextSubmissionSequence := t.nextSubmissionSequence + 1
    recentSubmissions := history ++ [{ record with sequence := t.nextSubmissionSequence + 1 }] }

end PanelTelemetry

/-! ## State -/

/-- One call of `copy_surface_rect`: the surface, the logical rectangle and the
    commit that the surface had reached. -/
structure Copy where
  shmKey : Nat
  rect : Rect
  sequence : Nat
deriving DecidableEq, Repr

/-- The vendor framebuffer. `copies` records the copies made into it and not
    undone, oldest first; no function of the source has it. -/
@[ext] structure PanelBackend where
  width : Int
  height : Int
  stride : Nat
  positive : 0 < width ∧ 0 < height
  pixels : Array UInt8
  copies : List Copy
deriving DecidableEq

structure InkLease where
  key : Int
  generation : Nat
  epoch : Nat
  enabled : Bool
  region : Option Rect
deriving DecidableEq, Repr

instance : Inhabited InkLease := ⟨⟨0, 0, 0, false, none⟩⟩

def InkLease.lease (ink : InkLease) : PanelLease := ⟨ink.key, ink.generation, ink.epoch⟩

structure PanelLock where
  sleepEpoch : Nat
  lease : PanelLease
  frozenSurfaceSequence : Nat
deriving DecidableEq, Repr

inductive PanelCommand where
  | registerSurface (key : Int) (shmKey : Nat)
  | dropSurface (key : Int)
  | damage (lease : PanelLease) (rect : Rect) (intent : RefreshIntent)
  | setForeground (lease : PanelLease) (fullRefresh : Bool)
  | activateForeground (lease : PanelLease) (inkEnabled fullRefresh : Bool)
  | clearForeground (lease : PanelLease)
  | configureInk (lease : PanelLease) (enabled : Bool) (region : Option Rect)
  | pen (lease : PanelLease) (frame : PenFrame)
  | fullRefresh (lease : PanelLease)
  | showLock (lease : PanelLease) (sleepEpoch : Nat)
  | refreshLock (lease : PanelLease) (sleepEpoch : Nat)
  | cancelLock (lease : PanelLease) (sleepEpoch replacementSurfaceSequence : Nat)
  | shutdown
deriving DecidableEq, Repr

/-- The worker. A surface is held by reference: `surfaces` gives the shared
    memory key of the one registered under a key. Instants are milliseconds. -/
structure PanelRuntime where
  backend : PanelBackend
  surfaces : Int → Option Nat
  foreground : Option PanelLease
  lock : Option PanelLock
  ink : InkLease
  activePen : Bool
  lastPen : Option LivePenPoint
  liveDirty : Rect
  canonicalDirty : Rect
  lastLiveSubmit : Int
  settleDeadline : Option Int
  settleStarted : Option Int
  inkBeginSequence : Nat
  telemetry : PanelTelemetry

def liveSwapInterval : Int := 8
def canonicalSettleDelay : Int := 280
def canonicalSettleRetry : Int := 40
def canonicalSettleLimit : Int := 800

/-- What a handler reads from outside: the shared surfaces, the clock and the
    marker with which the vendor library accepts a submission. No handler
    submits twice. -/
structure PanelEnv where
  shm : Nat → SharedSurface
  now : Int
  marker : Option Nat

/-- A handler's result and the state it leaves. -/
abbrev Outcome := Except IoError Unit × PanelRuntime

/-- What follows a `?`. -/
def Outcome.andThen (outcome : Outcome) (next : PanelRuntime → Outcome) : Outcome :=
  match outcome with
  | (.error error, p) => (.error error, p)
  | (.ok _, p) => next p

namespace PanelRuntime

def new (backend : PanelBackend) : PanelRuntime where
  backend := backend
  surfaces := fun _ => none
  foreground := none
  lock := none
  ink := default
  activePen := false
  lastPen := none
  liveDirty := default
  canonicalDirty := default
  lastLiveSubmit := -liveSwapInterval
  settleDeadline := none
  settleStarted := none
  inkBeginSequence := 0
  telemetry := default

variable (env : PanelEnv) (p : PanelRuntime)

/-- The surface registered under a key. -/
def surface (key : Int) : Option SharedSurface := (p.surfaces key).map env.shm

/-- The commit sequence of the surface under a key, zero without one. -/
def commitSequence (key : Int) : Nat := ((p.surface env key).map SharedSurface.commitSequence).getD 0

/-! ## Presentation -/

def geometryForLogical (surface : SharedSurface) : Geometry :=
  ⟨surface.width, surface.height, p.backend.width, p.backend.height, surface.positive, p.backend.positive⟩

def effectiveIntent (surface : SharedSurface) (intent : RefreshIntent) : RefreshIntent :=
  if intent ≠ .ui then intent
  else if surface.refreshMode = refreshModeUfast then .ink
  else if surface.refreshMode = refreshModeFast then .monoQuality
  else if surface.refreshMode = refreshModeAnimate then .ui
  else if surface.refreshMode = refreshModeContent then .content
  else .monoQuality

def submit (rect : Rect) (intent : RefreshIntent) (lease : PanelLease) (surfaceSequence : Nat)
    (reason : SubmissionReason) : Outcome :=
  let signature := sampledSignature p.backend.pixels p.backend.stride rect
  let record : SubmissionRecord :=
    ⟨0, surfaceSequence, lease, intent, reason, signature, env.marker, env.marker.isSome⟩
  match env.marker with
  | some marker =>
    let telemetry := { p.telemetry with
      fullRefreshCount := if intent = RefreshIntent.full then p.telemetry.fullRefreshCount + 1 else p.telemetry.fullRefreshCount
      submissionCount := p.telemetry.submissionCount + 1
      lastMarker := marker
      visibleSignature := signature }
    (.ok (), { p with telemetry := telemetry.recordSubmission record })
  | none =>
    let telemetry := { p.telemetry with failureCount := p.telemetry.failureCount + 1 }
    (.error ⟨.other, "quill rejected the panel submission"⟩, { p with telemetry := telemetry.recordSubmission record })

/-- The copy that `present_surface` and `sync_surface_buffer` make. -/
def copySurface (shmKey : Nat) (logicalRect : Rect) : PanelRuntime :=
  let surface := env.shm shmKey
  let geometry := p.geometryForLogical surface
  { p with backend := { p.backend with
      pixels := copySurfaceRect surface p.backend.pixels p.backend.stride geometry
        (geometry.logicalToPhysicalRect logicalRect)
      copies := p.backend.copies ++ [⟨shmKey, logicalRect, surface.commitSequence⟩] } }

def presentSurface (lease : PanelLease) (logicalRect : Rect) (intent : RefreshIntent)
    (reason : SubmissionReason) : Outcome :=
  if p.foreground ≠ some lease then (.ok (), p)
  else
    match p.surfaces lease.key with
    | none => (.ok (), p)
    | some shmKey =>
      let surface := env.shm shmKey
      let logicalRect := logicalRect.clip surface.width surface.height
      if logicalRect.isEmpty then (.ok (), p)
      else
        let physicalRect := (p.geometryForLogical surface).logicalToPhysicalRect logicalRect
        let submitted := (p.copySurface env shmKey logicalRect).submit env physicalRect
          (effectiveIntent surface intent) lease surface.commitSequence reason
        Outcome.andThen submitted fun p =>
          (.ok (), { p with telemetry := p.telemetry.markPresented lease.key surface.commitSequence })

def syncSurfaceBuffer (lease : PanelLease) (logicalRect : Rect) : PanelRuntime :=
  if p.foreground ≠ some lease then p
  else
    match p.surfaces lease.key with
    | none => p
    | some shmKey =>
      let surface := env.shm shmKey
      let logicalRect := logicalRect.clip surface.width surface.height
      if logicalRect.isEmpty then p else p.copySurface env shmKey logicalRect

/-! ## Ink -/

def abortInk : PanelRuntime :=
  { p with
    activePen := false
    lastPen := none
    liveDirty := default
    canonicalDirty := default
    settleDeadline := none
    settleStarted := none
    inkBeginSequence := 0 }

def flushLive (force : Bool) : Outcome :=
  if p.liveDirty.isEmpty ∨ (!force ∧ env.now - p.lastLiveSubmit < liveSwapInterval) then (.ok (), p)
  else
    let dirty := p.liveDirty.clip p.backend.width p.backend.height
    let p := { p with liveDirty := default }
    if dirty.isEmpty then (.ok (), p)
    else
      let submitted := p.submit env dirty .ink p.ink.lease (p.commitSequence env p.ink.key) .liveInk
      Outcome.andThen submitted fun p => (.ok (), { p with lastLiveSubmit := env.now })

def penColor : PenTool → Vector UInt8 4
  | .pen => #v[0, 0, 0, 0xff]
  | .eraser => #v[0xff, 0xff, 0xff, 0xff]

def drawLiveSegment (tool : PenTool) (x0 y0 x1 y1 radius : Int) : PanelRuntime :=
  match p.surface env p.ink.key with
  | none => p
  | some surface =>
    let geometry := p.geometryForLogical surface
    let (px0, py0) := geometry.logicalToPhysicalPoint x0 y0
    let (px1, py1) := geometry.logicalToPhysicalPoint x1 y1
    let pixels := drawLine p.backend.pixels p.backend.stride p.backend.width p.backend.height
      px0 py0 px1 py1 radius (penColor tool)
    let dirty := lineBounds p.backend.width p.backend.height px0 py0 px1 py1 radius
    { p with
      backend := { p.backend with pixels := pixels }
      liveDirty := p.liveDirty.union dirty
      canonicalDirty := p.canonicalDirty.union (Rect.expand ⟨x1, y1, 1, 1⟩ (saturate (radius + 3))) }

def beginPen (frame : PenFrame) : PanelRuntime :=
  let radius := liveBrushRadius frame.tool frame.pressure frame.pressureMax
  let p := { p with
    activePen := true
    settleDeadline := none
    settleStarted := none
    inkBeginSequence := p.commitSequence env p.ink.key
    lastPen := some ⟨frame.x, frame.y, radius, frame.tool⟩ }
  p.drawLiveSegment env frame.tool frame.x frame.y frame.x frame.y radius

def movePen (frame : PenFrame) : PanelRuntime :=
  let desiredRadius := liveBrushRadius frame.tool frame.pressure frame.pressureMax
  let previous := p.lastPen.getD ⟨frame.x, frame.y, desiredRadius, frame.tool⟩
  let radius := liveSegmentRadius frame.tool desiredRadius (some previous)
  { p.drawLiveSegment env frame.tool previous.x previous.y frame.x frame.y radius with
    lastPen := some ⟨frame.x, frame.y, desiredRadius, frame.tool⟩ }

def endPen : Outcome :=
  let p := { p with
    activePen := false
    lastPen := none
    settleStarted := some env.now
    settleDeadline := some (env.now + canonicalSettleDelay) }
  p.flushLive env true

/-- The lease of a pen frame is the visible one and the one ink is configured for. -/
def penLeaseValid (lease : PanelLease) (frame : PenFrame) : Bool :=
  p.ink.enabled && p.foreground = some lease && p.ink.lease = lease &&
    p.ink.region.all fun region => pointInside region frame.x frame.y

def handlePen (lease : PanelLease) (frame : PenFrame) : Outcome :=
  if !p.penLeaseValid lease frame then (.ok (), p)
  else
    match frame.phase with
    | .down => (.ok (), p.beginPen env frame)
    | .move => (.ok (), if p.activePen then p.movePen env frame else p)
    | .up => if p.activePen then p.endPen env else (.ok (), p)
    | .cancel => (.ok (), p.abortInk)

/-! ## Commands -/

def handleDamage (lease : PanelLease) (rect : Rect) (intent : RefreshIntent) : Outcome :=
  if p.foreground ≠ some lease then (.ok (), p)
  else if (p.activePen ∨ p.settleDeadline.isSome) ∧ p.ink.enabled ∧ p.ink.key = lease.key then
    (.ok (), { p with canonicalDirty := p.canonicalDirty.union rect })
  else p.presentSurface env lease rect intent .surfaceDamage

def foregroundIntent (surface : SharedSurface) (fullRefresh : Bool) : RefreshIntent :=
  if fullRefresh then .full
  else if surface.refreshMode = refreshModeContent then .content
  else .monoQuality

/-- The damage deferred for the visible lease is discarded when another lease replaces it. -/
def discardReplaced (lease : PanelLease) : PanelRuntime :=
  match p.foreground with
  | none => p
  | some previous =>
    if previous ≠ lease then { p with telemetry := p.telemetry.discardDeferredDamage previous } else p

def surfaceMissing (key : Int) : IoError := ⟨.notFound, s!"foreground surface {key} is not connected"⟩

def setForegroundWith (lease : PanelLease) (intent : RefreshIntent) (reason : SubmissionReason) : Outcome :=
  match p.surface env lease.key with
  | none => (.error (surfaceMissing lease.key), p)
  | some surface =>
    let previous := p.foreground
    let p := (p.discardReplaced lease).abortInk
    let p := { p with ink := default, foreground := some lease }
    match p.presentSurface env lease surface.fullRect intent reason with
    | (.error error, p) => (.error error, { p with foreground := previous })
    | (.ok _, p) => (.ok (), { p with telemetry := (p.telemetry.commitForeground lease).commitInk lease false })

def setForeground (lease : PanelLease) (fullRefresh : Bool) : Outcome :=
  match p.surface env lease.key with
  | none => (.error ⟨.notFound, "foreground surface is not connected"⟩, p)
  | some surface => p.setForegroundWith env lease (foregroundIntent surface fullRefresh) .foregroundSwitch

def activateForeground (lease : PanelLease) (inkEnabled fullRefresh : Bool) : Outcome :=
  match p.surface env lease.key with
  | none => (.error (surfaceMissing lease.key), p)
  | some surface =>
    let previous := p.foreground
    let p := (p.discardReplaced lease).abortInk
    let ink : InkLease := ⟨lease.key, lease.generation, lease.foregroundEpoch, inkEnabled, none⟩
    let p := { p with foreground := some lease, ink := ink }
    match p.presentSurface env lease surface.fullRect (foregroundIntent surface fullRefresh) .foregroundSwitch with
    | (.error error, p) => (.error error, { p with foreground := previous, ink := default })
    | (.ok _, p) =>
      (.ok (), { p with telemetry := (p.telemetry.commitInk lease inkEnabled).commitForeground lease })

def configureInk (lease : PanelLease) (enabled : Bool) (region : Option Rect) : Outcome :=
  if enabled ∧ p.foreground ≠ some lease then
    (.error ⟨.permissionDenied, "direct ink lease does not match the foreground epoch"⟩, p)
  else
    let p := p.abortInk
    let ink : InkLease := ⟨lease.key, lease.generation, lease.foregroundEpoch, enabled, region⟩
    (.ok (), { p with ink := ink, telemetry := p.telemetry.commitInk lease enabled })

def fullRefresh (lease : PanelLease) : Outcome :=
  if p.foreground ≠ some lease then (.ok (), p)
  else
    match p.surface env lease.key with
    | none => (.ok (), p)
    | some surface => p.presentSurface env lease surface.fullRect .full .fullRefresh

def showLock (lease : PanelLease) (sleepEpoch : Nat) : Outcome :=
  Outcome.andThen (p.setForegroundWith env lease .full .lockScreen) fun p =>
    match p.telemetry.lastPresented with
    | some (key, sequence) =>
      if key = lease.key ∧ sequence > 0 then
        (.ok (), { p with
          lock := some ⟨sleepEpoch, lease, sequence⟩
          telemetry := p.telemetry.commitLock sleepEpoch })
      else (.error ⟨.other, "lock pixels were not recorded as presented"⟩, p)
    | none => (.error ⟨.other, "lock pixels were not recorded as presented"⟩, p)

def lockMismatch : IoError := ⟨.permissionDenied, "lock refresh does not match the committed lock lease"⟩

def refreshLock (lease : PanelLease) (sleepEpoch : Nat) : Outcome :=
  match p.lock with
  | none => (.error lockMismatch, p)
  | some lock =>
    if p.foreground ≠ some lease ∨ lock.sleepEpoch ≠ sleepEpoch ∨ lock.lease ≠ lease then (.error lockMismatch, p)
    else
      let submitted := p.submit env ⟨0, 0, p.backend.width, p.backend.height⟩ .full lease
        lock.frozenSurfaceSequence .lockRefresh
      Outcome.andThen submitted fun p =>
        (.ok (), { p with telemetry := p.telemetry.markPresented lease.key lock.frozenSurfaceSequence })

/-- The lock that a cancellation names. -/
def holdsLock (lease : PanelLease) (sleepEpoch : Nat) : Bool :=
  p.lock.any fun lock => lock.sleepEpoch = sleepEpoch && lock.lease = lease

def cancelLock (lease : PanelLease) (sleepEpoch replacementSurfaceSequence : Nat) : Outcome :=
  if !p.holdsLock lease sleepEpoch then
    (.error ⟨.permissionDenied, "lock cancellation does not match the committed lock lease"⟩, p)
  else
    match p.surface env lease.key with
    | none => (.error ⟨.notFound, "unlock replacement surface is not connected"⟩, p)
    | some surface =>
      if replacementSurfaceSequence = 0 ∨ surface.commitSequence < replacementSurfaceSequence then
        (.error ⟨.wouldBlock, "unlock replacement surface has not reached the required commit"⟩, p)
      else
        let frozen := p.backend
        match p.presentSurface env lease surface.fullRect .full .unlockScreen with
        | (.error error, p) =>
          (.error error, { p with backend := { p.backend with pixels := frozen.pixels, copies := frozen.copies } })
        | (.ok _, p) =>
          (.ok (), { p with
            lock := none
            telemetry := (p.telemetry.clearCommittedLock sleepEpoch).recordLockCancelled sleepEpoch })

def clearForegroundUnchecked : PanelRuntime :=
  let telemetry := match p.foreground with
    | none => p.telemetry
    | some lease => (p.telemetry.discardDeferredDamage lease).clearCommittedForeground lease
  { { p with telemetry := telemetry }.abortInk with foreground := none, ink := default }

def clearForeground (lease : PanelLease) : PanelRuntime :=
  if p.foreground ≠ some lease then p else p.clearForegroundUnchecked

def dropSurface (key : Int) : PanelRuntime :=
  let p := { p with
    surfaces := Function.update p.surfaces key none
    telemetry := p.telemetry.discardDeferredDamageForKey key }
  if p.lock.any fun lock => lock.lease.key = key then p
  else if p.foreground.any fun foreground => foreground.key = key then p.clearForegroundUnchecked
  else p

/-- `handle`. The loop ends at `Shutdown` before it reaches the handler. -/
def handle : PanelCommand → Outcome
  | .registerSurface key shmKey => (.ok (), { p with surfaces := Function.update p.surfaces key (some shmKey) })
  | .dropSurface key => (.ok (), p.dropSurface key)
  | .damage lease rect intent => p.handleDamage env lease rect intent
  | .setForeground lease fullRefresh => p.setForeground env lease fullRefresh
  | .activateForeground lease inkEnabled fullRefresh => p.activateForeground env lease inkEnabled fullRefresh
  | .clearForeground lease => (.ok (), p.clearForeground lease)
  | .configureInk lease enabled region => p.configureInk lease enabled region
  | .pen lease frame => p.handlePen env lease frame
  | .fullRefresh lease => p.fullRefresh env lease
  | .showLock lease sleepEpoch => p.showLock env lease sleepEpoch
  | .refreshLock lease sleepEpoch => p.refreshLock env lease sleepEpoch
  | .cancelLock lease sleepEpoch replacementSurfaceSequence =>
    p.cancelLock env lease sleepEpoch replacementSurfaceSequence
  | .shutdown => (.ok (), p)

/-! ## The loop -/

def flushDeferredDamage : Outcome :=
  match p.foreground with
  | none => (.ok (), p)
  | some lease =>
    match p.telemetry.deferredDamage lease with
    | none => (.ok (), p)
    | some damage =>
      let p := { p with telemetry := p.telemetry.discardDeferredDamage lease }
      p.handleDamage env lease damage.rect damage.intent

/-- The application has committed a frame since the stroke began. -/
def canonicalIsNewer : Bool := (p.surface env p.ink.key).any fun surface => surface.commitSequence > p.inkBeginSequence

def retryAllowed : Bool := p.settleStarted.any fun started => env.now - started < canonicalSettleLimit

/-- The part of `flush_deadlines` after the live ink. -/
def settle : PanelRuntime :=
  if !(p.settleDeadline.any fun deadline => deadline ≤ env.now) then p
  else
    let canonicalIsNewer := p.canonicalIsNewer env
    if !canonicalIsNewer && p.retryAllowed env then
      { p with settleDeadline := some (env.now + canonicalSettleRetry) }
    else
      let dirty := p.canonicalDirty
      let p := { p with settleDeadline := none, settleStarted := none, canonicalDirty := default }
      if canonicalIsNewer && !dirty.isEmpty && p.ink.enabled then p.syncSurfaceBuffer env p.ink.lease dirty else p

def flushDeadlines : Outcome := Outcome.andThen (p.flushLive env false) fun p => (.ok (), p.settle env)

end PanelRuntime

def isStaleControlError (error : IoError) : Bool :=
  match error.kind with
  | .notFound | .permissionDenied | .alreadyExists | .wouldBlock | .invalidInput => true
  | _ => false

end Remagic.Display
