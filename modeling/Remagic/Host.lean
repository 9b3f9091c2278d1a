import Remagic.Fallible
import Remagic.InputQueue
import Remagic.Panel

/-!
# The state of the display host

What the host's threads share: the registered surfaces with their input
queues, the requested, prepared and locked foreground, the contacts that input
is routed for and the channel to the panel worker. Each operation here runs
under the lock that its source takes for its whole body, so it is one step. An
operation edits the state in place and may fail after an edit.
-/

namespace Remagic.Display
open Fallible

/-! ## Input frames -/

inductive TouchPhase where
  | down | move | up | cancel
deriving DecidableEq, Repr

structure TouchFrame where
  phase : TouchPhase
  deviceId : Int
  x : Int
  y : Int
  pressure : Int
deriving DecidableEq, Repr

inductive InputFrame where
  | pen (frame : PenFrame)
  | touch (frame : TouchFrame)
deriving DecidableEq, Repr

/-- What makes a contact: the pen, or the finger that the kernel tracks under a number. -/
inductive Device where
  | pen
  | touch (deviceId : Int)
deriving DecidableEq, Repr

def InputFrame.device : InputFrame → Device
  | .pen _ => .pen
  | .touch frame => .touch frame.deviceId

/-- The frame's place in its contact. -/
def InputFrame.part : InputFrame → Brackets.Part
  | .pen frame => match frame.phase with
    | .down => .opening
    | .move => .inside
    | .up | .cancel => .closing
  | .touch frame => match frame.phase with
    | .down => .opening
    | .move => .inside
    | .up | .cancel => .closing

/-- A frame stamped with the input epoch at which it was read, and with the number
    of its contact. No function of the source has the number. -/
structure CapturedInput where
  epoch : Nat
  frame : InputFrame
  contact : Nat
deriving DecidableEq, Repr

def penPacket (frame : PenFrame) : InputPacket :=
  let inputType : InputType := match frame.phase with
    | .down => .penPress
    | .move => .penUpdate
    | .up | .cancel => .penRelease
  let device := if frame.tool = .eraser then 1 else 0
  ⟨inputType, device, frame.x, frame.y, (saturate (frame.pressure * 100)).tdiv (max frame.pressureMax 1)⟩

def touchPacket (frame : TouchFrame) : InputPacket :=
  let inputType : InputType := match frame.phase with
    | .down => .touchPress
    | .move => .touchUpdate
    | .up | .cancel => .touchRelease
  ⟨inputType, frame.deviceId, frame.x, frame.y, frame.pressure⟩

def touchReleasePacket (deviceId : Int) : InputPacket := ⟨.touchRelease, deviceId, 0, 0, 0⟩

def PenFrame.cancelled (frame : PenFrame) : PenFrame := { frame with phase := .cancel, pressure := 0 }

/-! ## State -/

/-- The clients of a surface by their connection numbers. -/
structure SurfaceEntry where
  shmKey : Nat
  clients : List Nat
deriving DecidableEq, Repr

structure ForegroundLease where
  key : Int
  generation : Nat
  epoch : Nat
  inkEnabled : Bool
deriving DecidableEq, Repr

def ForegroundLease.panelLease (lease : ForegroundLease) : PanelLease := ⟨lease.key, lease.generation, lease.epoch⟩

structure LockLease where
  sleepEpoch : Nat
  foreground : ForegroundLease
deriving DecidableEq, Repr

/-- The bounded channel to the panel worker. -/
structure CommandChannel where
  commands : List PanelCommand
  connected : Bool
deriving DecidableEq, Repr

def panelQueueCapacity : Nat := 1024

def CommandChannel.trySend (channel : CommandChannel) (command : PanelCommand) : Except IoError CommandChannel :=
  if !channel.connected then .error ⟨.brokenPipe, "panel thread stopped"⟩
  else if channel.commands.length ≥ panelQueueCapacity then
    .error ⟨.wouldBlock, "panel command queue is full; transition was not committed"⟩
  else .ok { channel with commands := channel.commands ++ [command] }

/-- `HostState`. `queues` gives the input queue of each connection, and the sets of
    contacts are lists. `contacts` is the number of the contact last routed for a
    device; no function of the source has it. -/
structure HostState where
  surfaces : Int → Option SurfaceEntry
  queues : Nat → InputQueue
  foreground : Option ForegroundLease
  preparedForeground : Option ForegroundLease
  lock : Option LockLease
  activeTouches : List Int
  suppressedTouches : List Int
  activePen : Option (PanelLease × PenFrame)
  suppressedPen : Bool
  inputEpoch : Nat
  fences : Int → Option (Nat × Nat)
  panel : CommandChannel
  nextShmKey : Nat
  shutdown : Bool
  inputBackpressure : Nat
  lastSleepEpoch : Nat
  lastCancelledSleepEpoch : Nat
  contacts : Device → Nat

/-- An operation of the host: an error keeps the edits made before it. -/
abbrev Hosted := ExceptT IoError (StateM HostState)

namespace HostState

def new : HostState where
  surfaces := fun _ => none
  queues := fun _ => .new inputQueueCapacity
  foreground := none
  preparedForeground := none
  lock := none
  activeTouches := []
  suppressedTouches := []
  activePen := none
  suppressedPen := false
  inputEpoch := 1
  fences := fun _ => none
  panel := ⟨[], true⟩
  nextShmKey := 1
  shutdown := false
  inputBackpressure := 0
  lastSleepEpoch := 0
  lastCancelledSleepEpoch := 0
  contacts := fun _ => 0

/-! ## Channels -/

def enqueuePanel (command : PanelCommand) : Hosted Unit := do
  let s ← get
  match s.panel.trySend command with
  | .ok panel => set { s with panel := panel }
  | .error error => throw error

section
variable (s : HostState)

/-- `let _ = self.enqueue_panel(command)`. -/
def offerPanel (command : PanelCommand) : HostState :=
  match s.panel.trySend command with
  | .ok panel => { s with panel := panel }
  | .error _ => s

def failClosed : HostState := { s with shutdown := true }

/-- The lease whose surface is meant to show. -/
def requested : Option PanelLease := s.foreground.map ForegroundLease.panelLease

/-- `sink.queue.push` for each client in turn: whether one took the packet, and the clients kept. -/
def pushTo (delivery : Delivery) : List Nat → HostState → Bool × List Nat × HostState
  | [], s => (false, [], s)
  | client :: rest, s =>
    let (push, queue) := (s.queues client).push delivery
    let pressed := push = .coalesced ∨ push = .boundaryOverflow
    let s := { s with
      queues := Function.update s.queues client queue
      inputBackpressure := if pressed then s.inputBackpressure + 1 else s.inputBackpressure }
    let (delivered, kept, s) := pushTo delivery rest s
    if push.delivered then (true, client :: kept, s) else (delivered, kept, s)

def sendToKey (key : Int) (delivery : Delivery) : Bool × HostState :=
  match s.surfaces key with
  | none => (false, s)
  | some entry =>
    let (delivered, kept, s) := pushTo delivery entry.clients s
    (delivered, { s with surfaces := Function.update s.surfaces key (some { entry with clients := kept }) })

/-! ## Fences -/

/-- The pen's part of `fence_input_contacts`. -/
def fencePen : HostState :=
  match s.activePen with
  | none => s
  | some (lease, last) =>
    let sent := ({ s with activePen := none }.sendToKey lease.key ⟨penPacket last.cancelled, s.contacts .pen⟩).2
    { sent.offerPanel (.pen lease last.cancelled) with suppressedPen := true }

/-- The release that a fence sends for one finger. -/
def releaseTouch (key : Int) (s : HostState) (deviceId : Int) : HostState :=
  (s.sendToKey key ⟨touchReleasePacket deviceId, s.contacts (.touch deviceId)⟩).2

/-- The fingers' part of `fence_input_contacts`. -/
def fenceTouches : HostState :=
  let active := s.activeTouches
  let s := { s with activeTouches := [] }
  let s := match s.foreground with
    | none => s
    | some foreground => active.foldl (releaseTouch foreground.key) s
  { s with suppressedTouches := active ∪ s.suppressedTouches }

def fenceInputContacts : HostState := { s with inputEpoch := s.inputEpoch + 1 }.fencePen.fenceTouches

def surfaceExists (key : Int) : Bool := (s.surfaces key).isSome

def commitForegroundFence (key : Int) (generation epoch : Nat) : HostState :=
  { s with fences := Function.update s.fences key (some (generation, epoch)) }

end

def validateForegroundFence (key : Int) (generation epoch : Nat) : Hosted Unit := do
  let s ← get
  failIf (generation = 0 ∨ epoch = 0) ⟨.invalidInput, "generation and foreground epoch must be non-zero"⟩
  failIf (!s.surfaceExists key) ⟨.notFound, s!"surface {key} is not connected"⟩
  match s.fences key with
  | none => pure ()
  | some (previousGeneration, previousEpoch) =>
    failIf (generation < previousGeneration ∨ (generation = previousGeneration ∧ epoch ≤ previousEpoch))
      ⟨.permissionDenied, s!"stale foreground fence for surface {key}: generation={generation} epoch={epoch}, previous={previousGeneration}/{previousEpoch}"⟩

/-! ## The foreground -/

def displayLocked : IoError := ⟨.permissionDenied, "display is locked"⟩

def setForeground (key : Int) (generation epoch : Nat) (fullRefresh : Bool) : Hosted Unit := do
  let s ← get
  failIf s.lock.isSome displayLocked
  validateForegroundFence key generation epoch
  let foreground : ForegroundLease := ⟨key, generation, epoch, false⟩
  enqueuePanel (.setForeground foreground.panelLease fullRefresh)
  modify fun s => (s.commitForegroundFence key generation epoch).fenceInputContacts
  modify fun s => { s with preparedForeground := none, foreground := some foreground }

def prepareForeground (key : Int) (generation epoch : Nat) : Hosted Unit := do
  let s ← get
  failIf s.lock.isSome displayLocked
  validateForegroundFence key generation epoch
  modify fun s => (s.commitForegroundFence key generation epoch).fenceInputContacts
  modify fun s => { s with preparedForeground := some ⟨key, generation, epoch, false⟩ }

def activateForeground (key : Int) (generation epoch : Nat) (inkEnabled fullRefresh : Bool) : Hosted Unit := do
  let s ← get
  failIf s.lock.isSome displayLocked
  match s.preparedForeground with
  | none => throw ⟨.permissionDenied, "no prepared lease"⟩
  | some prepared =>
    failIf (prepared.key ≠ key ∨ prepared.generation ≠ generation ∨ prepared.epoch ≠ epoch)
      ⟨.permissionDenied, "activation does not match the prepared foreground lease"⟩
    let active := { prepared with inkEnabled := inkEnabled }
    enqueuePanel (.activateForeground active.panelLease inkEnabled fullRefresh)
    modify fun s => { s with foreground := some active, preparedForeground := none }

def clearForegroundLocked (lease : PanelLease) : Hosted Unit := do
  let s ← get
  if s.requested ≠ some lease then pure ()
  else
    enqueuePanel (.clearForeground lease)
    modify fenceInputContacts
    modify fun s => { s with foreground := if s.requested = some lease then none else s.foreground }

def clearForeground : Hosted Unit := do
  let s ← get
  failIf s.lock.isSome ⟨.permissionDenied, "cannot clear foreground while display is locked"⟩
  modify fun s => { s with preparedForeground := none }
  match s.requested with
  | none => pure ()
  | some lease => clearForegroundLocked lease

/-- What an operation still waits for with the operations' lock held. -/
inductive Waiting where
  | lockCancellation (sleepEpoch : Nat)
  | inkPolicy (lease : PanelLease) (enabled : Bool)
deriving DecidableEq, Repr

/-- `configure_ink` until it waits for the panel. -/
def configureInk (key : Int) (generation epoch : Nat) (enabled : Bool) (region : Option Rect) : Hosted Waiting := do
  let s ← get
  failIf s.lock.isSome ⟨.permissionDenied, "cannot configure direct ink while display is locked"⟩
  match s.foreground with
  | none => throw ⟨.permissionDenied, "no foreground lease"⟩
  | some lease =>
    failIf (lease.key ≠ key ∨ lease.generation ≠ generation ∨ lease.epoch ≠ epoch)
      ⟨.permissionDenied, "ink request does not match foreground lease"⟩
    enqueuePanel (.configureInk lease.panelLease enabled region)
    modify fun s => { s with foreground := some { lease with inkEnabled := enabled } }
    pure (.inkPolicy lease.panelLease enabled)

def requestFullRefresh : Hosted Unit := do
  let s ← get
  if s.preparedForeground.isSome then pure ()
  else
    match s.lock with
    | some lock => enqueuePanel (.refreshLock lock.foreground.panelLease lock.sleepEpoch)
    | none =>
      match s.requested with
      | none => pure ()
      | some lease => enqueuePanel (.fullRefresh lease)

/-- The requested lease, if it is on this surface and nothing hides it. -/
def visibleLease (s : HostState) (key : Int) : Option PanelLease :=
  if s.preparedForeground.isSome ∨ s.lock.isSome then none else s.requested.filter fun lease => lease.key = key

def requestSurfaceFullRefresh (key : Int) : Hosted Unit := do
  let s ← get
  match s.visibleLease key with
  | none => pure ()
  | some lease => enqueuePanel (.fullRefresh lease)

/-- `damage`. The result is the lease whose damage the caller defers because the
    panel's queue is full. -/
def damage (key : Int) (rect : Rect) (intent : RefreshIntent) : Hosted (Option PanelLease) := do
  let s ← get
  match s.visibleLease key with
  | none => pure none
  | some lease =>
    match s.panel.trySend (.damage lease rect intent) with
    | .ok panel =>
      set { s with panel := panel }
      pure none
    | .error error => if error.kind = .wouldBlock then pure (some lease) else throw error

/-! ## The lock -/

def showLock (key : Int) (generation epoch sleepEpoch : Nat) : Hosted Unit := do
  failIf (sleepEpoch = 0) ⟨.invalidInput, "sleep epoch must be non-zero"⟩
  let s ← get
  failIf s.preparedForeground.isSome ⟨.wouldBlock, "a foreground lease is being prepared"⟩
  match s.lock with
  | some current =>
    failIf (current.sleepEpoch ≠ sleepEpoch ∨ current.foreground.panelLease ≠ ⟨key, generation, epoch⟩)
      ⟨.alreadyExists, s!"display is already locked for epoch {current.sleepEpoch}"⟩
  | none =>
    failIf (sleepEpoch ≤ s.lastSleepEpoch)
      ⟨.permissionDenied, s!"stale sleep epoch {sleepEpoch}; highest observed epoch is {s.lastSleepEpoch}"⟩
    validateForegroundFence key generation epoch
    let foreground : ForegroundLease := ⟨key, generation, epoch, false⟩
    enqueuePanel (.showLock foreground.panelLease sleepEpoch)
    modify fun s => { s.commitForegroundFence key generation epoch with lastSleepEpoch := sleepEpoch }
    modify fenceInputContacts
    modify fun s => { s with foreground := some foreground, lock := some ⟨sleepEpoch, foreground⟩ }

def staleLockEpoch (sleepEpoch : Nat) : IoError :=
  ⟨.permissionDenied, s!"stale or absent display lock epoch {sleepEpoch}"⟩

def refreshLock (sleepEpoch : Nat) : Hosted Unit := do
  let s ← get
  match s.lock with
  | none => throw (staleLockEpoch sleepEpoch)
  | some lock =>
    failIf (lock.sleepEpoch ≠ sleepEpoch) (staleLockEpoch sleepEpoch)
    enqueuePanel (.refreshLock lock.foreground.panelLease sleepEpoch)

/-- The lock to cancel, or none when it is cancelled already. -/
def cancellableLock (sleepEpoch : Nat) : Hosted (Option LockLease) := do
  let s ← get
  match s.lock with
  | none =>
    failIf (s.lastCancelledSleepEpoch ≠ sleepEpoch) (staleLockEpoch sleepEpoch)
    pure none
  | some lock =>
    failIf (lock.sleepEpoch ≠ sleepEpoch) ⟨.permissionDenied, s!"stale display lock epoch {sleepEpoch}"⟩
    pure (some lock)

def validateReplacementSequence (shm : Nat → SharedSurface) (telemetry : PanelTelemetry) (lock : LockLease)
    (replacementSurfaceSequence : Nat) : Hosted Unit := do
  let s ← get
  match s.surfaces lock.foreground.key with
  | none => throw ⟨.notFound, "unlock surface disappeared"⟩
  | some entry =>
    let observedSequence := (shm entry.shmKey).commitSequence
    failIf (observedSequence < replacementSurfaceSequence)
      ⟨.wouldBlock, s!"unlock surface sequence {observedSequence} has not reached {replacementSurfaceSequence}"⟩
    let committed := telemetry.committedLockEpoch
    failIf (committed ≠ 0 ∧ committed ≠ lock.sleepEpoch)
      ⟨.permissionDenied, s!"panel retained a different lock epoch {committed}"⟩

/-- The end of `cancel_lock`, once the panel has acknowledged the cancellation. -/
def finishCancellation (s : HostState) (sleepEpoch : Nat) : HostState :=
  { s.fenceInputContacts with lock := none, lastCancelledSleepEpoch := sleepEpoch }

/-- `cancel_lock` until it ends or waits for the panel. -/
def cancelLock (shm : Nat → SharedSurface) (telemetry : PanelTelemetry) (sleepEpoch replacementSurfaceSequence : Nat) :
    Hosted (Option Waiting) := do
  match ← cancellableLock sleepEpoch with
  | none => pure none
  | some lock =>
    failIf (replacementSurfaceSequence = 0) ⟨.invalidInput, "unlock replacement sequence must be non-zero"⟩
    validateReplacementSequence shm telemetry lock replacementSurfaceSequence
    if telemetry.cancelledLockEpoch = lock.sleepEpoch then
      modify fun s => s.finishCancellation sleepEpoch
      pure none
    else
      enqueuePanel (.cancelLock lock.foreground.panelLease lock.sleepEpoch replacementSurfaceSequence)
      pure (some (.lockCancellation lock.sleepEpoch))

end HostState
end Remagic.Display
