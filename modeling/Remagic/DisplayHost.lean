import Remagic.Host
import Remagic.Runs

/-!
# The display host as one machine

The host's operations that meet the rest of the process (registration of
surfaces and the dispatch of captured input) and the machine they make with
the panel worker, the client connections and the input threads. Each event is
one step of one thread, so a run is an interleaving of them.
-/

namespace Remagic.Display
open Fallible

/-! ## Registration -/

/-- What the system does with `create_surface`: how many candidate names are taken,
    and the error that ends the search otherwise. -/
structure Creation where
  skipped : Nat
  refused : Option IoError
deriving DecidableEq, Repr

def SharedSurface.create (key width height : Int) (format : PixelFormat) (refused : Option IoError) :
    Except IoError SharedSurface :=
  if valid : (0 < width ∧ 0 < height) ∧ width ≤ 8192 ∧ height ≤ 8192 then
    match refused with
    | some error => .error error
    | none =>
      let stride := width.toNat * format.bytesPerPixel
      .ok ⟨key, width, height, valid.1, valid.2, stride, format, Array.replicate (stride * height.toNat) 0xff,
        refreshModeUi, 0⟩
  else .error ⟨.invalidInput, "invalid surface dimensions"⟩

namespace HostState

def liveOwner (key : Int) : IoError := ⟨.alreadyExists, s!"QTFB surface {key} already has a live owner"⟩

def validateSurface (surface : SharedSurface) (width height : Int) (format : PixelFormat) : Except IoError Unit :=
  if surface.width = width ∧ surface.height = height ∧ surface.format = format then .ok ()
  else .error ⟨.invalidData, "QTFB key was reused with incompatible geometry or format"⟩

/-- The surface created, with the shared memory key of the first free candidate. -/
def createSurface (key width height : Int) (format : PixelFormat) (creation : Creation) :
    Hosted (Nat × SharedSurface) := do
  let s ← get
  let candidate := max ((s.nextShmKey + creation.skipped) % 2147483648) 1
  set { s with nextShmKey := s.nextShmKey + creation.skipped + 1 }
  match SharedSurface.create key width height format creation.refused with
  | .ok surface => pure (candidate, surface)
  | .error error => throw error

def insertSurface (s : HostState) (key : Int) (shmKey : Nat) : HostState :=
  { s with surfaces := Function.update s.surfaces key (some ⟨shmKey, []⟩) }

def removeSurface (s : HostState) (key : Int) : HostState :=
  { s with surfaces := Function.update s.surfaces key none }

def register (shm : Nat → SharedSurface) (key width height : Int) (format : PixelFormat) (creation : Creation) :
    Hosted (Nat × SharedSurface) := do
  let s ← get
  match s.surfaces key with
  | some entry =>
    match validateSurface (shm entry.shmKey) width height format with
    | .error error => throw error
    | .ok _ => throw (liveOwner key)
  | none =>
    let (shmKey, surface) ← createSurface key width height format creation
    modify fun s => s.insertSurface key shmKey
    let s ← get
    match s.panel.trySend (.registerSurface key shmKey) with
    | .ok panel =>
      set { s with panel := panel }
      pure (shmKey, surface)
    | .error error =>
      set (s.removeSurface key)
      throw error

def activateClient (key : Int) (client : Nat) : Hosted Unit := do
  let s ← get
  match s.surfaces key with
  | none => throw ⟨.notFound, "QTFB surface disappeared"⟩
  | some entry =>
    failIf (entry.clients ≠ []) (liveOwner key)
    set { s with surfaces := Function.update s.surfaces key (some { entry with clients := [client] }) }

variable (s : HostState)

/-- Drop the panel's side of a surface; a host that cannot stops. -/
def dropPanelSurface (key : Int) : HostState :=
  match s.panel.trySend (.dropSurface key) with
  | .ok panel => { s with panel := panel }
  | .error _ => s.failClosed

def abortRegistration (key : Int) : HostState :=
  if (s.surfaces key).any fun entry => entry.clients = [] then (s.removeSurface key).dropPanelSurface key else s

/-- The requested lease that a departing surface takes with it, unless it is locked. -/
def leaseToClear (key : Int) : Option PanelLease :=
  s.requested.filter fun lease => lease.key = key ∧ ¬ s.lock.any fun lock => lock.foreground.key = key

/-- `fence_input_contacts` and `clear_foreground_locked` for a departing surface. -/
def clearDeparted (lease : PanelLease) : HostState :=
  match (clearForegroundLocked lease).run s.fenceInputContacts with
  | (.ok _, s) => s
  | (.error _, s) => s.failClosed

def unregister (client : Nat) (key : Int) : HostState :=
  match s.surfaces key with
  | none => s
  | some entry =>
    let clients := entry.clients.filter fun candidate => candidate ≠ client
    if clients ≠ [] then { s with surfaces := Function.update s.surfaces key (some { entry with clients := clients }) }
    else
      let lease := s.leaseToClear key
      let dropped := (s.removeSurface key).dropPanelSurface key
      let dropped := { dropped with
        preparedForeground := dropped.preparedForeground.filter fun prepared => prepared.key ≠ key }
      match lease with
      | none => dropped
      | some lease => dropped.clearDeparted lease

/-! ## Input -/

def inputNotRouted (reason : String) : IoError := ⟨.wouldBlock, reason⟩

/-- Whether the frame belongs to a contact that a fence ended. -/
def suppressFencedContact : InputFrame → Bool × HostState
  | .touch touch =>
    if touch.deviceId ∈ s.suppressedTouches then
      match touch.phase with
      | .up | .cancel =>
        (true, { s with suppressedTouches := s.suppressedTouches.filter fun deviceId => deviceId ≠ touch.deviceId })
      | _ => (true, s)
    else (false, s)
  | .pen pen =>
    if s.suppressedPen then
      match pen.phase with
      | .down => (false, { s with suppressedPen := false })
      | .up | .cancel => (true, { s with suppressedPen := false })
      | .move => (true, s)
    else (false, s)

def route (device : Device) (contact : Nat) : HostState :=
  { s with contacts := Function.update s.contacts device contact }

def routeForegroundTouch (captured : CapturedInput) : Bool × HostState :=
  match captured.frame with
  | .pen _ => (true, s)
  | .touch touch =>
    match touch.phase with
    | .down =>
      (true, { s.route (.touch touch.deviceId) captured.contact with
        activeTouches := s.activeTouches.insert touch.deviceId })
    | .move => (s.activeTouches.contains touch.deviceId, s)
    | .up | .cancel =>
      (s.activeTouches.contains touch.deviceId,
        { s with activeTouches := s.activeTouches.filter fun deviceId => deviceId ≠ touch.deviceId })

def trackPenContact (captured : CapturedInput) (lease : PanelLease) : Bool × HostState :=
  match captured.frame with
  | .touch _ => (true, s)
  | .pen pen =>
    match pen.phase with
    | .down =>
      let s := match s.activePen with
        | none => s
        | some (previousLease, previous) =>
          let taken := { s with activePen := none }
          let sent := (taken.sendToKey previousLease.key ⟨penPacket previous.cancelled, s.contacts .pen⟩).2
          sent.offerPanel (.pen previousLease previous.cancelled)
      (true, { s.route .pen captured.contact with activePen := some (lease, pen) })
    | .move =>
      match s.activePen with
      | none => (false, s)
      | some (owner, _) => if owner ≠ lease then (false, s) else (true, { s with activePen := some (owner, pen) })
    | .up | .cancel => (s.activePen.any fun active => active.1 = lease, { s with activePen := none })

/-- The packet of a frame, and the frame's own command to the panel. -/
def inputPacketFor (lease : PanelLease) : InputFrame → InputPacket × HostState
  | .pen frame => (penPacket frame, s.offerPanel (.pen lease frame))
  | .touch frame => (touchPacket frame, s)

def deliverInput (key : Int) (delivery : Delivery) : Except IoError Unit × HostState :=
  match s.sendToKey key delivery with
  | (true, s) => (.ok (), s)
  | (false, s) => (.error (inputNotRouted "foreground surface has no live input client"), s)

/-- `committed` is the telemetry's committed foreground. -/
def dispatchCapturedInput (committed : Option PanelLease) (captured : CapturedInput) :
    Except IoError Unit × HostState :=
  if captured.epoch ≠ s.inputEpoch then (.error (inputNotRouted "stale input epoch"), s)
  else
    match s.suppressFencedContact captured.frame with
    | (true, s) => (.error (inputNotRouted "contact belongs to an old foreground fence"), s)
    | (false, s) =>
      if s.preparedForeground.isSome then
        (.error (inputNotRouted "foreground transition is still prepared"), s)
      else if s.lock.isSome then (.error (inputNotRouted "all input is disabled while locked"), s)
      else
        match committed with
        | none => (.error (inputNotRouted "panel has no committed foreground"), s)
        | some lease =>
          if s.requested ≠ some lease then
            (.error (inputNotRouted "requested and panel-committed foregrounds differ"), s)
          else
            match s.routeForegroundTouch captured with
            | (false, s) => (.error (inputNotRouted "touch sequence has no active contact"), s)
            | (true, s) =>
              match s.trackPenContact captured lease with
              | (false, s) => (.error (inputNotRouted "pen sequence has no active contact"), s)
              | (true, s) =>
                let (packet, s) := s.inputPacketFor lease captured.frame
                s.deliverInput lease.key ⟨packet, captured.contact⟩

end HostState

/-! ## The machine -/

inductive Connection where
  | fresh
  | registering (key : Int)
  | active (key : Int)
  | closed
deriving DecidableEq, Repr

/-- The process. `foregroundOps` is what the operation that holds the operations'
    lock waits for. `down` is the contact that each device makes, as the kernel
    reports it, and `contacts` counts the contacts made so far. -/
structure DisplayHost where
  host : HostState
  shm : Nat → SharedSurface
  worker : PanelRuntime
  running : Bool
  foregroundOps : Option HostState.Waiting
  connections : List Connection
  penInput : List CapturedInput
  touchInput : List CapturedInput
  down : Device → Option Nat
  contacts : Nat

inductive HostEvent where
  -- A client connection
  | connect
  | register (client : Nat) (key width height : Int) (format : PixelFormat) (creation : Creation)
  | activateClient (client : Nat)
  | replyFailed (client : Nat)
  | draw (shmKey : Nat) (bytes : Array UInt8)
  | markCommit (client : Nat)
  | damage (client : Nat) (rect : Option Rect)
  | setRefreshMode (client : Nat) (mode : Int)
  | requestSurfaceFullRefresh (client : Nat)
  | disconnect (client : Nat)
  | receive (client : Nat)
  -- A control request
  | setForeground (key : Int) (generation epoch : Nat) (fullRefresh : Bool)
  | prepareForeground (key : Int) (generation epoch : Nat)
  | activateForeground (key : Int) (generation epoch : Nat) (inkEnabled fullRefresh : Bool)
  | clearForeground
  | configureInk (key : Int) (generation epoch : Nat) (enabled : Bool) (region : Option Rect)
  | requestFullRefresh
  | showLock (key : Int) (generation epoch sleepEpoch : Nat)
  | refreshLock (sleepEpoch : Nat)
  | cancelLock (sleepEpoch replacementSurfaceSequence : Nat)
  | acknowledged
  | timedOut
  | inject (epoch : Nat) (frame : InputFrame)
  | shutdown
  -- The input threads
  | capture (frame : InputFrame)
  | dispatchPen
  | dispatchTouch
  -- The panel worker
  | work (now : Int) (marker : Option Nat)
  | flushDeferred (now : Int) (marker : Option Nat)
  | flushDeadlines (now : Int) (marker : Option Nat)

namespace DisplayHost

def start (shm : Nat → SharedSurface) (backend : PanelBackend) : DisplayHost where
  host := .new
  shm := shm
  worker := .new backend
  running := true
  foregroundOps := none
  connections := []
  penInput := []
  touchInput := []
  down := fun _ => none
  contacts := 0

variable (s : DisplayHost)

def setConnection (client : Nat) (connection : Connection) : DisplayHost :=
  { s with connections := s.connections.set client connection }

/-- The end of a connection that holds no surface. -/
def closeConnection (client : Nat) : DisplayHost :=
  { s.setConnection client .closed with
    host := { s.host with queues := Function.update s.host.queues client (s.host.queues client).close } }

/-- An operation that takes the operations' lock waits while another holds it. -/
def exclusively (step : DisplayHost → DisplayHost) : DisplayHost := if s.foregroundOps.isSome then s else step s

def perform {α : Type} (operation : Hosted α) : Except IoError α × DisplayHost :=
  let (result, host) := operation.run s.host
  (result, { s with host := host })

/-- The key that a connection has initialised. -/
def keyOf (client : Nat) : Option Int :=
  match s.connections[client]? with
  | some (.active key) => some key
  | _ => none

def register (client : Nat) (key width height : Int) (format : PixelFormat) (creation : Creation) : DisplayHost :=
  if s.connections[client]? ≠ some .fresh then s
  else
    match s.perform (HostState.register s.shm key width height format creation) with
    | (.error _, s) => s.closeConnection client
    | (.ok (shmKey, surface), s) =>
      { s.setConnection client (.registering key) with shm := Function.update s.shm shmKey surface }

def abort (client : Nat) (key : Int) : DisplayHost :=
  { s with host := s.host.abortRegistration key }.closeConnection client

def activateClient (client : Nat) : DisplayHost :=
  match s.connections[client]? with
  | some (.registering key) =>
    match s.perform (HostState.activateClient key client) with
    | (.error _, s) => s.abort client key
    | (.ok _, s) => s.setConnection client (.active key)
  | _ => s

def replyFailed (client : Nat) : DisplayHost :=
  match s.connections[client]? with
  | some (.registering key) => s.abort client key
  | _ => s

def disconnect (client : Nat) : DisplayHost :=
  match s.connections[client]? with
  | some .fresh => s.closeConnection client
  | some (.active key) => s.exclusively fun s => { s with host := s.host.unregister client key }.closeConnection client
  | _ => s

def updateSurface (key : Int) (edit : SharedSurface → SharedSurface) : DisplayHost :=
  match s.host.surfaces key with
  | none => s
  | some entry => { s with shm := Function.update s.shm entry.shmKey (edit (s.shm entry.shmKey)) }

def damageIntent (surface : SharedSurface) : RefreshIntent :=
  if surface.refreshMode = refreshModeUfast then .ink
  else if surface.refreshMode = refreshModeFast then .monoQuality
  else if surface.refreshMode = refreshModeContent then .content
  else .monoQuality

/-- `commit_damage` after `mark_commit`. -/
def damage (key : Int) (rect : Option Rect) : DisplayHost :=
  match s.host.surfaces key with
  | none => s
  | some entry =>
    let surface := s.shm entry.shmKey
    let rect := rect.getD surface.fullRect
    let intent := damageIntent surface
    match s.perform (HostState.damage key rect intent) with
    | (.ok (some lease), s) =>
      { s with worker := { s.worker with telemetry := s.worker.telemetry.deferDamage lease rect intent } }
    | (_, s) => s

def withKey (client : Nat) (step : DisplayHost → Int → DisplayHost) : DisplayHost :=
  match s.keyOf client with
  | none => s
  | some key => step s key

/-- The operation begins, and keeps the operations' lock while it waits. -/
def begin (operation : Hosted (Option HostState.Waiting)) : DisplayHost :=
  match s.perform operation with
  | (.ok waiting, s) => { s with foregroundOps := waiting }
  | (.error _, s) => s

def acknowledged : DisplayHost :=
  match s.foregroundOps with
  | some (.lockCancellation sleepEpoch) =>
    if s.worker.telemetry.cancelledLockEpoch = sleepEpoch then
      { s with host := s.host.finishCancellation sleepEpoch, foregroundOps := none }
    else s
  | some (.inkPolicy lease enabled) =>
    if s.worker.telemetry.committedInk = some (lease, enabled) then { s with foregroundOps := none } else s
  | none => s

def dispatch (captured : CapturedInput) : DisplayHost :=
  { s with host := (s.host.dispatchCapturedInput s.worker.telemetry.committedForeground captured).2 }

/-- A frame's contact: a new one when it is made, else the one the device makes. The devices
    are assumed to report whole contacts, one at a time; the touch decoder can emit other
    frames, such as a move of a second finger that was never down, and these are left out. -/
def contactOf (frame : InputFrame) : Option Nat :=
  match s.down frame.device with
  | none => if frame.part = .opening then some s.contacts else none
  | some contact => if frame.part = .opening then none else some contact

def capture (frame : InputFrame) : DisplayHost :=
  match s.contactOf frame with
  | none => s
  | some contact =>
    let captured : CapturedInput := ⟨s.host.inputEpoch, frame, contact⟩
    { s with
      penInput := if frame.device = .pen then s.penInput ++ [captured] else s.penInput
      touchInput := if frame.device = .pen then s.touchInput else s.touchInput ++ [captured]
      down := Function.update s.down frame.device (if frame.part = .closing then none else some contact)
      contacts := if frame.part = .opening then s.contacts + 1 else s.contacts }

def dispatchPen : DisplayHost :=
  match s.penInput with
  | [] => s
  | captured :: rest => { s with penInput := rest }.dispatch captured

def dispatchTouch : DisplayHost :=
  match s.touchInput with
  | [] => s
  | captured :: rest => { s with touchInput := rest }.dispatch captured

/-- The worker ends, and its end of the channel is gone. -/
def stop : DisplayHost := { s with running := false, host := { s.host with panel := ⟨[], false⟩ } }

def env (now : Int) (marker : Option Nat) : PanelEnv := ⟨s.shm, now, marker⟩

/-- `run`: one command, with what an error does. -/
def work (now : Int) (marker : Option Nat) : DisplayHost :=
  match s.host.panel.commands with
  | [] => s
  | command :: rest =>
    let taken := { s with host := { s.host with panel := { s.host.panel with commands := rest } } }
    if command = .shutdown then taken.stop
    else
      match s.worker.handle (s.env now marker) command with
      | (.ok _, worker) => { taken with worker := worker }
      | (.error error, worker) =>
        if isStaleControlError error then { taken with worker := worker } else { taken with worker := worker }.stop

/-- `flush_deferred_damage` and `flush_deadlines`: any error ends the worker. -/
def flush (outcome : Outcome) : DisplayHost :=
  match outcome with
  | (.ok _, worker) => { s with worker := worker }
  | (.error _, worker) => { s with worker := worker }.stop

def whileRunning (step : DisplayHost → DisplayHost) : DisplayHost := if s.running then step s else s

def next : HostEvent → DisplayHost
  | .connect => { s with connections := s.connections ++ [.fresh] }
  | .register client key width height format creation => s.register client key width height format creation
  | .activateClient client => s.activateClient client
  | .replyFailed client => s.replyFailed client
  | .draw shmKey bytes =>
    let drawn := { s.shm shmKey with bytes := bytes }
    { s with shm := Function.update s.shm shmKey drawn }
  | .markCommit client =>
    s.withKey client fun s key => s.updateSurface key fun surface =>
      { surface with commitSequence := surface.commitSequence + 1 }
  | .damage client rect => s.withKey client fun s key => s.exclusively fun s => s.damage key rect
  | .setRefreshMode client mode =>
    s.withKey client fun s key => s.updateSurface key fun surface => { surface with refreshMode := mode }
  | .requestSurfaceFullRefresh client =>
    s.withKey client fun s key => s.exclusively fun s => (s.perform (HostState.requestSurfaceFullRefresh key)).2
  | .disconnect client => s.disconnect client
  | .receive client =>
    { s with host := { s.host with
        queues := Function.update s.host.queues client (s.host.queues client).pop.2 } }
  | .setForeground key generation epoch fullRefresh =>
    s.exclusively fun s => (s.perform (HostState.setForeground key generation epoch fullRefresh)).2
  | .prepareForeground key generation epoch =>
    s.exclusively fun s => (s.perform (HostState.prepareForeground key generation epoch)).2
  | .activateForeground key generation epoch inkEnabled fullRefresh =>
    s.exclusively fun s =>
      (s.perform (HostState.activateForeground key generation epoch inkEnabled fullRefresh)).2
  | .clearForeground => s.exclusively fun s => (s.perform HostState.clearForeground).2
  | .configureInk key generation epoch enabled region =>
    s.exclusively fun s => s.begin (some <$> HostState.configureInk key generation epoch enabled region)
  | .requestFullRefresh => s.exclusively fun s => (s.perform HostState.requestFullRefresh).2
  | .showLock key generation epoch sleepEpoch =>
    s.exclusively fun s => (s.perform (HostState.showLock key generation epoch sleepEpoch)).2
  | .refreshLock sleepEpoch => s.exclusively fun s => (s.perform (HostState.refreshLock sleepEpoch)).2
  | .cancelLock sleepEpoch replacementSurfaceSequence =>
    s.exclusively fun s =>
      s.begin (HostState.cancelLock s.shm s.worker.telemetry sleepEpoch replacementSurfaceSequence)
  | .acknowledged => s.acknowledged
  | .timedOut => { s with foregroundOps := none }
  | .inject epoch frame => s.exclusively fun s => s.dispatch ⟨epoch, frame, 0⟩
  | .shutdown => { s with host := { s.host with shutdown := true }.offerPanel .shutdown }
  | .capture frame => s.capture frame
  | .dispatchPen => s.exclusively dispatchPen
  | .dispatchTouch => s.exclusively dispatchTouch
  | .work now marker => s.whileRunning fun s => s.work now marker
  | .flushDeferred now marker => s.whileRunning fun s => s.flush (s.worker.flushDeferredDamage (s.env now marker))
  | .flushDeadlines now marker => s.whileRunning fun s => s.flush (s.worker.flushDeadlines (s.env now marker))

end DisplayHost
end Remagic.Display
