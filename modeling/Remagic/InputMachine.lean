import Remagic.HostSpecs
import Remagic.PanelEffects

/-!
# The machine that routes input

The part of the process that decides where input goes: the host's state, the
foreground that the panel has committed, the connections and the two channels
of captured frames. `Stepped` lists all that can happen to it, and every step
of the process is on the list.
-/

namespace Remagic.Display
open PanelRuntime

structure InputState where
  host : HostState
  committed : Option PanelLease
  connections : List Connection
  penInput : List CapturedInput
  touchInput : List CapturedInput
  down : Device → Option Nat
  contacts : Nat

def DisplayHost.input (s : DisplayHost) : InputState :=
  ⟨s.host, s.worker.telemetry.committedForeground, s.connections, s.penInput, s.touchInput, s.down, s.contacts⟩

/-- The control interface makes up the frame. -/
def HostEvent.injects : HostEvent → Bool
  | .inject _ _ => true
  | _ => false

namespace InputState
variable (s : InputState)

/-- A connection that holds no surface ends. -/
def close (client : Nat) : InputState :=
  { s with
    connections := s.connections.set client .closed
    host := { s.host with queues := Function.update s.host.queues client (s.host.queues client).close } }

/-- A captured frame joins its channel. -/
def queued (frame : InputFrame) (contact : Nat) : InputState :=
  { s with
    penInput := if frame.device = .pen then s.penInput ++ [⟨s.host.inputEpoch, frame, contact⟩] else s.penInput
    touchInput := if frame.device = .pen then s.touchInput else s.touchInput ++ [⟨s.host.inputEpoch, frame, contact⟩]
    down := Function.update s.down frame.device (if frame.part = .closing then none else some contact) }

/-- The worker has taken commands from its queue, or has stopped. -/
def afterWork (commands : List PanelCommand) (connected : Bool) (committed : Option PanelLease) : InputState :=
  { s with host := { s.host with panel := ⟨commands, connected⟩ }, committed := committed }

end InputState

/-- All that a step can do to the routing of input, with what it found before. -/
inductive Stepped (s : InputState) : HostEvent → InputState → Prop
  | idle {event : HostEvent} : Stepped s event s
  | connected {event : HostEvent} : Stepped s event { s with connections := s.connections ++ [.fresh] }
  | registered {event : HostEvent} (client : Nat) (key : Int) (shmKey next : Nat)
      (fresh : s.connections[client]? = some .fresh) (vacant : s.host.surfaces key = none) :
      Stepped s event { s with
        host := { (s.host.insertSurface key shmKey).sent (.registerSurface key shmKey) with nextShmKey := next }
        connections := s.connections.set client (.registering key) }
  | refused {event : HostEvent} (client next : Nat) (fresh : s.connections[client]? = some .fresh) :
      Stepped s event ({ s with host := { s.host with nextShmKey := next } }.close client)
  | activated {event : HostEvent} (client : Nat) (key : Int) (entry : SurfaceEntry)
      (registering : s.connections[client]? = some (.registering key)) (held : s.host.surfaces key = some entry) :
      Stepped s event { s with
        host := { s.host with
          surfaces := Function.update s.host.surfaces key (some { entry with clients := [client] }) }
        connections := s.connections.set client (.active key) }
  | aborted {event : HostEvent} (client : Nat) (key : Int)
      (registering : s.connections[client]? = some (.registering key)) :
      Stepped s event ({ s with host := s.host.abortRegistration key }.close client)
  | left {event : HostEvent} (client : Nat) (key : Int) (host : HostState)
      (active : s.connections[client]? = some (.active key)) (departs : HostState.Departs s.host client key host) :
      Stepped s event ({ s with host := host }.close client)
  | received {event : HostEvent} (client : Nat) :
      Stepped s event { s with host := { s.host with
        queues := Function.update s.host.queues client (s.host.queues client).pop.2 } }
  | operated {event : HostEvent} (cancelled : Nat) (host : HostState)
      (operated : HostState.Operated cancelled s.host host) : Stepped s event { s with host := host }
  | finished {event : HostEvent} (sleepEpoch : Nat) :
      Stepped s event { s with host := s.host.finishCancellation sleepEpoch }
  | stopping {event : HostEvent} (commands : List PanelCommand) (only : ∀ command ∈ commands, command = .shutdown) :
      Stepped s event { s with host := { s.host with
        shutdown := true
        panel := { s.host.panel with commands := s.host.panel.commands ++ commands } } }
  | began {event : HostEvent} (frame : InputFrame) (opens : frame.part = .opening) (up : s.down frame.device = none) :
      Stepped s event { s.queued frame s.contacts with contacts := s.contacts + 1 }
  | continued {event : HostEvent} (frame : InputFrame) (contact : Nat) (goesOn : frame.part ≠ .opening)
      (down : s.down frame.device = some contact) : Stepped s event (s.queued frame contact)
  | dispatchedPen (captured : CapturedInput) (rest : List CapturedInput) (queue : s.penInput = captured :: rest) :
      Stepped s .dispatchPen { s with
        penInput := rest
        host := (s.host.dispatchCapturedInput s.committed captured).2 }
  | dispatchedTouch (captured : CapturedInput) (rest : List CapturedInput) (queue : s.touchInput = captured :: rest) :
      Stepped s .dispatchTouch { s with
        touchInput := rest
        host := (s.host.dispatchCapturedInput s.committed captured).2 }
  | injected (epoch : Nat) (frame : InputFrame) :
      Stepped s (.inject epoch frame) { s with host := (s.host.dispatchCapturedInput s.committed ⟨epoch, frame, 0⟩).2 }
  | worked {event : HostEvent} (command : PanelCommand) (rest commands : List PanelCommand) (connected : Bool)
      (committed : Option PanelLease) (queue : s.host.panel.commands = command :: rest) (taken : commands.Sublist rest)
      (announces : committed = s.committed ∨ committed = none ∨ command.shown.isSome = true ∧ committed = command.shown) :
      Stepped s event (s.afterWork commands connected committed)
  | flushed {event : HostEvent} (commands : List PanelCommand) (connected : Bool) (committed : Option PanelLease)
      (taken : commands.Sublist s.host.panel.commands) (announces : committed = s.committed ∨ committed = none) :
      Stepped s event (s.afterWork commands connected committed)

/-! ## Every step of the process -/

namespace DisplayHost
variable {s : DisplayHost} {event : HostEvent}

theorem exclusively_stepped {step : DisplayHost → DisplayHost} (free : Stepped s.input event (step s).input) :
    Stepped s.input event (s.exclusively step).input := by
  unfold exclusively
  split
  · exact .idle
  · exact free

theorem withKey_stepped {client : Nat} {step : DisplayHost → Int → DisplayHost}
    (keyed : ∀ key, Stepped s.input event (step s key).input) : Stepped s.input event (s.withKey client step).input := by
  unfold withKey
  split
  · exact .idle
  · exact keyed _

theorem perform_stepped {α : Type} {operation : Hosted α} (cancelled : Nat)
    (operated : HostState.Operated cancelled s.host (operation.run s.host).2) :
    Stepped s.input event (s.perform operation).2.input := .operated cancelled _ operated

theorem begin_stepped {operation : Hosted (Option HostState.Waiting)} {cancelled : Nat}
    (operated : HostState.Operated cancelled s.host (operation.run s.host).2) :
    Stepped s.input event (s.begin operation).input := by
  have stepped : Stepped s.input event (s.perform operation).2.input := perform_stepped cancelled operated
  unfold begin
  rcases performed : s.perform operation with ⟨result, t⟩
  rw [performed] at stepped
  cases result <;> exact stepped

theorem updateSurface_stepped (key : Int) (edit : SharedSurface → SharedSurface) :
    Stepped s.input event (s.updateSurface key edit).input := by
  unfold updateSurface
  split <;> exact .idle

theorem register_stepped (client : Nat) (key width height : Int) (format : PixelFormat) (creation : Creation) :
    Stepped s.input event (s.register client key width height format creation).input := by
  unfold register perform
  by_cases fresh : s.connections[client]? = some .fresh
  · simp only [fresh, ne_eq, not_true_eq_false, if_false]
    have spec := HostState.register_spec (s := s.host) s.shm key width height format creation
    unfold Fallible.Ends at spec
    rcases run : (HostState.register s.shm key width height format creation).run s.host with ⟨result, host⟩
    rw [run] at spec
    rcases spec with ⟨error, next, rfl, rfl⟩ | ⟨shmKey, surface, next, vacant, rfl, rfl⟩
    · exact .refused client next fresh
    · exact .registered client key shmKey next fresh vacant
  · simp only [fresh, ne_eq, not_false_eq_true, if_true]
    exact .idle

theorem activateClient_stepped (client : Nat) : Stepped s.input event (s.activateClient client).input := by
  unfold activateClient perform
  split
  · rename_i key registering
    rcases (HostState.activateClient_spec (s := s.host) key client).cases with
      ⟨error, failed⟩ | ⟨result, after, ended, entry, held, _, rfl⟩
    · simp only [failed]
      exact .aborted client key registering
    · simp only [ended]
      exact .activated client key entry registering held
  · exact .idle

theorem damage_stepped (key : Int) (rect : Option Rect) : Stepped s.input event (s.damage key rect).input := by
  unfold damage perform
  split
  · exact .idle
  dsimp only
  generalize rect.getD _ = rect
  generalize damageIntent _ = intent
  obtain ⟨operated, _⟩ := HostState.damage_spec (s := s.host) s.worker.telemetry.cancelledLockEpoch key rect intent
  generalize ExceptT.run (HostState.damage key rect intent) s.host = outcome at operated
  rcases outcome with ⟨error | (_ | lease), host⟩ <;> exact .operated _ host operated

theorem capture_stepped (frame : InputFrame) : Stepped s.input event (s.capture frame).input := by
  unfold capture contactOf
  cases down : s.down frame.device with
  | none =>
    simp only
    by_cases opens : frame.part = .opening
    · rw [if_pos opens]
      simp only
      rw [if_pos opens]
      exact .began frame opens down
    · simp only [opens, if_false]
      exact .idle
  | some contact =>
    simp only
    by_cases opens : frame.part = .opening
    · simp only [opens, if_true]
      exact .idle
    · simp only [opens, if_false]
      exact .continued frame contact opens down

theorem work_stepped (now : Int) (marker : Option Nat) : Stepped s.input event (s.work now marker).input := by
  unfold work
  cases queue : s.host.panel.commands with
  | nil => exact .idle
  | cons command rest =>
    have announces := (handle_announces (s.env now marker) (p := s.worker) command).committed
    simp only
    split
    · exact .worked command rest [] false _ queue (List.nil_sublist rest) (.inl rfl)
    generalize s.worker.handle (s.env now marker) command = outcome at announces
    obtain ⟨result, worker⟩ := outcome
    cases result with
    | ok _ => exact .worked command rest rest _ _ queue (List.Sublist.refl rest) announces
    | error error =>
      simp only
      split
      · exact .worked command rest rest _ _ queue (List.Sublist.refl rest) announces
      · exact .worked command rest [] false _ queue (List.nil_sublist rest) announces

theorem flush_stepped {outcome : Outcome} (announces : Announces s.worker none outcome.2) :
    Stepped s.input event (s.flush outcome).input := by
  have committed : outcome.2.telemetry.committedForeground = s.worker.telemetry.committedForeground ∨
      outcome.2.telemetry.committedForeground = none := by
    simpa using announces.committed
  obtain ⟨result, worker⟩ := outcome
  cases result with
  | ok _ => exact .flushed s.host.panel.commands s.host.panel.connected _ (List.Sublist.refl _) committed
  | error error => exact .flushed [] false _ (List.nil_sublist _) committed

theorem whileRunning_stepped {step : DisplayHost → DisplayHost} (runs : Stepped s.input event (step s).input) :
    Stepped s.input event (s.whileRunning step).input := by
  unfold whileRunning
  split
  · exact runs
  · exact .idle

theorem next_stepped (s : DisplayHost) (event : HostEvent) : Stepped s.input event (s.next event).input := by
  cases event with
  | connect => exact .connected
  | register client key width height format creation => exact register_stepped client key width height format creation
  | activateClient client => exact activateClient_stepped client
  | replyFailed client =>
    simp only [next, replyFailed]
    split
    · rename_i key registering
      exact .aborted client key registering
    · exact .idle
  | draw shmKey bytes => exact .idle
  | markCommit client =>
    simp only [next]
    exact withKey_stepped fun key => updateSurface_stepped key _
  | damage client rect =>
    simp only [next]
    exact withKey_stepped fun key => exclusively_stepped (damage_stepped key rect)
  | setRefreshMode client mode =>
    simp only [next]
    exact withKey_stepped fun key => updateSurface_stepped key _
  | requestSurfaceFullRefresh client =>
    simp only [next]
    exact withKey_stepped fun key => exclusively_stepped
      (perform_stepped 0 (HostState.requestSurfaceFullRefresh_operated key))
  | disconnect client =>
    simp only [next, disconnect]
    split
    · rename_i fresh
      exact .refused client s.host.nextShmKey fresh
    · rename_i key active
      exact exclusively_stepped (.left client key _ active (HostState.unregister_departs client key))
    · exact .idle
  | receive client => exact .received client
  | setForeground key generation epoch fullRefresh =>
    simp only [next]
    exact exclusively_stepped
      (perform_stepped 0 (HostState.setForeground_operated key generation epoch fullRefresh))
  | prepareForeground key generation epoch =>
    simp only [next]
    exact exclusively_stepped
      (perform_stepped 0 (HostState.prepareForeground_operated key generation epoch))
  | activateForeground key generation epoch inkEnabled fullRefresh =>
    simp only [next]
    exact exclusively_stepped (perform_stepped 0
      (HostState.activateForeground_operated key generation epoch inkEnabled fullRefresh))
  | clearForeground =>
    simp only [next]
    exact exclusively_stepped (perform_stepped 0 HostState.clearForeground_operated)
  | configureInk key generation epoch enabled region =>
    simp only [next]
    exact exclusively_stepped (begin_stepped (HostState.configureInk_begins (s := s.host) 0 key generation epoch enabled
      region).1)
  | requestFullRefresh =>
    simp only [next]
    exact exclusively_stepped (perform_stepped 0 HostState.requestFullRefresh_operated)
  | showLock key generation epoch sleepEpoch =>
    simp only [next]
    exact exclusively_stepped
      (perform_stepped 0 (HostState.showLock_operated key generation epoch sleepEpoch))
  | refreshLock sleepEpoch =>
    simp only [next]
    exact exclusively_stepped (perform_stepped 0 (HostState.refreshLock_operated sleepEpoch))
  | cancelLock sleepEpoch sequence =>
    simp only [next]
    exact exclusively_stepped
      (begin_stepped (HostState.cancelLock_operated s.shm s.worker.telemetry sleepEpoch sequence))
  | acknowledged =>
    simp only [next, acknowledged]
    split
    · rename_i sleepEpoch _
      split
      · exact .finished sleepEpoch
      · exact .idle
    · split <;> exact .idle
    · exact .idle
  | timedOut => exact .idle
  | inject epoch frame =>
    simp only [next]
    exact exclusively_stepped (.injected epoch frame)
  | shutdown =>
    rcases HostState.offerPanel_spec (s := { s.host with shutdown := true }) .shutdown with refused | accepted
    · simp only [next, refused]
      have step : Stepped s.input .shutdown _ := .stopping [] (by simp)
      rw [List.append_nil] at step
      exact step
    · simp only [next, accepted]
      exact .stopping [.shutdown] (by simp)
  | capture frame => exact capture_stepped frame
  | dispatchPen =>
    simp only [next]
    refine exclusively_stepped ?_
    unfold dispatchPen
    split
    · exact .idle
    · rename_i captured rest queue
      exact .dispatchedPen captured rest queue
  | dispatchTouch =>
    simp only [next]
    refine exclusively_stepped ?_
    unfold dispatchTouch
    split
    · exact .idle
    · rename_i captured rest queue
      exact .dispatchedTouch captured rest queue
  | work now marker =>
    simp only [next]
    exact whileRunning_stepped (work_stepped now marker)
  | flushDeferred now marker =>
    simp only [next]
    exact whileRunning_stepped (flush_stepped (flushDeferredDamage_announces (s.env now marker)).1)
  | flushDeadlines now marker =>
    simp only [next]
    refine whileRunning_stepped (flush_stepped ?_)
    obtain ⟨dirty, deadline, started, view, _⟩ := flushDeadlines_view (s.env now marker) (p := s.worker)
    exact ⟨.inl view.committedForeground, fun _ waits => view.deferredDamage ▸ waits⟩

end DisplayHost
end Remagic.Display
