import Remagic.DaemonLocks
import Remagic.Runs

/-!
# The daemon at work

The event loop takes one event after another from its queue, and beside it the tasks of
control clients and of requests go on. Each step of the machine is one step of one of
them, or something that happens in the world.
-/

namespace Remagic.Daemon
open Supervisor
open Programs (Program)

/-- What a task is there for, and what it has yet to do. -/
abbrev Task := Role × Program Op Outcome

structure Machine where
  shared : SharedDaemon := {}
  tasks : Nat → Option Task := fun _ => none
  /-- The requests that someone waits for, and may give up. -/
  cancellable : Nat → Bool := fun _ => false
  /-- `event_loop` has ended with an error, and the daemon with it. -/
  failed : Bool := false

/-- An application that says it is parked is parked: `Request::Parked`. -/
def Event.possible : Event → Bool
  | .appParked session => session.status ≠ .background
  | _ => true

theorem Event.possible_iff {event : Event} : event.possible = true ↔ event.wellFormed := by
  cases event with
  | appParked session => exact decide_eq_true_iff
  | _ => exact ⟨fun _ => trivial, fun _ => rfl⟩

/-- The daemon when `run` enters the event loop. -/
def Machine.boot (manifests : List AppManifest) (sessions : Table AppSession) : Machine :=
  { shared := { manifests, sessions } }

/-- `mpsc::channel(64)`. -/
def queueCapacity : Nat := 64

inductive Step where
  /-- Someone makes an event of it, which has yet to enter the queue. -/
  | create (event : Event) (cancellable : Bool)
  | enqueue (request : Nat)
  /-- The time of the requester is up: `RequestFence::cancel`. -/
  | giveUp (request : Nat)
  /-- The timer of the posted event with this index runs out. -/
  | fire (index : Nat)
  /-- The event loop takes the next event. -/
  | serve
  | spawn (task : Nat) (role : Role)
  | perform (task : Nat) (answer : Answer)
  | finish (task : Nat)
  /-- The client's time is up, and its task is dropped where it stands. -/
  | abandon (task : Nat)
  | unitExits (id : AppId)
  | displayExits
  | homeCommits (sequence : Nat)

namespace SharedDaemon

/-- An event that its creator then waits to send. -/
def create (event : Event) (s : SharedDaemon) : SharedDaemon :=
  { (s.newEvent event).2 with sending := s.sending ++ [(s.newEvent event).1] }

def enqueue (request : Nat) (s : SharedDaemon) : SharedDaemon :=
  match s.sending.find? fun queued => queued.request = request with
  | some queued =>
    if s.queue.length < queueCapacity then
      { s with queue := s.queue ++ [queued], sending := s.sending.filter fun other => other.request ≠ request }
    else s
  | none => s

def giveUp (request : Nat) (s : SharedDaemon) : SharedDaemon :=
  { s with
    fences := if s.fences request = .pending then Function.update s.fences request .cancelled else s.fences
    sending := s.sending.filter fun other => other.request ≠ request }

def fire (index : Nat) (s : SharedDaemon) : SharedDaemon :=
  match s.posted[index]? with
  | some (event, interactionEpoch) =>
    if s.launchInterruptEpoch = interactionEpoch then { s with posted := s.posted.eraseIdx index }.create event
    else { s with posted := s.posted.eraseIdx index }
  | none => s

/-- The guards of a task that is dropped let its locks go. -/
def dropLocks (task : Nat) (s : SharedDaemon) : SharedDaemon :=
  { s with locks := fun lock => if s.locks lock = some task then none else s.locks lock }

end SharedDaemon

namespace Machine

def put (task : Nat) (doing : Option Task) (m : Machine) : Machine := { m with tasks := Function.update m.tasks task doing }

def create (event : Event) (cancellable : Bool) (m : Machine) : Machine :=
  { m with
    shared := m.shared.create event
    cancellable := Function.update m.cancellable m.shared.requests cancellable }

def serve (m : Machine) : Machine :=
  match m.tasks loopTask, m.shared.queue with
  | none, queued :: rest =>
    { m with shared := { m.shared with queue := rest } }.put loopTask (some (.serving queued, Daemon.serve queued))
  | _, _ => m

/-- A task beside the event loop. -/
def spawn (task : Nat) (role : Role) (m : Machine) : Machine :=
  match role with
  | .serving _ => m
  | role => if task ≠ loopTask ∧ (m.tasks task).isNone then m.put task (some (role, role.program)) else m

def perform (task : Nat) (answer : Answer) (m : Machine) : Machine :=
  match m.tasks task with
  | some (role, program) =>
    { m with shared := (program.advance (operations task) answer m.shared).2 }.put task
      (some (role, (program.advance (operations task) answer m.shared).1))
  | none => m

def finish (task : Nat) (m : Machine) : Machine :=
  match m.tasks task with
  | some (_, .done outcome) => { m with failed := task = loopTask ∧ !outcome.recovery.isOk }.put task none
  | _ => m

def abandon (task : Nat) (m : Machine) : Machine :=
  if task ≠ loopTask ∧ (m.tasks task).isSome then { m with shared := m.shared.dropLocks task }.put task none else m

def next (m : Machine) (step : Step) : Machine :=
  if m.failed then m
  else match step with
    | .create event cancellable => if event.possible then m.create event cancellable else m
    | .enqueue request => { m with shared := m.shared.enqueue request }
    | .giveUp request => if m.cancellable request then { m with shared := m.shared.giveUp request } else m
    | .fire index => { m with shared := m.shared.fire index }
    | .serve => m.serve
    | .spawn task role => m.spawn task role
    | .perform task answer => m.perform task answer
    | .finish task => m.finish task
    | .abandon task => m.abandon task
    | .unitExits id => { m with shared := { m.shared with units := Function.update m.shared.units id false } }
    | .displayExits => { m with shared := { m.shared with display := {} } }
    | .homeCommits homeSequence =>
      { m with shared := { m.shared with display := { m.shared.display with homeSequence } } }

end Machine

end Remagic.Daemon
