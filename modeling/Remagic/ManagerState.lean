import Remagic.Supervisor

/-!
# The manager's domain

Who owns the panel, as the daemon's event loop keeps it: the stock system, the
manager's Home surface, one application, or one of the passages between them.
-/

namespace Remagic.Daemon

inductive DomainState where
  | system
  | enteringManaged
  | manager
  | launching (app : AppId)
  | foreground (app : AppId)
  | parking (app : AppId)
  | restoringSystem
  | sleeping
  | recovering
  deriving DecidableEq

inductive Transition where
  | triplePower
  | singlePower
  | launch (app : AppId)
  | appReady (app : AppId)
  | appParked (app : AppId)
  | appRestored (app : AppId)
  | appExited (app : AppId)
  | appCrashed (app : AppId)
  | managedReady
  | systemReady
  | sleep
  | wake
  | failure
  deriving DecidableEq

structure ManagerState where
  domain : DomainState := .system
  lastApp : Option AppId := none
  sequence : Nat := 0
  deriving DecidableEq

/-- Where a transition leads, if it is valid in the domain. -/
def ManagerState.target (s : ManagerState) (transition : Transition) : Option DomainState :=
  match s.domain, transition with
  | .system, .triplePower => some .enteringManaged
  | .enteringManaged, .managedReady => some .manager
  | .manager, .launch app => some (.launching app)
  | .manager, .singlePower => s.lastApp.map .launching
  | .manager, .triplePower => some .restoringSystem
  | .manager, .sleep => some .sleeping
  | .sleeping, .wake => some .manager
  | .launching expected, .appReady actual => if expected = actual then some (.foreground actual) else none
  | .launching expected, .appExited actual => if expected = actual then some .manager else none
  | .launching expected, .appCrashed actual => if expected = actual then some .manager else none
  | .foreground app, .singlePower => some (.parking app)
  | .foreground app, .triplePower => some (.parking app)
  | .foreground expected, .appExited actual => if expected = actual then some .manager else none
  | .foreground expected, .appCrashed actual => if expected = actual then some .manager else none
  | .parking expected, .appParked actual => if expected = actual then some .manager else none
  | .parking expected, .appRestored actual => if expected = actual then some (.foreground actual) else none
  | .parking expected, .appExited actual => if expected = actual then some .manager else none
  | .parking expected, .appCrashed actual => if expected = actual then some .manager else none
  | .restoringSystem, .systemReady => some .system
  | _, .failure => some .recovering
  | .recovering, .systemReady => some .system
  | _, _ => none

/-- `ManagerState::apply`: `none` where the source answers `TransitionError`. -/
def ManagerState.apply (s : ManagerState) (transition : Transition) : Option ManagerState :=
  (s.target transition).map fun next =>
    { domain := next
      lastApp := match next with
        | .foreground app => some app
        | .parking app => some app
        | _ => s.lastApp
      sequence := (s.sequence + 1) % (Supervisor.u64Max + 1) }

end Remagic.Daemon
