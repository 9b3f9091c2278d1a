import Remagic.AppIds
import Remagic.Fallible

/-!
# The supervisor's state

The v2 single source of truth of the manager: the stock/managed domain, the
sleep flag, the one foreground application and a record for each application,
with the nine operations that edit it. An operation edits the state in place
and may fail after an edit, so it is a computation that returns the state it
leaves behind with its result or its error.
-/

namespace Remagic.Supervisor
open Fallible

/-- The largest `u64`. -/
def u64Max : Nat := 18446744073709551615

/-- The stock/managed ownership boundary. -/
inductive SystemDomainState where
  | stock | enteringManaged | managed | leavingManaged | recovering
deriving DecidableEq, Repr

inductive AppInstanceState where
  | starting | foreground | background | stopping | exited | crashed | unresponsive
deriving DecidableEq, Repr

def AppInstanceState.isTerminal : AppInstanceState → Bool
  | .exited | .crashed => true
  | _ => false

/-- The identity fence attached to every lifecycle, display, input and ink message. -/
structure AppToken where
  appId : AppId
  generation : Nat
  foregroundEpoch : Nat
  leaseId : Option Nat
deriving DecidableEq

structure AppInstance where
  token : AppToken
  state : AppInstanceState
  pid : Option Nat
  title : String
  subtitle : String
  lastError : Option String
deriving DecidableEq

structure SupervisorState where
  domain : SystemDomainState
  sleeping : Bool
  foregroundApp : Option AppId
  lastApp : Option AppId
  apps : Std.ExtTreeMap AppId AppInstance compare
  stateRevision : Nat

instance : Inhabited SupervisorState := ⟨.stock, false, none, none, ∅, 0⟩

inductive StateModelError where
  | zeroGeneration (app : AppId)
  | zeroLease (app : AppId)
  | foregroundWithoutLease (app : AppId)
  | leaseOutsideForeground (app : AppId)
  | mismatchedAppKey (key token : AppId)
  | multipleForegroundApps
  | duplicateLease (lease : Nat)
  | foregroundPointerMismatch
  | sleepOutsideManaged
  | foregroundWhileSleeping
  | foregroundOutsideManaged
  | runningAppInStockDomain
  | invalidDomainTransition (source target : SystemDomainState)
  | launchOutsideActiveManaged
  | appAlreadyRunning (app : AppId)
  | unknownApp (app : AppId)
  | staleGeneration (app : AppId) (expectedAfter actual : Nat)
  | staleForegroundEpoch (app : AppId) (expectedAfter actual : Nat)
  | invalidAppTransition (app : AppId) (source target : AppInstanceState)
  | revisionOverflow
deriving DecidableEq

/-! ## Validation -/

def AppToken.validate (token : AppToken) : Except StateModelError Unit :=
  if token.generation = 0 then .error (.zeroGeneration token.appId)
  else if token.leaseId = some 0 then .error (.zeroLease token.appId)
  else .ok ()

def AppInstance.validate (inst : AppInstance) : Except StateModelError Unit := do
  inst.token.validate
  if inst.state = .foreground ∧ inst.token.leaseId = none then
    throw (.foregroundWithoutLease inst.token.appId)
  if inst.state ≠ .foreground ∧ inst.token.leaseId ≠ none then
    throw (.leaseOutsideForeground inst.token.appId)

/-- The loop of `validate` over the applications: the foreground application
    found so far and the leases seen so far. -/
def validateApps : List (AppId × AppInstance) → Option AppId → List Nat →
    Except StateModelError (Option AppId)
  | [], foreground, _ => .ok foreground
  | (id, inst) :: rest, foreground, leases => do
    if id ≠ inst.token.appId then throw (.mismatchedAppKey id inst.token.appId)
    inst.validate
    if inst.state = .foreground ∧ foreground.isSome then throw .multipleForegroundApps
    let foreground := if inst.state = .foreground then some id else foreground
    match inst.token.leaseId with
    | none => validateApps rest foreground leases
    | some lease =>
      if lease ∈ leases then throw (.duplicateLease lease)
      validateApps rest foreground (lease :: leases)

/-- Some application has not exited or crashed. -/
def anyRunning (apps : Std.ExtTreeMap AppId AppInstance compare) : Bool :=
  apps.toList.any fun entry => !entry.2.state.isTerminal

def SupervisorState.validate (s : SupervisorState) : Except StateModelError Unit := do
  if s.sleeping ∧ s.domain ≠ .managed then throw .sleepOutsideManaged
  let foreground ← validateApps s.apps.toList none []
  if foreground ≠ s.foregroundApp then throw .foregroundPointerMismatch
  if s.sleeping ∧ s.foregroundApp.isSome then throw .foregroundWhileSleeping
  if s.domain ≠ .managed then
    if s.foregroundApp.isSome then throw .foregroundOutsideManaged
    if s.domain = .stock ∧ anyRunning s.apps then throw .runningAppInStockDomain

/-! ## Operations -/

/-- A computation that edits the state in place: an error keeps the edits made before it. -/
abbrev Supervised := ExceptT StateModelError (StateM SupervisorState)

def ensureRevisionCapacity : Supervised Unit := do
  let s ← get
  failIf (s.stateRevision = u64Max) .revisionOverflow

def bumpRevision : Supervised Unit := do
  let s ← get
  failIf (s.stateRevision + 1 > u64Max) .revisionOverflow
  modify fun s => { s with stateRevision := s.stateRevision + 1 }

/-- The lookup of `current_instance_mut`. -/
def currentInstance (appId : AppId) (generation : Nat) : Supervised AppInstance := do
  let s ← get
  match s.apps[appId]? with
  | none => throw (.unknownApp appId)
  | some inst =>
    failIf (inst.token.generation ≠ generation)
      (.staleGeneration appId (inst.token.generation - 1) generation)
    pure inst

/-- A write through the reference that `current_instance_mut` returned. -/
def writeInstance (appId : AppId) (inst : AppInstance) : Supervised Unit :=
  modify fun s => { s with apps := s.apps.insert appId inst }

/-- The pairs `transition_domain` admits. -/
def domainEdge : SystemDomainState → SystemDomainState → Bool
  | .stock, .enteringManaged
  | .enteringManaged, .managed
  | .managed, .leavingManaged
  | .leavingManaged, .stock
  | .recovering, .stock
  | .stock, .recovering
  | .enteringManaged, .recovering
  | .managed, .recovering
  | .leavingManaged, .recovering => true
  | _, _ => false

/-- What leaving the managed domain does to each application: its lease is
    withdrawn, and a foreground application starts to stop. -/
def AppInstance.withdraw (inst : AppInstance) : AppInstance :=
  { inst with
    token := { inst.token with leaseId := none }
    state := if inst.state = .foreground then .stopping else inst.state }

def transitionDomain (next : SystemDomainState) : Supervised Unit := do
  ensureRevisionCapacity
  let s ← get
  failIf (!domainEdge s.domain next) (.invalidDomainTransition s.domain next)
  failIf (next = .stock ∧ anyRunning s.apps) .runningAppInStockDomain
  if next ≠ .managed then
    modify fun s => { s with
      sleeping := false
      foregroundApp := none
      apps := s.apps.map fun _ inst => inst.withdraw }
  modify fun s => { s with domain := next }
  bumpRevision

def setSleeping (sleeping : Bool) : Supervised Unit := do
  ensureRevisionCapacity
  let s ← get
  failIf (s.domain ≠ .managed) .sleepOutsideManaged
  failIf (sleeping ∧ s.foregroundApp.isSome) .foregroundWhileSleeping
  modify fun s => { s with sleeping := sleeping }
  bumpRevision

def startApp (appId : AppId) (generation : Nat) (pid : Option Nat) : Supervised AppToken := do
  ensureRevisionCapacity
  let s ← get
  failIf (s.domain ≠ .managed ∨ s.sleeping) .launchOutsideActiveManaged
  failIf (generation = 0) (.zeroGeneration appId)
  if let some previous := s.apps[appId]? then
    failIf (generation ≤ previous.token.generation)
      (.staleGeneration appId previous.token.generation generation)
    failIf (!previous.state.isTerminal) (.appAlreadyRunning appId)
  let token : AppToken := ⟨appId, generation, 0, none⟩
  writeInstance appId ⟨token, .starting, pid, "", "", none⟩
  bumpRevision
  pure token

def grantForeground (appId : AppId) (generation foregroundEpoch leaseId : Nat) :
    Supervised AppToken := do
  ensureRevisionCapacity
  let s ← get
  failIf (s.domain ≠ .managed ∨ s.sleeping) .launchOutsideActiveManaged
  failIf (s.foregroundApp.isSome) .multipleForegroundApps
  let inst ← currentInstance appId generation
  failIf (inst.state ≠ .starting ∧ inst.state ≠ .background)
    (.invalidAppTransition appId inst.state .foreground)
  failIf (foregroundEpoch = 0 ∨ foregroundEpoch ≤ inst.token.foregroundEpoch)
    (.staleForegroundEpoch appId inst.token.foregroundEpoch foregroundEpoch)
  failIf (leaseId = 0) (.zeroLease appId)
  let token := { inst.token with foregroundEpoch := foregroundEpoch, leaseId := some leaseId }
  writeInstance appId { inst with token := token, state := .foreground }
  modify fun s => { s with foregroundApp := some appId, lastApp := some appId }
  bumpRevision
  pure token

def markBackgroundReady (appId : AppId) (generation : Nat) (title subtitle : String) :
    Supervised AppToken := do
  ensureRevisionCapacity
  let inst ← currentInstance appId generation
  failIf (inst.state ≠ .starting) (.invalidAppTransition appId inst.state .background)
  writeInstance appId { inst with state := .background, title := title, subtitle := subtitle }
  bumpRevision
  pure inst.token

def enterBackground (appId : AppId) (generation foregroundEpoch : Nat) : Supervised AppToken := do
  ensureRevisionCapacity
  let inst ← currentInstance appId generation
  failIf (inst.state ≠ .foreground ∨ inst.token.foregroundEpoch ≠ foregroundEpoch)
    (.staleForegroundEpoch appId (inst.token.foregroundEpoch - 1) foregroundEpoch)
  let token := { inst.token with leaseId := none }
  writeInstance appId { inst with state := .background, token := token }
  modify fun s => { s with foregroundApp := none, lastApp := some appId }
  bumpRevision
  pure token

/-- The end of `begin_stop`, `finish_app` and `mark_unresponsive`: the
    foreground pointer is cleared when it names the application. -/
def releaseForeground (appId : AppId) : Supervised Unit :=
  modify fun s => { s with foregroundApp := if s.foregroundApp = some appId then none else s.foregroundApp }

def beginStop (appId : AppId) (generation : Nat) : Supervised AppToken := do
  ensureRevisionCapacity
  let inst ← currentInstance appId generation
  failIf (inst.state.isTerminal ∨ inst.state = .stopping) (.invalidAppTransition appId inst.state .stopping)
  let token := { inst.token with leaseId := none }
  writeInstance appId { inst with state := .stopping, token := token }
  releaseForeground appId
  bumpRevision
  pure token

def finishApp (appId : AppId) (generation : Nat) (crashed : Bool) (error : Option String) :
    Supervised AppToken := do
  ensureRevisionCapacity
  let inst ← currentInstance appId generation
  let final := if crashed then AppInstanceState.crashed else .exited
  failIf (inst.state.isTerminal) (.invalidAppTransition appId inst.state final)
  let token := { inst.token with leaseId := none }
  writeInstance appId { inst with state := final, token := token, pid := none, lastError := error }
  releaseForeground appId
  bumpRevision
  pure token

def markUnresponsive (appId : AppId) (generation : Nat) (error : String) : Supervised AppToken := do
  ensureRevisionCapacity
  let inst ← currentInstance appId generation
  failIf (inst.state.isTerminal ∨ inst.state = .unresponsive)
    (.invalidAppTransition appId inst.state .unresponsive)
  let token := { inst.token with leaseId := none }
  writeInstance appId { inst with state := .unresponsive, token := token, lastError := some error }
  releaseForeground appId
  bumpRevision
  pure token

/-- A call of one of the nine operations with its arguments. -/
inductive Operation where
  | transitionDomain (next : SystemDomainState)
  | setSleeping (sleeping : Bool)
  | startApp (appId : AppId) (generation : Nat) (pid : Option Nat)
  | grantForeground (appId : AppId) (generation foregroundEpoch leaseId : Nat)
  | markBackgroundReady (appId : AppId) (generation : Nat) (title subtitle : String)
  | enterBackground (appId : AppId) (generation foregroundEpoch : Nat)
  | beginStop (appId : AppId) (generation : Nat)
  | finishApp (appId : AppId) (generation : Nat) (crashed : Bool) (error : Option String)
  | markUnresponsive (appId : AppId) (generation : Nat) (error : String)

/-- The call, with the token it returns when it returns one. -/
def Operation.perform : Operation → Supervised (Option AppToken)
  | .transitionDomain next => do Supervisor.transitionDomain next; pure none
  | .setSleeping sleeping => do Supervisor.setSleeping sleeping; pure none
  | .startApp appId generation pid => some <$> Supervisor.startApp appId generation pid
  | .grantForeground appId generation epoch lease =>
    some <$> Supervisor.grantForeground appId generation epoch lease
  | .markBackgroundReady appId generation title subtitle =>
    some <$> Supervisor.markBackgroundReady appId generation title subtitle
  | .enterBackground appId generation epoch =>
    some <$> Supervisor.enterBackground appId generation epoch
  | .beginStop appId generation => some <$> Supervisor.beginStop appId generation
  | .finishApp appId generation crashed error =>
    some <$> Supervisor.finishApp appId generation crashed error
  | .markUnresponsive appId generation error =>
    some <$> Supervisor.markUnresponsive appId generation error

/-- The result of a call and the state it leaves. -/
def Operation.call (op : Operation) (s : SupervisorState) :
    Except StateModelError (Option AppToken) × SupervisorState :=
  op.perform.run s

/-- The state after a sequence of calls, whatever each of them answered. -/
def runAll (s : SupervisorState) : List Operation → SupervisorState
  | [] => s
  | op :: rest => runAll (op.call s).2 rest

end Remagic.Supervisor
