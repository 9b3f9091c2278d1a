import Mathlib.Logic.Function.Basic
import Remagic.AppIds

/-!
# The agent service's state

One active turn for each application, the worker that serves it, and the generation
to which each principal's clients are bound. Everything is behind one lock: what an
operation does while it holds the lock is one step, and `start`, which lets the lock
go while it waits for a turn to stop, is a call of several steps.
-/

namespace Remagic.Agent

inductive AgentLane where
  | interactive
  | speculative
  | scheduled
  deriving DecidableEq

structure AgentProfile where
  provider : String
  model : String
  thinking : String := "off"
  tools : Bool := false
  deriving DecidableEq

inductive AgentErrorCode where
  | unavailable
  | busy
  | backendFailed
  deriving DecidableEq

/-- The cancel channel of a turn. -/
abbrev Channel := Nat

abbrev WorkerHandle := Nat

structure ActiveTurn where
  id : String
  lane : AgentLane
  principal : String
  cancel : Channel
  deriving DecidableEq

structure PrincipalAuth where
  generation : Nat := 0
  clientToken : String := ""
  deriving DecidableEq

structure AppState where
  profile : Option AgentProfile := none
  systemPrompt : String := ""
  worker : Option WorkerHandle := none
  active : Option ActiveTurn := none
  principals : String → PrincipalAuth := fun _ => {}

structure ClientIdentity where
  appId : AppId
  generation : Nat
  principal : String
  deriving DecidableEq

/-- What is asked of a worker while the lock is held. -/
inductive WorkerCall where
  | shutdown (worker : WorkerHandle)
  | spawn (worker : WorkerHandle)
  | newSession (worker : WorkerHandle)
  deriving DecidableEq

/-- The call stops the worker or wipes its session. -/
def WorkerCall.Disturbs (worker : WorkerHandle) : WorkerCall → Prop
  | .shutdown other => other = worker
  | .newSession other => other = worker
  | .spawn _ => False

/-- What the world answers while a call is under way: whether the runtime is there,
    whether the wait has run out, whether the worker has exited, and whether a new one
    could be spawned. -/
structure Answer where
  available : Bool := true
  timedOut : Bool := false
  closed : Bool := false
  spawns : Bool := true

structure StartRequest where
  app : AppId
  requestId : String
  profile : AgentProfile
  systemPrompt : String := ""
  lane : AgentLane
  principal : String

/-- The turn that the request asks for. -/
def StartRequest.turnId (request : StartRequest) : String := request.app.value ++ ":" ++ request.requestId

/-! ## What is done under the lock -/

namespace AppState

/-- What `preempt_for_interaction` finds. -/
inductive Look where
  | clear
  | preempt (cancel : Channel)
  | busy
  deriving DecidableEq

def look (lane : AgentLane) (state : AppState) : Look :=
  match state.active with
  | none => .clear
  | some active => if lane = .interactive ∧ active.lane ≠ .interactive then .preempt active.cancel else .busy

inductive ClaimResult where
  | again (found : Channel)
  | refused (code : AgentErrorCode)
  | began
  deriving DecidableEq

structure Claim where
  state : AppState
  calls : List WorkerCall := []
  result : ClaimResult

/-- The worker is not the one that the request asks for, or it has exited. -/
def workerChanged (request : StartRequest) (closed : Bool) (state : AppState) : Bool :=
  state.profile != some request.profile || state.systemPrompt != request.systemPrompt || (state.worker.isSome && closed)

/-- Take the worker away and shut it down. -/
def retire (state : AppState) : AppState := { state with worker := none }

def retireCalls (state : AppState) : List WorkerCall := state.worker.toList.map .shutdown

/-- The turn becomes the active one. -/
def occupy (request : StartRequest) (cancel : Channel) (state : AppState) : AppState :=
  { state with
    profile := some request.profile
    systemPrompt := request.systemPrompt
    active := some { id := request.turnId, lane := request.lane, principal := request.principal, cancel } }

/-- See that there is a worker, and make the turn the active one. -/
def engage (request : StartRequest) (spawns : Bool) (fresh : WorkerHandle) (cancel : Channel) (calls : List WorkerCall)
    (state : AppState) : Claim :=
  match state.worker with
  | some _ => { state := state.occupy request cancel, calls, result := .began }
  | none =>
    if spawns then
      { state := { state with worker := some fresh }.occupy request cancel, calls := calls ++ [.spawn fresh], result := .began }
    else { state, calls, result := .refused .backendFailed }

/-- The second critical section of `start`. -/
def claim (request : StartRequest) (answer : Answer) (fresh : WorkerHandle) (cancel : Channel) (state : AppState) :
    Claim :=
  match state.active with
  | some active =>
    if request.lane = .interactive ∧ active.lane ≠ .interactive then { state, result := .again active.cancel }
    else { state, result := .refused .busy }
  | none =>
    if state.workerChanged request answer.closed then
      state.retire.engage request answer.spawns fresh cancel state.retireCalls
    else state.engage request answer.spawns fresh cancel []

def finish (turnId : String) (state : AppState) : AppState :=
  if state.active.any fun turn => turn.id == turnId then { state with active := none } else state

/-- The channel on which a cancel of the turn sends. Once the worker has dropped the receiver the
    send fails and reaches no one; the source then answers `TurnNotFound`, as it does for a turn
    that is not active. The answer is no part of this state. -/
def cancel (turnId : String) (state : AppState) : Option Channel :=
  (state.active.filter fun turn => turn.id == turnId).map ActiveTurn.cancel

def reloadProfile (profile : Option AgentProfile) (state : AppState) : AppState × List WorkerCall :=
  if state.active.isSome then (state, [])
  else if profile.isSome && profile == state.profile then (state, [])
  else ({ state.retire with profile := profile.or state.profile }, state.retireCalls)

def newSession (state : AppState) : List WorkerCall :=
  if state.active.isSome then [] else state.worker.toList.map .newSession

def authorize (identity : ClientIdentity) (token : String) (state : AppState) : Bool × AppState :=
  let bound := state.principals identity.principal
  if identity.generation < bound.generation then (false, state)
  else if bound.generation = identity.generation then (bound.clientToken == token, state)
  else if state.active.any fun turn => turn.principal == identity.principal then (false, state)
  else (true, { state with principals := Function.update state.principals identity.principal ⟨identity.generation, token⟩ })

end AppState

/-! ## Calls that take turns -/

/-- Where a `start` stands. -/
inductive StartStage where
  | looking
  | signalling (cancel : Channel)
  | polling
  | claiming
  | returned (result : Except AgentErrorCode Channel)
  deriving DecidableEq

/-- A `start` under way. What it found active, at its looks, is kept for the record. -/
structure StartCall where
  request : StartRequest
  stage : StartStage := .looking
  found : List Channel := []

/-- A turn that was started, and by which call. -/
structure Turn where
  caller : Nat
  app : AppId
  id : String
  lane : AgentLane
  principal : String
  worker : WorkerHandle
  deriving DecidableEq

/-- A token that was accepted for a principal's generation. -/
structure Acceptance where
  app : AppId
  principal : String
  generation : Nat
  token : String
  deriving DecidableEq

/-- The state behind the lock, the channels, and the calls under way. The turns and
    the acceptances are a record of the run: the place of a turn is its channel. -/
structure AgentSystem where
  apps : AppId → AppState := fun _ => {}
  workers : Nat := 0
  raised : List Channel := []
  calls : Nat → Option StartCall := fun _ => none
  turns : List Turn := []
  ended : List Channel := []
  accepted : List Acceptance := []

inductive Action where
  | start (call : Nat) (request : StartRequest) (available : Bool)
  | proceed (call : Nat) (answer : Answer)
  | finish (app : AppId) (turnId : String)
  | cancel (app : AppId) (turnId : String)
  | reloadProfile (app : AppId) (profile : Option AgentProfile)
  | newSession (app : AppId)
  | authorize (identity : ClientIdentity) (app : AppId) (token : String)

namespace AgentSystem

def setApp (app : AppId) (state : AppState) (s : AgentSystem) : AgentSystem :=
  { s with apps := Function.update s.apps app state }

def setCall (n : Nat) (call : StartCall) (s : AgentSystem) : AgentSystem :=
  { s with calls := Function.update s.calls n (some call) }

/-- Whether the call's number is free. -/
def idle (n : Nat) (s : AgentSystem) : Bool :=
  match s.calls n with
  | none => true
  | some call => match call.stage with
    | .returned _ => true
    | _ => false

/-- The turn that the claim began, for the record. -/
def beganTurn (n : Nat) (request : StartRequest) (claim : AppState.Claim) : Turn :=
  { caller := n, app := request.app, id := request.turnId, lane := request.lane, principal := request.principal,
    worker := claim.state.worker.getD 0 }

def claimed (n : Nat) (call : StartCall) (claim : AppState.Claim) (s : AgentSystem) : AgentSystem :=
  let left := { s with apps := Function.update s.apps call.request.app claim.state, workers := s.workers + 1 }
  match claim.result with
  | .again found => left.setCall n { call with stage := .looking, found := found :: call.found }
  | .refused code => left.setCall n { call with stage := .returned (.error code) }
  | .began =>
    { left with turns := s.turns ++ [beganTurn n call.request claim] }.setCall n
      { call with stage := .returned (.ok s.turns.length) }

def claimOf (call : StartCall) (answer : Answer) (s : AgentSystem) : AppState.Claim :=
  (s.apps call.request.app).claim call.request answer s.workers s.turns.length

/-- One step of a `start`. -/
def advance (n : Nat) (call : StartCall) (answer : Answer) (s : AgentSystem) : AgentSystem × List WorkerCall :=
  match call.stage with
  | .looking => match (s.apps call.request.app).look call.request.lane with
    | .clear => (s.setCall n { call with stage := .claiming }, [])
    | .preempt cancel => (s.setCall n { call with stage := .signalling cancel, found := cancel :: call.found }, [])
    | .busy => (s.setCall n { call with stage := .returned (.error .busy) }, [])
  | .signalling cancel => ({ s with raised := cancel :: s.raised }.setCall n { call with stage := .polling }, [])
  | .polling =>
    if answer.timedOut then (s.setCall n { call with stage := .returned (.error .busy) }, [])
    else if (s.apps call.request.app).active.isNone then (s.setCall n { call with stage := .claiming }, [])
    else (s, [])
  | .claiming => (s.claimed n call (s.claimOf call answer), (s.claimOf call answer).calls)
  | .returned _ => (s, [])

/-- One step, and what it asks of the workers. -/
def step (s : AgentSystem) : Action → AgentSystem × List WorkerCall
  | .start n request available =>
    if s.idle n then
      (s.setCall n { request, stage := if available then .looking else .returned (.error .unavailable) }, [])
    else (s, [])
  | .proceed n answer => match s.calls n with
    | none => (s, [])
    | some call => s.advance n call answer
  | .finish app turnId =>
    ({ s.setApp app ((s.apps app).finish turnId) with
        ended := ((s.apps app).cancel turnId).toList ++ s.ended }, [])
  | .cancel app turnId => ({ s with raised := ((s.apps app).cancel turnId).toList ++ s.raised }, [])
  | .reloadProfile app profile =>
    (s.setApp app ((s.apps app).reloadProfile profile).1, ((s.apps app).reloadProfile profile).2)
  | .newSession app => (s, (s.apps app).newSession)
  | .authorize identity app token =>
    if identity.appId = app then
      let (accepts, state) := (s.apps app).authorize identity token
      let accepted := if accepts then [⟨app, identity.principal, identity.generation, token⟩] else []
      ({ s.setApp app state with accepted := accepted ++ s.accepted }, [])
    else (s, [])

def next (s : AgentSystem) (action : Action) : AgentSystem := (s.step action).1

/-- What an authorization answers. -/
def authorizes (identity : ClientIdentity) (app : AppId) (token : String) (s : AgentSystem) : Bool :=
  decide (identity.appId = app) && ((s.apps app).authorize identity token).1

/-- What the step asks of the workers. -/
def workerCalls (s : AgentSystem) (action : Action) : List WorkerCall := (s.step action).2

end AgentSystem

end Remagic.Agent
