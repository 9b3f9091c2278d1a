import Remagic.AgentTurns

/-!
# The agent service's connections

Each connection reads one message after another, has it authorized and carries it
out. A turn that a connection starts is carried by a task of its own, which finishes
it and then clears the connection's note of the turn. A connection that reads the end
of its stream cancels the turn that it has noted.
-/

namespace Remagic.Agent

/-- What a valid message asks for. -/
inductive Ask where
  | startTurn (requestId : String) (profile : AgentProfile) (lane : AgentLane) (systemPrompt : String) (hasTools : Bool)
  | cancelTurn (turnId : String)
  | reloadProfile (profile : Option AgentProfile)
  | newSession
  /-- A status or a tool result, which change nothing. -/
  | other
  deriving DecidableEq

/-- The message asks for a turn, which one with tools never gets. -/
def Ask.starts : Ask → Bool
  | .startTurn _ _ _ _ hasTools => !hasTools
  | _ => false

structure ClientMessage where
  app : AppId
  token : String
  ask : Ask
  deriving DecidableEq

/-- Where a connection stands. -/
inductive Stage where
  | reading
  | authorizing (message : ClientMessage)
  | dispatching (message : ClientMessage)
  | starting
  /-- The turn is started and noted, and its task is about to be spawned. -/
  | accepted (c : Channel) (app : AppId) (turnId : String)
  | taking
  | closing (app : AppId) (turnId : String)
  | ended
  deriving DecidableEq

structure Connection where
  identity : ClientIdentity
  pinned : Option AppId := none
  /-- The `ConnectionTurn`. -/
  owned : Option (AppId × String) := none
  stage : Stage := .reading
  deriving DecidableEq

/-- The task that carries a turn: `clearing` once it has finished the turn. -/
structure TurnTask where
  channel : Channel
  connection : Nat
  app : AppId
  turnId : String
  clearing : Bool := false
  deriving DecidableEq

/-- The turn's task has finished it. -/
def TurnTask.finished (c : Channel) (task : TurnTask) : TurnTask :=
  if task.channel = c then { task with clearing := true } else task

/-- The number of a connection is its place, and that of the starts it makes. -/
structure Service where
  agents : AgentSystem := {}
  connections : List Connection := []
  tasks : List TurnTask := []

inductive Event where
  | connect (identity : ClientIdentity)
  | message (n : Nat) (message : ClientMessage)
  /-- The end of the stream. -/
  | hangUp (n : Nat)
  /-- A read error, or a frame that is oversized or malformed. -/
  | broken (n : Nat)
  | proceed (n : Nat) (answer : Answer)
  /-- The worker is done with the turn. -/
  | ends (c : Channel)
  | clears (c : Channel)

namespace Service

def put (n : Nat) (conn : Connection) (s : Service) : Service := { s with connections := s.connections.set n conn }

/-- What a connection does with a message that it is to carry out. -/
def dispatch (n : Nat) (conn : Connection) (message : ClientMessage) (answer : Answer) (s : Service) : Service :=
  match message.ask with
  | .startTurn requestId profile lane systemPrompt hasTools =>
    if hasTools then s.put n { conn with stage := .reading }
    else
      { s with agents := s.agents.next (.start n
          { app := message.app, requestId, profile, systemPrompt, lane, principal := conn.identity.principal }
          answer.available) }.put n { conn with stage := .starting }
  | .cancelTurn turnId =>
    { s with agents := s.agents.next (.cancel message.app turnId) }.put n { conn with stage := .reading }
  | .reloadProfile profile =>
    { s with agents := s.agents.next (.reloadProfile message.app profile) }.put n { conn with stage := .reading }
  | .newSession => { s with agents := s.agents.next (.newSession message.app) }.put n { conn with stage := .reading }
  | .other => s.put n { conn with stage := .reading }

/-- Where an authorized message leads: a connection represents one application. -/
def represent (conn : Connection) (message : ClientMessage) : Connection :=
  if conn.pinned.any (· ≠ message.app) then { conn with stage := .reading }
  else { conn with pinned := some message.app, stage := .dispatching message }

/-- A step of a connection whose start is under way. -/
def awaitStart (n : Nat) (conn : Connection) (answer : Answer) (s : Service) : Service :=
  match s.agents.calls n with
  | none => s.put n { conn with stage := .reading }
  | some call => match call.stage with
    | .returned (.ok c) =>
      s.put n { conn with
        owned := some (call.request.app, call.request.turnId)
        stage := .accepted c call.request.app call.request.turnId }
    | .returned (.error _) => s.put n { conn with stage := .reading }
    | _ => { s with agents := s.agents.next (.proceed n answer) }

/-- The next step of a connection's own. -/
def advance (n : Nat) (conn : Connection) (answer : Answer) (s : Service) : Service :=
  match conn.stage with
  | .reading => s
  | .authorizing message =>
    { s with agents := s.agents.next (.authorize conn.identity message.app message.token) }.put n
      (if s.agents.authorizes conn.identity message.app message.token then represent conn message
       else { conn with stage := .reading })
  | .dispatching message => s.dispatch n conn message answer
  | .starting => s.awaitStart n conn answer
  | .accepted c app turnId =>
    { s with tasks := { channel := c, connection := n, app, turnId } :: s.tasks }.put n { conn with stage := .reading }
  | .taking => s.put n { conn with
      owned := none
      stage := match conn.owned with
        | none => .ended
        | some (app, turnId) => .closing app turnId }
  | .closing app turnId =>
    { s with agents := s.agents.next (.cancel app turnId) }.put n { conn with stage := .ended }
  | .ended => s

/-- A change of the connection, if it is reading. -/
def whileReading (n : Nat) (stage : Stage) (s : Service) : Service :=
  match s.connections[n]? with
  | none => s
  | some conn => if conn.stage = .reading then s.put n { conn with stage } else s

/-- `clear_owned_turn`. -/
def clearOwned (task : TurnTask) (s : Service) : Service :=
  match s.connections[task.connection]? with
  | none => s
  | some conn =>
    if conn.owned = some (task.app, task.turnId) then s.put task.connection { conn with owned := none } else s

/-- The task of the turn, at the given stage. -/
def task (c : Channel) (clearing : Bool) (s : Service) : Option TurnTask :=
  s.tasks.find? fun task => task.channel == c && task.clearing == clearing

def next (s : Service) : Event → Service
  -- `peer_identity` admits no generation of zero
  | .connect identity =>
    if identity.generation = 0 then s else { s with connections := s.connections ++ [{ identity }] }
  | .message n message => s.whileReading n (.authorizing message)
  | .hangUp n => s.whileReading n .taking
  | .broken n => s.whileReading n .ended
  | .proceed n answer => match s.connections[n]? with
    | none => s
    | some conn => s.advance n conn answer
  | .ends c => match s.task c false with
    | none => s
    | some task =>
      { s with agents := s.agents.next (.finish task.app task.turnId), tasks := s.tasks.map (TurnTask.finished c) }
  | .clears c => match s.task c true with
    | none => s
    | some task => { s.clearOwned task with tasks := s.tasks.filter fun other => other.channel ≠ c }

end Service

/-! ## What a step does -/

/-- The action neither starts nor finishes a turn, nor takes a step of a start. -/
def Action.Calm : Action → Prop
  | .cancel .. | .reloadProfile .. | .newSession .. => True
  | .start .. | .proceed .. | .finish .. | .authorize .. => False

/-- The ways in which a step may go. -/
inductive Goes (r : Service) : Event → Service → Prop where
  | stays (event : Event) : Goes r event r
  | connects (identity : ClientIdentity) :
      Goes r (.connect identity) { r with connections := r.connections ++ [{ identity }] }
  | reads (n : Nat) (conn : Connection) (message : ClientMessage) (found : r.connections[n]? = some conn)
      (stage : conn.stage = .reading) : Goes r (.message n message) (r.put n { conn with stage := .authorizing message })
  | hangsUp (n : Nat) (conn : Connection) (found : r.connections[n]? = some conn) (stage : conn.stage = .reading) :
      Goes r (.hangUp n) (r.put n { conn with stage := .taking })
  | breaks (n : Nat) (conn : Connection) (found : r.connections[n]? = some conn) (stage : conn.stage = .reading) :
      Goes r (.broken n) (r.put n { conn with stage := .ended })
  | authorizes (n : Nat) (conn : Connection) (message : ClientMessage) (answer : Answer)
      (found : r.connections[n]? = some conn) (stage : conn.stage = .authorizing message) :
      Goes r (.proceed n answer)
        ({ r with agents := r.agents.next (.authorize conn.identity message.app message.token) }.put n
          (if r.agents.authorizes conn.identity message.app message.token then Service.represent conn message
           else { conn with stage := .reading }))
  | acts (n : Nat) (conn : Connection) (message : ClientMessage) (action : Action) (answer : Answer)
      (found : r.connections[n]? = some conn) (stage : conn.stage = .dispatching message) (calm : action.Calm) :
      Goes r (.proceed n answer) ({ r with agents := r.agents.next action }.put n { conn with stage := .reading })
  | declines (n : Nat) (conn : Connection) (answer : Answer) (found : r.connections[n]? = some conn)
      (stage : (∃ message, conn.stage = .dispatching message) ∨ conn.stage = .starting ∧
        ∀ call ∈ r.agents.calls n, ∃ code, call.stage = .returned (.error code)) :
      Goes r (.proceed n answer) (r.put n { conn with stage := .reading })
  | starts (n : Nat) (conn : Connection) (message : ClientMessage) (request : StartRequest) (answer : Answer)
      (found : r.connections[n]? = some conn) (stage : conn.stage = .dispatching message) (app : request.app = message.app)
      (principal : request.principal = conn.identity.principal) (asks : message.ask.starts = true) :
      Goes r (.proceed n answer)
        ({ r with agents := r.agents.next (.start n request answer.available) }.put n { conn with stage := .starting })
  | calls (n : Nat) (conn : Connection) (call : StartCall) (answer : Answer) (found : r.connections[n]? = some conn)
      (stage : conn.stage = .starting) (held : r.agents.calls n = some call)
      (going : ∀ result, call.stage ≠ .returned result) :
      Goes r (.proceed n answer) ({ r with agents := r.agents.next (.proceed n answer) }.put n conn)
  | returns (n : Nat) (conn : Connection) (call : StartCall) (c : Channel) (answer : Answer)
      (found : r.connections[n]? = some conn) (stage : conn.stage = .starting) (held : r.agents.calls n = some call)
      (ok : call.stage = .returned (.ok c)) :
      Goes r (.proceed n answer)
        (r.put n { conn with
          owned := some (call.request.app, call.request.turnId)
          stage := .accepted c call.request.app call.request.turnId })
  | spawns (n : Nat) (conn : Connection) (c : Channel) (app : AppId) (turnId : String) (answer : Answer)
      (found : r.connections[n]? = some conn) (stage : conn.stage = .accepted c app turnId) :
      Goes r (.proceed n answer)
        ({ r with tasks := { channel := c, connection := n, app, turnId } :: r.tasks }.put n { conn with stage := .reading })
  | leaves (n : Nat) (conn : Connection) (answer : Answer) (found : r.connections[n]? = some conn)
      (stage : conn.stage = .taking) (owned : conn.owned = none) :
      Goes r (.proceed n answer) (r.put n { conn with owned := none, stage := .ended })
  | takes (n : Nat) (conn : Connection) (app : AppId) (turnId : String) (answer : Answer)
      (found : r.connections[n]? = some conn) (stage : conn.stage = .taking) (owned : conn.owned = some (app, turnId)) :
      Goes r (.proceed n answer) (r.put n { conn with owned := none, stage := .closing app turnId })
  | closes (n : Nat) (conn : Connection) (app : AppId) (turnId : String) (answer : Answer)
      (found : r.connections[n]? = some conn) (stage : conn.stage = .closing app turnId) :
      Goes r (.proceed n answer)
        ({ r with agents := r.agents.next (.cancel app turnId) }.put n { conn with stage := .ended })
  | ends (c : Channel) (task : TurnTask) (member : task ∈ r.tasks) (channel : task.channel = c)
      (carrying : task.clearing = false) :
      Goes r (.ends c)
        { r with agents := r.agents.next (.finish task.app task.turnId), tasks := r.tasks.map (TurnTask.finished c) }
  | clears (c : Channel) (task : TurnTask) (member : task ∈ r.tasks) (channel : task.channel = c)
      (clearing : task.clearing = true) :
      Goes r (.clears c) { r.clearOwned task with tasks := r.tasks.filter fun other => other.channel ≠ c }

namespace Service
variable {r : Service} {conn : Connection} {n : Nat}

theorem dispatch_goes (found : r.connections[n]? = some conn) {message : ClientMessage}
    (stage : conn.stage = .dispatching message) (answer : Answer) :
    Goes r (.proceed n answer) (r.dispatch n conn message answer) := by
  unfold dispatch
  cases asks : message.ask with
  | startTurn requestId profile lane systemPrompt hasTools =>
    cases hasTools with
    | true => exact .declines n conn answer found (.inl ⟨message, stage⟩)
    | false => exact .starts n conn message _ answer found stage rfl rfl (by rw [asks]; rfl)
  | cancelTurn turnId => exact .acts n conn message (.cancel message.app turnId) answer found stage trivial
  | reloadProfile profile => exact .acts n conn message (.reloadProfile message.app profile) answer found stage trivial
  | newSession => exact .acts n conn message (.newSession message.app) answer found stage trivial
  | other => exact .declines n conn answer found (.inl ⟨message, stage⟩)

theorem awaitStart_goes (found : r.connections[n]? = some conn) (stage : conn.stage = .starting) (answer : Answer) :
    Goes r (.proceed n answer) (r.awaitStart n conn answer) := by
  unfold awaitStart
  cases held : r.agents.calls n with
  | none => exact .declines n conn answer found (.inr ⟨stage, by simp [held]⟩)
  | some call =>
    have going : (∀ result, call.stage ≠ .returned result) →
        Goes r (.proceed n answer) { r with agents := r.agents.next (.proceed n answer) } := by
      intro going
      have goes := Goes.calls n conn call answer found stage held going
      have within := (List.getElem?_eq_some_iff.mp found)
      unfold put at goes
      simp only at goes
      rwa [← within.2, List.set_getElem_self] at goes
    simp only
    cases status : call.stage with
    | returned result =>
      cases result with
      | ok c => exact .returns n conn call c answer found stage held status
      | error code =>
        refine .declines n conn answer found (.inr ⟨stage, ?_⟩)
        intro other same
        rw [held] at same
        cases same
        exact ⟨code, status⟩
    | looking => exact going (by simp [status])
    | signalling c => exact going (by simp [status])
    | polling => exact going (by simp [status])
    | claiming => exact going (by simp [status])

theorem advance_goes (found : r.connections[n]? = some conn) (answer : Answer) :
    Goes r (.proceed n answer) (r.advance n conn answer) := by
  unfold advance
  cases stage : conn.stage with
  | reading => exact .stays _
  | authorizing message => exact .authorizes n conn message answer found stage
  | dispatching message => exact dispatch_goes found stage answer
  | starting => exact awaitStart_goes found stage answer
  | accepted c app turnId => exact .spawns n conn c app turnId answer found stage
  | taking =>
    cases owned : conn.owned with
    | none => exact .leaves n conn answer found stage owned
    | some noted => exact .takes n conn noted.1 noted.2 answer found stage owned
  | closing app turnId => exact .closes n conn app turnId answer found stage
  | ended => exact .stays _

theorem whileReading_goes {event : Event} {stage : Stage}
    (goes : ∀ conn, r.connections[n]? = some conn → conn.stage = .reading → Goes r event (r.put n { conn with stage })) :
    Goes r event (r.whileReading n stage) := by
  unfold whileReading
  cases found : r.connections[n]? with
  | none => exact .stays _
  | some conn =>
    simp only
    by_cases reading : conn.stage = .reading
    · rw [if_pos reading]
      exact goes conn found reading
    · rw [if_neg reading]
      exact .stays _

theorem task_some {c : Channel} {clearing : Bool} {task : TurnTask} (found : r.task c clearing = some task) :
    task ∈ r.tasks ∧ task.channel = c ∧ task.clearing = clearing := by
  unfold Service.task at found
  have fits := List.find?_some found
  simp only [Bool.and_eq_true, beq_iff_eq] at fits
  exact ⟨List.mem_of_find?_eq_some found, fits.1, fits.2⟩

theorem goes_next (r : Service) (event : Event) : Goes r event (r.next event) := by
  cases event with
  | connect identity =>
    unfold next
    by_cases zero : identity.generation = 0
    · simp only [zero, if_true]
      exact .stays _
    · simp only [zero, if_false]
      exact .connects identity
  | message n message => exact whileReading_goes fun conn found stage => .reads n conn message found stage
  | hangUp n => exact whileReading_goes fun conn found stage => .hangsUp n conn found stage
  | broken n => exact whileReading_goes fun conn found stage => .breaks n conn found stage
  | proceed n answer =>
    unfold next
    simp only
    cases found : r.connections[n]? with
    | none => exact .stays _
    | some conn => exact advance_goes found answer
  | ends c =>
    unfold next
    simp only
    cases found : r.task c false with
    | none => exact .stays _
    | some task =>
      obtain ⟨member, channel, carrying⟩ := task_some found
      exact .ends c task member channel carrying
  | clears c =>
    unfold next
    simp only
    cases found : r.task c true with
    | none => exact .stays _
    | some task =>
      obtain ⟨member, channel, clearing⟩ := task_some found
      exact .clears c task member channel clearing

end Service

end Remagic.Agent
