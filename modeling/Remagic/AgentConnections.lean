import Remagic.AgentService

/-!
# Turns and the connections that started them

A connection's note of its turn leads to that turn and to no other, as long as no turn
takes over the id of one that is still being cleared away. So the end of a connection
stops its own turn.
-/

namespace Remagic.Agent

variable {s t : AgentSystem} {action : Action} {calls : List WorkerCall} {c : Channel} {turn : Turn} {n : Nat}

/-! ## What a step of the turns leaves alone -/

/-- Nothing but the channels and the bindings has changed. -/
structure Still (s t : AgentSystem) : Prop where
  turns : t.turns = s.turns
  ended : t.ended = s.ended
  calls : t.calls = s.calls
  raised : ∀ c ∈ s.raised, c ∈ t.raised

theorem moves_still (quiet : action.Calm ∨ ∃ identity app token, action = .authorize identity app token)
    (moves : Moves s action t calls) : Still s t := by
  have calm : (∀ n request available, action ≠ .start n request available) ∧ (∀ n answer, action ≠ .proceed n answer) ∧
      ∀ app turnId, action ≠ .finish app turnId := by
    rcases quiet with calm | ⟨identity, app, token, rfl⟩
    · cases action with
      | cancel app turnId => simp
      | reloadProfile app profile => simp
      | newSession app => simp
      | _ => exact calm.elim
    · simp
  obtain ⟨unstarted, waiting, going⟩ := calm
  cases moves with
  | cancels app active found => exact ⟨rfl, rfl, rfl, fun _ member => List.mem_cons_of_mem _ member⟩
  | starts n request available => exact absurd rfl (unstarted n request available)
  | waits n answer call found waits => exact absurd rfl (waiting n answer)
  | claims n answer call claim found claims => exact absurd rfl (waiting n answer)
  | finishes app active found => exact absurd rfl (going app active.id)
  | _ => exact ⟨rfl, rfl, rfl, fun _ member => member⟩

theorem next_still (calm : action.Calm) : Still s (s.next action) := moves_still (.inl calm) (moves_step s action)

theorem next_authorize_still (identity : ClientIdentity) (app : AppId) (token : String) :
    Still s (s.next (.authorize identity app token)) :=
  moves_still (.inr ⟨identity, app, token, rfl⟩) (moves_step s _)

theorem Still.unfinished (still : Still s t) : t.Unfinished c turn ↔ s.Unfinished c turn := by
  unfold AgentSystem.Unfinished
  rw [still.turns, still.ended]

/-- What a step of a start under way does: it changes the call's own place, and begins a
    turn or none. -/
structure Proceeds (s : AgentSystem) (n : Nat) (call : StartCall) (t : AgentSystem) : Prop where
  others : ∀ m, m ≠ n → t.calls m = s.calls m
  ended : t.ended = s.ended
  raised : ∀ c ∈ s.raised, c ∈ t.raised
  later : ∃ later, t.calls n = some later ∧ later.request = call.request ∧
    (t.turns = s.turns ∧ (∀ c, later.stage ≠ .returned (.ok c)) ∨
      call.stage = .claiming ∧ (s.apps call.request.app).active = none ∧ later.stage = .returned (.ok s.turns.length) ∧
        ∃ turn, t.turns = s.turns ++ [turn] ∧ turn.caller = n ∧ turn.app = call.request.app ∧
          turn.id = call.request.turnId ∧ turn.principal = call.request.principal)

theorem Still.proceeds {call later : StartCall} (still : Still s t) (request : later.request = call.request)
    (open' : ∀ c, later.stage ≠ .returned (.ok c)) : Proceeds s n call (t.setCall n later) := by
  refine ⟨?_, still.ended, still.raised, later, Function.update_self .., request, .inl ⟨still.turns, open'⟩⟩
  intro m different
  rw [← still.calls]
  exact Function.update_of_ne different ..

theorem claimed_proceeds {call : StartCall} {claim : AppState.Claim} (stage : call.stage = .claiming)
    (claims : Claims call.request s.workers s.turns.length (s.apps call.request.app) claim) :
    Proceeds s n call (s.claimed n call claim) := by
  have began : (s.apps call.request.app).active = none → claim.result = .began →
      Proceeds s n call (s.claimed n call claim) := by
    intro free began
    rw [claimed_began began]
    refine ⟨fun m different => Function.update_of_ne different .., rfl, fun _ member => member, _, Function.update_self ..,
      rfl, .inr ⟨stage, free, rfl, AgentSystem.beganTurn n call.request claim, rfl, rfl, rfl, rfl, rfl⟩⟩
  cases claims with
  | again active found asks yields =>
    refine Still.proceeds ⟨rfl, rfl, rfl, fun _ member => member⟩ rfl ?_
    simp
  | busy active found =>
    refine Still.proceeds ⟨rfl, rfl, rfl, fun _ member => member⟩ rfl ?_
    simp
  | failed free =>
    refine Still.proceeds ⟨rfl, rfl, rfl, fun _ member => member⟩ rfl ?_
    simp
  | reused worker free kept => exact began free rfl
  | spawned free => exact began free rfl

theorem next_proceed {call : StartCall} (found : s.calls n = some call) (going : ∀ result, call.stage ≠ .returned result)
    (answer : Answer) : Proceeds s n call (s.next (.proceed n answer)) := by
  have still : Still s s := ⟨rfl, rfl, rfl, fun _ member => member⟩
  have moved : s.next (.proceed n answer) = (s.advance n call answer).1 := by
    rw [AgentSystem.next, step_proceed found]
  rw [moved]
  unfold AgentSystem.advance
  cases stage : call.stage with
  | looking =>
    cases looked : (s.apps call.request.app).look call.request.lane with
    | clear => exact still.proceeds rfl (by simp)
    | busy => exact still.proceeds rfl (by simp)
    | preempt c => exact still.proceeds rfl (by simp)
  | signalling c =>
    have raised : Still s { s with raised := c :: s.raised } :=
      ⟨rfl, rfl, rfl, fun _ member => List.mem_cons_of_mem _ member⟩
    exact raised.proceeds rfl (by simp)
  | polling =>
    simp only
    by_cases late : answer.timedOut = true
    · rw [if_pos late]
      exact still.proceeds rfl (by simp)
    · rw [if_neg late]
      by_cases free : (s.apps call.request.app).active.isNone = true
      · rw [if_pos free]
        exact still.proceeds rfl (by simp)
      · rw [if_neg free]
        exact ⟨fun _ _ => rfl, rfl, fun _ member => member, call, found, rfl, .inl ⟨rfl, by simp [stage]⟩⟩
  | claiming => exact claimed_proceeds stage (claim_claims answer)
  | returned result => exact absurd stage (going result)

/-- A start is taken up where the call's place is free. -/
theorem next_start (idle : s.idle n = true) (request : StartRequest) (available : Bool) :
    ∃ call, s.next (.start n request available) = s.setCall n call ∧ call.request = request ∧
      ∀ c, call.stage ≠ .returned (.ok c) := by
  have moved : s.next (.start n request available) =
      s.setCall n { request, stage := if available then .looking else .returned (.error .unavailable) } := by
    unfold AgentSystem.next AgentSystem.step
    simp only [idle, if_true]
  refine ⟨_, moved, rfl, ?_⟩
  cases available <;> simp

/-- A finish ends the active turn that it names, and nothing else. -/
theorem next_finish (sound : Sound s) (unfinished : s.Unfinished c turn) :
    let t := s.next (.finish turn.app turn.id)
    t.turns = s.turns ∧ t.ended = c :: s.ended ∧ t.calls = s.calls ∧ t.raised = s.raised := by
  intro t
  obtain ⟨active, found, channel, records⟩ := sound.records unfinished
  rcases finish_cases turn.id (s.apps turn.app) with ⟨other, found', -, -, cancelled⟩ | ⟨-, missing⟩
  · rw [found] at found'
    cases found'
    refine ⟨rfl, ?_, rfl, rfl⟩
    show ((s.apps turn.app).cancel turn.id).toList ++ s.ended = c :: s.ended
    rw [cancelled, channel]
    rfl
  · unfold AppState.cancel at missing
    simp [found, records.id] at missing

/-- A cancel that names an active turn tells it to stop. -/
theorem next_cancel (sound : Sound s) (unfinished : s.Unfinished c turn) :
    c ∈ (s.next (.cancel turn.app turn.id)).raised := by
  obtain ⟨active, found, channel, records⟩ := sound.records unfinished
  have cancelled : (s.apps turn.app).cancel turn.id = some c := by
    simp [AppState.cancel, found, records.id, channel]
  show c ∈ ((s.apps turn.app).cancel turn.id).toList ++ s.raised
  rw [cancelled]
  exact List.mem_cons_self

/-! ## Whose turn it is -/

/-- What a connection starts is its client's: in its application, for its principal. -/
structure Identified (r : Service) : Prop where
  dispatching : ∀ (n : Nat) conn message, r.connections[n]? = some conn → conn.stage = .dispatching message →
    message.app = conn.identity.appId
  starting : ∀ (n : Nat) conn call, r.connections[n]? = some conn → conn.stage = .starting → r.agents.calls n = some call →
    call.request.app = conn.identity.appId ∧ call.request.principal = conn.identity.principal
  turns : ∀ turn ∈ r.agents.turns, ∃ conn, r.connections[turn.caller]? = some conn ∧ turn.app = conn.identity.appId ∧
    turn.principal = conn.identity.principal

variable {r : Service} {conn later : Connection}

theorem put_get (found : r.connections[n]? = some conn) (later : Connection) {m : Nat} {other : Connection}
    (held : (r.put n later).connections[m]? = some other) :
    m = n ∧ other = later ∨ m ≠ n ∧ r.connections[m]? = some other := by
  unfold Service.put at held
  rw [List.getElem?_set] at held
  by_cases same : n = m
  · subst same
    have within := (List.getElem?_eq_some_iff.mp found).1
    simp only [within, if_true, Option.some.injEq] at held
    exact .inl ⟨rfl, held.symm⟩
  · simp only [same, if_false] at held
    exact .inr ⟨fun equal => same equal.symm, held⟩

theorem put_found (found : r.connections[n]? = some conn) (later : Connection) (m : Nat) {other : Connection}
    (held : r.connections[m]? = some other) :
    (r.put n later).connections[m]? = some (if m = n then later else other) := by
  unfold Service.put
  rw [List.getElem?_set]
  by_cases same : n = m
  · subst same
    simp [(List.getElem?_eq_some_iff.mp found).1]
  · simp [same, Ne.symm same, held]

theorem identified_initial : Identified {} where
  dispatching _ _ _ found := absurd found (by simp)
  starting _ _ _ found := absurd found (by simp)
  turns _ member := absurd member (by simp)

/-- A change of one connection that leaves it its client. -/
theorem Identified.put (identified : Identified r) (found : r.connections[n]? = some conn)
    (identity : later.identity = conn.identity)
    (dispatching : ∀ message, later.stage = .dispatching message → message.app = conn.identity.appId)
    (starting : later.stage = .starting → conn.stage = .starting) : Identified (r.put n later) := by
  constructor
  · intro m other message held stage
    rcases put_get found later held with ⟨rfl, rfl⟩ | ⟨-, before⟩
    · rw [identity]
      exact dispatching message stage
    · exact identified.dispatching m other message before stage
  · intro m other call held stage called
    rcases put_get found later held with ⟨rfl, rfl⟩ | ⟨-, before⟩
    · rw [identity]
      exact identified.starting m conn call found (starting stage) called
    · exact identified.starting m other call before stage called
  · intro turn member
    obtain ⟨other, held, app, principal⟩ := identified.turns turn member
    refine ⟨_, put_found found later turn.caller held, ?_⟩
    by_cases same : turn.caller = n
    · rw [if_pos same, identity]
      rw [same, found] at held
      cases held
      exact ⟨app, principal⟩
    · rw [if_neg same]
      exact ⟨app, principal⟩

/-- Where turns and calls are left alone. -/
theorem Identified.agents (identified : Identified r) (turns : t.turns = r.agents.turns) (calls : t.calls = r.agents.calls)
    (tasks : List TurnTask) : Identified { r with agents := t, tasks } := by
  refine ⟨identified.dispatching, ?_, ?_⟩
  · intro m other call held stage called
    have called : t.calls m = some call := called
    rw [calls] at called
    exact identified.starting m other call held stage called
  · intro turn member
    have member : turn ∈ t.turns := member
    rw [turns] at member
    exact identified.turns turn member

/-- A step of the connection's start. -/
theorem Identified.called (identified : Identified r) (found : r.connections[n]? = some conn)
    (identity : later.identity = conn.identity) (stage : later.stage = .starting)
    (others : ∀ m, m ≠ n → t.calls m = r.agents.calls m) {call : StartCall} (held : t.calls n = some call)
    (app : call.request.app = conn.identity.appId) (principal : call.request.principal = conn.identity.principal)
    (turns : t.turns = r.agents.turns ∨ ∃ turn, t.turns = r.agents.turns ++ [turn] ∧ turn.caller = n ∧
      turn.app = call.request.app ∧ turn.principal = call.request.principal) :
    Identified ({ r with agents := t }.put n later) := by
  have found' : ({ r with agents := t } : Service).connections[n]? = some conn := found
  constructor
  · intro m other message held' dispatching
    rcases put_get found' later held' with ⟨rfl, rfl⟩ | ⟨-, before⟩
    · rw [stage] at dispatching
      cases dispatching
    · exact identified.dispatching m other message before dispatching
  · intro m other call' held' starting called
    rcases put_get found' later held' with ⟨rfl, rfl⟩ | ⟨different, before⟩
    · have same : call = call' := Option.some.inj (held.symm.trans called)
      subst same
      rw [identity]
      exact ⟨app, principal⟩
    · have called : t.calls m = some call' := called
      rw [others m different] at called
      exact identified.starting m other call' before starting called
  · intro turn member
    have member : turn ∈ t.turns := member
    have known : ∃ other, r.connections[turn.caller]? = some other ∧ turn.app = other.identity.appId ∧
        turn.principal = other.identity.principal := by
      rcases turns with same | ⟨new, more, caller, app', principal'⟩
      · rw [same] at member
        exact identified.turns turn member
      · rw [more] at member
        rcases List.mem_append.mp member with before | last
        · exact identified.turns turn before
        · cases List.mem_singleton.mp last
          rw [caller]
          exact ⟨conn, found, app'.trans app, principal'.trans principal⟩
    obtain ⟨other, held', app', principal'⟩ := known
    refine ⟨_, put_found found' later turn.caller held', ?_⟩
    by_cases same : turn.caller = n
    · rw [if_pos same, identity]
      rw [same, found] at held'
      cases held'
      exact ⟨app', principal'⟩
    · rw [if_neg same]
      exact ⟨app', principal'⟩

/-! ## What holds of connections and tasks -/

/-- The unfinished turn of the connection, with the application and the id. -/
def AgentSystem.Own (s : AgentSystem) (c : Channel) (n : Nat) (app : AppId) (turnId : String) : Prop :=
  ∃ turn, s.Unfinished c turn ∧ turn.caller = n ∧ turn.app = app ∧ turn.id = turnId

/-- No task carries the turn yet. -/
def Untasked (tasks : List TurnTask) (c : Channel) : Prop := ∀ task ∈ tasks, task.channel ≠ c

/-- How a connection holds on to its unfinished turn: the start has just returned it, the
    connection has noted it, or it is about to cancel it, or has. -/
inductive Holds (s : AgentSystem) (conn : Connection) (c : Channel) (turn : Turn) : Prop where
  | returned (call : StartCall) (stage : conn.stage = .starting) (found : s.calls turn.caller = some call)
      (ok : call.stage = .returned (.ok c))
  | noted (live : conn.stage ≠ .ended) (open' : ∀ app turnId, conn.stage ≠ .closing app turnId)
      (owned : conn.owned = some (turn.app, turn.id))
  | closing (stage : conn.stage = .closing turn.app turn.id)
  | told (stage : conn.stage = .ended) (raised : c ∈ s.raised)

/-- What is so of the connection with the number. -/
structure Sane (s : AgentSystem) (tasks : List TurnTask) (n : Nat) (conn : Connection) : Prop where
  idle : conn.stage ≠ .starting → s.idle n = true
  begun : ∀ call c, conn.stage = .starting → s.calls n = some call → call.stage = .returned (.ok c) →
    s.Own c n call.request.app call.request.turnId ∧ Untasked tasks c
  accepted : ∀ c app turnId, conn.stage = .accepted c app turnId → s.Own c n app turnId ∧ Untasked tasks c
  owned : ∀ app turnId, conn.owned = some (app, turnId) → (∃ c, s.Own c n app turnId) ∨
    ∃ task ∈ tasks, task.clearing = true ∧ task.connection = n ∧ task.app = app ∧ task.turnId = turnId
  closing : ∀ app turnId, conn.stage = .closing app turnId →
    ∀ c turn, s.Unfinished c turn → turn.app = app → turn.id = turnId → turn.caller = n
  holds : ∀ c turn, s.Unfinished c turn → turn.caller = n → Holds s conn c turn

/-- The task is that of a turn, which it has finished if it is clearing. -/
structure Carries (s : AgentSystem) (task : TurnTask) (turn : Turn) : Prop where
  listed : s.turns[task.channel]? = some turn
  caller : turn.caller = task.connection
  app : turn.app = task.app
  id : turn.id = task.turnId
  clearing : task.clearing = true ↔ task.channel ∈ s.ended

structure Kept (s : Service) : Prop where
  sound : Sound s.agents
  unused : ∀ n, s.connections.length ≤ n → s.agents.calls n = none
  caller : ∀ c turn, s.agents.Unfinished c turn → turn.caller < s.connections.length
  tasks : ∀ task ∈ s.tasks, ∃ turn, Carries s.agents task turn
  clearing : ∀ task ∈ s.tasks, task.clearing = true → ∀ c turn, s.agents.Unfinished c turn → turn.app = task.app →
    turn.id ≠ task.turnId
  sane : ∀ n conn, s.connections[n]? = some conn → Sane s.agents s.tasks n conn

theorem kept_initial : Kept {} where
  sound := sound_initial
  unused _ _ := rfl
  caller _ _ unfinished := absurd unfinished.1 (by simp)
  tasks _ member := absurd member (by simp)
  clearing _ member := absurd member (by simp)
  sane _ _ found := absurd found (by simp)

variable {tasks : List TurnTask} {turnId : String}

/-- A change of one connection and of the tasks, after which each connection is sane. -/
theorem Kept.retask (kept : Kept r) (found : r.connections[n]? = some conn)
    (carries : ∀ task ∈ tasks, ∃ turn, Carries r.agents task turn)
    (clearing : ∀ task ∈ tasks, task.clearing = true → ∀ c turn, r.agents.Unfinished c turn → turn.app = task.app →
      turn.id ≠ task.turnId) (others : ∀ m other, m ≠ n → r.connections[m]? = some other → Sane r.agents tasks m other)
    (sane : Sane r.agents tasks n later) : Kept ({ r with tasks }.put n later) := by
  have length : ({ r with tasks }.put n later).connections.length = r.connections.length := List.length_set
  refine ⟨kept.sound, ?_, ?_, carries, clearing, ?_⟩
  · intro m beyond
    rw [length] at beyond
    exact kept.unused m beyond
  · intro c turn unfinished
    rw [length]
    exact kept.caller c turn unfinished
  · intro m other held
    have found' : ({ r with tasks } : Service).connections[n]? = some conn := found
    rcases put_get found' later held with ⟨rfl, rfl⟩ | ⟨different, before⟩
    · exact sane
    · exact others m other different before

/-- A change of one connection, which is sane again. -/
theorem Kept.put (kept : Kept r) (found : r.connections[n]? = some conn) (sane : Sane r.agents r.tasks n later) :
    Kept (r.put n later) :=
  kept.retask found kept.tasks kept.clearing (fun m other _ held => kept.sane m other held) sane

/-- A change of the connection's stage and pin alone, where neither stage is of the few
    that say something of a turn. -/
theorem Sane.restage (sane : Sane s tasks n conn) (owned : later.owned = conn.owned)
    (idle : s.idle n = true) (plain : later.stage ≠ .starting ∧ later.stage ≠ .ended ∧
      (∀ app turnId, later.stage ≠ .closing app turnId) ∧ ∀ c app turnId, later.stage ≠ .accepted c app turnId)
    (noted : ∀ c turn, s.Unfinished c turn → turn.caller = n → conn.owned = some (turn.app, turn.id)) :
    Sane s tasks n later := by
  obtain ⟨unstarted, live, open', unaccepted⟩ := plain
  constructor
  · exact fun _ => idle
  · exact fun _ _ stage => absurd stage unstarted
  · exact fun c app turnId stage => absurd stage (unaccepted c app turnId)
  · intro app turnId held
    exact sane.owned app turnId (owned ▸ held)
  · exact fun app turnId stage => absurd stage (open' app turnId)
  · intro c turn unfinished own
    exact .noted live open' (owned ▸ noted c turn unfinished own)

/-- What a connection at an ordinary stage has noted. -/
theorem Sane.noted (sane : Sane s tasks n conn)
    (stage : conn.stage ≠ .ended ∧ ∀ app turnId, conn.stage ≠ .closing app turnId)
    (returned : conn.stage = .starting → ∀ call c, s.calls n = some call → call.stage ≠ .returned (.ok c)) :
    ∀ c turn, s.Unfinished c turn → turn.caller = n → conn.owned = some (turn.app, turn.id) := by
  intro c turn unfinished own
  cases sane.holds c turn unfinished own with
  | returned call starting found ok => exact absurd ok (returned starting call c (own ▸ found))
  | noted live open' owned => exact owned
  | closing closes => exact absurd closes (stage.2 _ _)
  | told ended raised => exact absurd ended stage.1

/-- What is so of a connection stays so where its turns go on and its call is left alone,
    if what begins beside is not its own and does not have the id that it is to cancel. -/
theorem Sane.step (sane : Sane s tasks n conn) (goes : ∀ c turn, s.Unfinished c turn → t.Unfinished c turn)
    (begins : ∀ c turn, t.Unfinished c turn → s.Unfinished c turn ∨
      turn.caller ≠ n ∧ conn.stage ≠ .closing turn.app turn.id)
    (calls : t.calls n = s.calls n) (raised : ∀ c ∈ s.raised, c ∈ t.raised) : Sane t tasks n conn := by
  have own : ∀ c app turnId, s.Own c n app turnId → t.Own c n app turnId := by
    rintro c app turnId ⟨turn, unfinished, rest⟩
    exact ⟨turn, goes c turn unfinished, rest⟩
  constructor
  · intro stage
    unfold AgentSystem.idle
    rw [calls]
    exact sane.idle stage
  · intro call c stage found ok
    rw [calls] at found
    obtain ⟨owns, untasked⟩ := sane.begun call c stage found ok
    exact ⟨own _ _ _ owns, untasked⟩
  · intro c app turnId stage
    obtain ⟨owns, untasked⟩ := sane.accepted c app turnId stage
    exact ⟨own _ _ _ owns, untasked⟩
  · intro app turnId owned
    exact (sane.owned app turnId owned).imp (fun ⟨c, owns⟩ => ⟨c, own _ _ _ owns⟩) id
  · rintro app turnId stage c turn unfinished rfl rfl
    rcases begins c turn unfinished with before | ⟨-, other⟩
    · exact sane.closing _ _ stage c turn before rfl rfl
    · exact absurd stage other
  · intro c turn unfinished caller
    rcases begins c turn unfinished with before | ⟨other, -⟩
    · cases sane.holds c turn before caller with
      | returned call starting found ok => exact .returned call starting (by rw [caller, calls, ← caller]; exact found) ok
      | noted live open' owned => exact .noted live open' owned
      | closing closes => exact .closing closes
      | told ended told => exact .told ended (raised c told)
    · exact absurd caller other

theorem Sane.still (sane : Sane s tasks n conn) (still : Still s t) : Sane t tasks n conn :=
  sane.step (fun _ _ unfinished => still.unfinished.mpr unfinished)
    (fun _ _ unfinished => .inl (still.unfinished.mp unfinished)) (congrFun still.calls n) still.raised

theorem Kept.still (kept : Kept r) (sound : Sound t) (still : Still r.agents t) : Kept { r with agents := t } := by
  refine ⟨sound, ?_, ?_, ?_, ?_, ?_⟩
  · intro n beyond
    show t.calls n = none
    rw [still.calls]
    exact kept.unused n beyond
  · intro c turn unfinished
    exact kept.caller c turn (still.unfinished.mp unfinished)
  · intro task member
    obtain ⟨turn, carries⟩ := kept.tasks task member
    refine ⟨turn, ?_, carries.caller, carries.app, carries.id, ?_⟩
    · rw [still.turns]
      exact carries.listed
    · rw [still.ended]
      exact carries.clearing
  · intro task member clears c turn unfinished
    exact kept.clearing task member clears c turn (still.unfinished.mp unfinished)
  · intro n conn found
    exact (kept.sane n conn found).still still

/-- A note leads to the connection's own turn. -/
theorem Kept.owned (kept : Kept r) (found : r.connections[n]? = some conn) {app : AppId}
    (owned : conn.owned = some (app, turnId)) (unfinished : r.agents.Unfinished c turn) (same : turn.app = app)
    (id : turn.id = turnId) : turn.caller = n := by
  rcases (kept.sane n conn found).owned app turnId owned with ⟨d, other, beside, caller, app', -⟩ |
    ⟨task, member, clears, -, app', id'⟩
  · have equal := kept.sound.single unfinished beside (same.trans app'.symm)
    subst equal
    have listed := unfinished.1
    rw [beside.1] at listed
    cases listed
    exact caller
  · exact absurd (id.trans id'.symm) (kept.clearing task member clears c turn unfinished (same.trans app'.symm))

/-! ## The steps of a connection -/

theorem Kept.connect (kept : Kept r) (identity : ClientIdentity) :
    Kept { r with connections := r.connections ++ [{ identity }] } := by
  refine ⟨kept.sound, ?_, ?_, kept.tasks, kept.clearing, ?_⟩
  · intro n beyond
    simp only [List.length_append, List.length_singleton] at beyond
    exact kept.unused n (Nat.le_of_succ_le beyond)
  · intro c turn unfinished
    simp only [List.length_append, List.length_singleton]
    exact Nat.lt_succ_of_lt (kept.caller c turn unfinished)
  · intro n conn found
    by_cases older : n < r.connections.length
    · rw [List.getElem?_append_left older] at found
      exact kept.sane n conn found
    · have within := (List.getElem?_eq_some_iff.mp found).1
      simp only [List.length_append, List.length_singleton] at within
      have last : n = r.connections.length := Nat.le_antisymm (Nat.le_of_lt_succ within) (Nat.not_lt.mp older)
      subst last
      rw [List.getElem?_concat_length] at found
      cases found
      constructor
      · intro _
        simp [AgentSystem.idle, kept.unused _ (Nat.le_refl _)]
      · simp
      · simp
      · simp
      · simp
      · intro c turn unfinished caller
        have below := kept.caller c turn unfinished
        rw [caller] at below
        exact absurd below (Nat.lt_irrefl _)

/-- An ordinary stage may follow an ordinary one. -/
theorem Kept.restage (kept : Kept r) (found : r.connections[n]? = some conn)
    (owned : later.owned = conn.owned) (idle : r.agents.idle n = true)
    (before : conn.stage ≠ .ended ∧ ∀ app turnId, conn.stage ≠ .closing app turnId)
    (returned : conn.stage = .starting → ∀ call c, r.agents.calls n = some call → call.stage ≠ .returned (.ok c))
    (plain : later.stage ≠ .starting ∧ later.stage ≠ .ended ∧ (∀ app turnId, later.stage ≠ .closing app turnId) ∧
      ∀ c app turnId, later.stage ≠ .accepted c app turnId) : Kept (r.put n later) :=
  kept.put found ((kept.sane n conn found).restage owned idle plain ((kept.sane n conn found).noted before returned))

/-- A step of the connection's start. The turn that it may begin must not have an id that
    is still being cleared away. -/
theorem Kept.called (kept : Kept r) (found : r.connections[n]? = some conn)
    (owned : later.owned = conn.owned) (starting : later.stage = .starting)
    (noted : ∀ c turn, r.agents.Unfinished c turn → turn.caller = n → conn.owned = some (turn.app, turn.id))
    (sound : Sound t) (others : ∀ m, m ≠ n → t.calls m = r.agents.calls m) (ended : t.ended = r.agents.ended)
    (raised : ∀ c ∈ r.agents.raised, c ∈ t.raised) {call : StartCall} (held : t.calls n = some call)
    (goes : t.turns = r.agents.turns ∧ (∀ c, call.stage ≠ .returned (.ok c)) ∨
      call.stage = .returned (.ok r.agents.turns.length) ∧ ∃ turn, t.turns = r.agents.turns ++ [turn] ∧ turn.caller = n ∧
        turn.app = call.request.app ∧ turn.id = call.request.turnId ∧
        (∀ task ∈ r.tasks, task.clearing = true → turn.app = task.app → turn.id ≠ task.turnId) ∧
        ∀ conn ∈ r.connections, conn.stage ≠ .closing turn.app turn.id) :
    Kept ({ r with agents := t }.put n later) := by
  have length : r.agents.turns <+: t.turns := by
    rcases goes with ⟨turns, -⟩ | ⟨-, turn, turns, -⟩
    · exact turns ▸ List.prefix_refl _
    · exact ⟨[turn], turns.symm⟩
  have older : ∀ (c : Channel) (turn : Turn), r.agents.turns[c]? = some turn → t.turns[c]? = some turn := by
    intro c turn listed
    obtain ⟨more, joined⟩ := length
    rw [← joined, List.getElem?_append_left (List.getElem?_eq_some_iff.mp listed).1]
    exact listed
  have goesOn : ∀ c turn, r.agents.Unfinished c turn → t.Unfinished c turn :=
    fun c turn unfinished => ⟨older c turn unfinished.1, ended ▸ unfinished.2⟩
  -- an unfinished turn is an older one, or the one that this step begins
  have begins : ∀ c turn, t.Unfinished c turn → r.agents.Unfinished c turn ∨
      c = r.agents.turns.length ∧ call.stage = .returned (.ok c) ∧ turn.caller = n ∧ turn.app = call.request.app ∧
        turn.id = call.request.turnId ∧
        (∀ task ∈ r.tasks, task.clearing = true → turn.app = task.app → turn.id ≠ task.turnId) ∧
        ∀ conn ∈ r.connections, conn.stage ≠ .closing turn.app turn.id := by
    rintro c turn ⟨listed, going⟩
    rw [ended] at going
    rcases goes with ⟨turns, -⟩ | ⟨stage, new, turns, rest⟩
    · rw [turns] at listed
      exact .inl ⟨listed, going⟩
    · rw [turns] at listed
      by_cases below : c < r.agents.turns.length
      · rw [List.getElem?_append_left below] at listed
        exact .inl ⟨listed, going⟩
      · have within := (List.getElem?_eq_some_iff.mp listed).1
        rw [List.length_append, List.length_singleton] at within
        have last : c = r.agents.turns.length := Nat.le_antisymm (Nat.le_of_lt_succ within) (Nat.not_lt.mp below)
        subst last
        rw [List.getElem?_concat_length] at listed
        cases listed
        exact .inr ⟨rfl, stage, rest⟩
  have here := (List.getElem?_eq_some_iff.mp found).1
  have size : ({ r with agents := t }.put n later).connections.length = r.connections.length := List.length_set
  refine ⟨sound, ?_, ?_, ?_, ?_, ?_⟩
  · intro m beyond
    rw [size] at beyond
    have different : m ≠ n := by
      rintro rfl
      exact absurd here (Nat.not_lt.mpr beyond)
    exact (others m different).trans (kept.unused m beyond)
  · intro c turn unfinished
    rw [size]
    rcases begins c turn unfinished with before | ⟨-, -, caller, -⟩
    · exact kept.caller c turn before
    · exact caller ▸ here
  · intro task member
    obtain ⟨turn, carries⟩ := kept.tasks task member
    exact ⟨turn, older _ _ carries.listed, carries.caller, carries.app, carries.id, by
      show _ ↔ _ ∈ t.ended
      rw [ended]
      exact carries.clearing⟩
  · intro task member clears c turn unfinished
    rcases begins c turn unfinished with before | ⟨-, -, -, -, -, apart, -⟩
    · exact kept.clearing task member clears c turn before
    · exact apart task member clears
  · intro m other held'
    have found' : ({ r with agents := t } : Service).connections[n]? = some conn := found
    rcases put_get found' later held' with ⟨rfl, rfl⟩ | ⟨different, before⟩
    · constructor
      · exact fun unstarted => absurd starting unstarted
      · intro call' c _ held'' ok
        have same : call = call' := Option.some.inj (held.symm.trans held'')
        subst same
        rcases goes with ⟨-, never⟩ | ⟨stage, turn, turns, caller, app, id, -⟩
        · exact absurd ok (never c)
        · have channel : c = r.agents.turns.length := by
            rw [stage] at ok
            cases ok
            rfl
          subst channel
          have fresh : r.agents.turns.length ∉ r.agents.ended :=
            fun member => Nat.lt_irrefl _ (kept.sound.ended _ member)
          have listed : t.turns[r.agents.turns.length]? = some turn := by rw [turns, List.getElem?_concat_length]
          refine ⟨⟨turn, ⟨listed, ended ▸ fresh⟩, caller, app, id⟩, ?_⟩
          intro task member same
          obtain ⟨carried, carries⟩ := kept.tasks task member
          have below := (List.getElem?_eq_some_iff.mp carries.listed).1
          rw [same] at below
          exact Nat.lt_irrefl _ below
      · intro c app turnId stage
        rw [starting] at stage
        cases stage
      · intro app turnId held'
        rw [owned] at held'
        refine ((kept.sane m conn found).owned app turnId held').imp ?_ id
        rintro ⟨c, turn, unfinished, rest⟩
        exact ⟨c, turn, goesOn c turn unfinished, rest⟩
      · intro app turnId stage
        rw [starting] at stage
        cases stage
      · intro c turn unfinished caller
        rcases begins c turn unfinished with before | ⟨-, ok, -⟩
        · exact .noted (by simp [starting]) (by simp [starting]) (owned ▸ noted c turn before caller)
        · exact .returned call starting (caller ▸ held) ok
    · refine (kept.sane m other before).step goesOn ?_ (others m different) raised
      intro c turn unfinished
      refine (begins c turn unfinished).imp id ?_
      rintro ⟨-, -, caller, -, -, -, apart⟩
      exact ⟨fun same => different (same.symm.trans caller), apart other (List.mem_of_getElem? before)⟩


theorem clearOwned_cases (task : TurnTask) (r : Service) :
    (r.clearOwned task = r ∧
      ∀ conn, r.connections[task.connection]? = some conn → conn.owned ≠ some (task.app, task.turnId)) ∨
    ∃ conn, r.connections[task.connection]? = some conn ∧ conn.owned = some (task.app, task.turnId) ∧
      r.clearOwned task = r.put task.connection { conn with owned := none } := by
  unfold Service.clearOwned
  cases found : r.connections[task.connection]? with
  | none => exact .inl ⟨rfl, by simp⟩
  | some conn =>
    by_cases owned : conn.owned = some (task.app, task.turnId)
    · exact .inr ⟨conn, rfl, owned, by simp [owned]⟩
    · exact .inl ⟨by simp [owned], by simpa using owned⟩

theorem identified_goes (identified : Identified r)
    (idle : ∀ (n : Nat) conn, r.connections[n]? = some conn → conn.stage ≠ .starting → r.agents.idle n = true)
    {event : Event} {later : Service} (goes : Goes r event later) : Identified later := by
  have still : ∀ (action : Action) (tasks : List TurnTask), Still r.agents (r.agents.next action) →
      Identified { r with agents := r.agents.next action, tasks } :=
    fun action tasks still => identified.agents still.turns still.calls tasks
  cases goes with
  | stays => exact identified
  | connects identity =>
    constructor
    · intro n conn message found stage
      by_cases older : n < r.connections.length
      · rw [List.getElem?_append_left older] at found
        exact identified.dispatching n conn message found stage
      · rw [List.getElem?_append_right (Nat.not_lt.mp older)] at found
        obtain rfl := List.mem_singleton.mp (List.mem_of_getElem? found)
        cases stage
    · intro n conn call found stage called
      by_cases older : n < r.connections.length
      · rw [List.getElem?_append_left older] at found
        exact identified.starting n conn call found stage called
      · rw [List.getElem?_append_right (Nat.not_lt.mp older)] at found
        obtain rfl := List.mem_singleton.mp (List.mem_of_getElem? found)
        cases stage
    · intro turn member
      obtain ⟨conn, found, rest⟩ := identified.turns turn member
      refine ⟨conn, ?_, rest⟩
      rw [List.getElem?_append_left (List.getElem?_eq_some_iff.mp found).1]
      exact found
  | reads n conn message found stage => exact identified.put found rfl (by simp) (by simp)
  | hangsUp n conn found stage => exact identified.put found rfl (by simp) (by simp)
  | breaks n conn found stage => exact identified.put found rfl (by simp) (by simp)
  | authorizes n conn message answer found stage =>
    have after := still _ r.tasks (next_authorize_still conn.identity message.app message.token)
    by_cases accepts : r.agents.authorizes conn.identity message.app message.token = true
    · rw [if_pos accepts]
      have own : conn.identity.appId = message.app := by
        unfold AgentSystem.authorizes at accepts
        exact of_decide_eq_true (Bool.and_eq_true_iff.mp accepts).1
      unfold Service.represent
      by_cases pinned : conn.pinned.any (· ≠ message.app) = true
      · rw [if_pos pinned]
        exact after.put found rfl (by simp) (by simp)
      · rw [if_neg pinned]
        refine after.put found rfl ?_ (by simp)
        intro other dispatching
        cases dispatching
        exact own.symm
    · rw [if_neg accepts]
      exact after.put found rfl (by simp) (by simp)
  | acts n conn message action answer found stage calm =>
    exact (still _ r.tasks (next_still calm)).put found rfl (by simp) (by simp)
  | declines n conn answer found stage => exact identified.put found rfl (by simp) (by simp)
  | starts n conn message request answer found stage app principal asks =>
    obtain ⟨call, moved, asked, -⟩ := next_start (idle n conn found (by simp [stage])) request answer.available
    rw [moved]
    have named := identified.dispatching n conn message found stage
    exact identified.called found rfl rfl (fun m different => Function.update_of_ne different ..) (Function.update_self ..)
      (by rw [asked, app, named]) (by rw [asked, principal]) (.inl rfl)
  | calls n conn call answer found stage held going =>
    have proceeds := next_proceed held going answer
    obtain ⟨later, held', request, goes⟩ := proceeds.later
    obtain ⟨app, principal⟩ := identified.starting n conn call found stage held
    refine identified.called found rfl stage proceeds.others held' (by rw [request, app]) (by rw [request, principal]) ?_
    rcases goes with ⟨turns, -⟩ | ⟨-, -, -, turn, turns, caller, app', -, principal'⟩
    · exact .inl turns
    · exact .inr ⟨turn, turns, caller, by rw [app', request], by rw [principal', request]⟩
  | returns n conn call c answer found stage held ok => exact identified.put found rfl (by simp) (by simp)
  | spawns n conn c app turnId answer found stage =>
    have after : Identified { r with tasks := { channel := c, connection := n, app, turnId } :: r.tasks } :=
      identified.agents rfl rfl _
    exact after.put found rfl (by simp) (by simp)
  | leaves n conn answer found stage owned => exact identified.put found rfl (by simp) (by simp)
  | takes n conn app turnId answer found stage owned => exact identified.put found rfl (by simp) (by simp)
  | closes n conn app turnId answer found stage =>
    have calm : (Action.cancel app turnId).Calm := trivial
    exact (still _ r.tasks (next_still calm)).put found rfl (by simp) (by simp)
  | ends c task member channel carrying =>
    have turns : (r.agents.next (.finish task.app task.turnId)).turns = r.agents.turns := rfl
    have calls : (r.agents.next (.finish task.app task.turnId)).calls = r.agents.calls := rfl
    exact identified.agents turns calls _
  | clears c task member channel clearing =>
    rcases clearOwned_cases task r with ⟨same, -⟩ | ⟨conn, found, -, cleared⟩
    · rw [same]
      exact identified.agents rfl rfl _
    · rw [cleared]
      have after : Identified (r.put task.connection { conn with owned := none }) :=
        identified.put found rfl (fun message stage => identified.dispatching _ conn message found stage) id
      exact after.agents rfl rfl _

/-! ## Runs in which no id is taken over -/

/-- The step does not lose sight of a turn: no read error while the connection's own turn
    is active and has not been told to stop, and no turn begun under an id that a finished
    turn's task has yet to clear or an ended connection has yet to cancel. -/
def Service.Orderly (s : Service) : Event → Prop
  | .broken n => ∀ c < s.agents.turns.length, ∀ turn ∈ s.agents.turns[c]?, turn.caller = n → c ∉ s.agents.ended →
      c ∈ s.agents.raised
  | .proceed n _ => ∀ call ∈ s.agents.calls n, call.stage = .claiming → (s.agents.apps call.request.app).active = none →
      (∀ task ∈ s.tasks, task.clearing = true → task.app = call.request.app → task.turnId ≠ call.request.turnId) ∧
      ∀ conn ∈ s.connections, conn.stage ≠ .closing call.request.app call.request.turnId
  | _ => True

instance (s : Service) : (event : Event) → Decidable (s.Orderly event)
  | .broken n => inferInstanceAs (Decidable (∀ c < s.agents.turns.length, ∀ turn ∈ s.agents.turns[c]?, turn.caller = n →
      c ∉ s.agents.ended → c ∈ s.agents.raised))
  | .proceed n _ => inferInstanceAs (Decidable (∀ call ∈ s.agents.calls n, call.stage = .claiming →
      (s.agents.apps call.request.app).active = none →
      (∀ task ∈ s.tasks, task.clearing = true → task.app = call.request.app → task.turnId ≠ call.request.turnId) ∧
      ∀ conn ∈ s.connections, conn.stage ≠ .closing call.request.app call.request.turnId))
  | .connect _ | .message .. | .hangUp _ | .ends _ | .clears _ => isTrue trivial

/-- A connection starts turns in its own application, where one is active at a time. -/
theorem Kept.alone (kept : Kept r) (identified : Identified r) {d : Channel} {other : Turn}
    (unfinished : r.agents.Unfinished c turn) (beside : r.agents.Unfinished d other) (same : turn.caller = other.caller) :
    c = d ∧ turn = other := by
  obtain ⟨conn, found, app, -⟩ := identified.turns turn (List.mem_of_getElem? unfinished.1)
  obtain ⟨conn', found', app', -⟩ := identified.turns other (List.mem_of_getElem? beside.1)
  rw [same, found'] at found
  cases found
  have channel := kept.sound.single unfinished beside (app.trans app'.symm)
  subst channel
  have listed := unfinished.1
  rw [beside.1] at listed
  exact ⟨rfl, (Option.some.inj listed).symm⟩

theorem Kept.call (kept : Kept r) (found : r.connections[n]? = some conn) {call : StartCall}
    (stage : conn.stage = .starting) (held : r.agents.calls n = some call) (going : ∀ result, call.stage ≠ .returned result)
    {answer : Answer} (orderly : r.Orderly (.proceed n answer)) :
    Kept ({ r with agents := r.agents.next (.proceed n answer) }.put n conn) := by
  have proceeds := next_proceed held going answer
  obtain ⟨later, held', request, goes⟩ := proceeds.later
  have open' : conn.stage = .starting → ∀ other c, r.agents.calls n = some other → other.stage ≠ .returned (.ok c) := by
    intro _ other c held''
    rw [held] at held''
    cases held''
    exact going _
  have noted := (kept.sane n conn found).noted (by simp [stage]) open'
  refine kept.called found rfl stage noted (sound_next kept.sound _) proceeds.others proceeds.ended proceeds.raised held' ?_
  rcases goes with quiet | ⟨claiming, free, ok, turn, turns, caller, app, id, -⟩
  · exact .inl quiet
  · obtain ⟨cleared, closed⟩ := orderly call (Option.mem_def.mpr held) claiming free
    refine .inr ⟨ok, turn, turns, caller, by rw [app, request], by rw [id, request], ?_, ?_⟩
    · intro task member clears app' id'
      exact cleared task member clears (app'.symm.trans app) (id'.symm.trans id)
    · intro other member
      rw [app, id]
      exact closed other member

/-- The start has returned, and the connection notes its turn. -/
theorem Kept.return (kept : Kept r) (identified : Identified r) (found : r.connections[n]? = some conn) {call : StartCall}
    (stage : conn.stage = .starting) (held : r.agents.calls n = some call) (ok : call.stage = .returned (.ok c)) :
    Kept (r.put n { conn with
      owned := some (call.request.app, call.request.turnId)
      stage := .accepted c call.request.app call.request.turnId }) := by
  obtain ⟨own, untasked⟩ := (kept.sane n conn found).begun call c stage held ok
  refine kept.put found ⟨?_, ?_, ?_, ?_, ?_, ?_⟩
  · intro _
    simp [AgentSystem.idle, held, ok]
  · simp
  · intro d app turnId accepted
    cases accepted
    exact ⟨own, untasked⟩
  · intro app turnId owned
    cases owned
    exact .inl ⟨c, own⟩
  · simp
  · intro d turn unfinished caller
    obtain ⟨mine, unfinished', caller', app, id⟩ := own
    obtain ⟨-, rfl⟩ := kept.alone identified unfinished unfinished' (caller.trans caller'.symm)
    exact .noted (by simp) (by simp) (by simp [app, id])

/-- The task of the turn is spawned. -/
theorem Kept.spawn (kept : Kept r) (found : r.connections[n]? = some conn) {app : AppId}
    (stage : conn.stage = .accepted c app turnId) :
    Kept ({ r with tasks := { channel := c, connection := n, app, turnId } :: r.tasks }.put n
      { conn with stage := .reading }) := by
  have sane := kept.sane n conn found
  obtain ⟨⟨turn, unfinished, caller, rfl, rfl⟩, untasked⟩ := sane.accepted c app turnId stage
  have noted := sane.noted (by simp [stage]) (by simp [stage])
  -- a turn of another connection is another turn
  have others : ∀ m other, m ≠ n → Sane r.agents r.tasks m other →
      Sane r.agents ({ channel := c, connection := n, app := turn.app, turnId := turn.id } :: r.tasks) m other := by
    intro m other different sane
    have apart : ∀ d app turnId, r.agents.Own d m app turnId → c ≠ d := by
      rintro d app turnId ⟨turn', unfinished', caller', -⟩ rfl
      have listed := unfinished.1
      rw [unfinished'.1] at listed
      cases listed
      exact different (caller'.symm.trans caller)
    refine ⟨sane.idle, ?_, ?_, ?_, sane.closing, sane.holds⟩
    · intro call d stage held ok
      obtain ⟨own, untasked⟩ := sane.begun call d stage held ok
      refine ⟨own, ?_⟩
      intro task member
      rcases List.mem_cons.mp member with rfl | earlier
      · exact apart d _ _ own
      · exact untasked task earlier
    · intro d app turnId stage
      obtain ⟨own, untasked⟩ := sane.accepted d app turnId stage
      refine ⟨own, ?_⟩
      intro task member
      rcases List.mem_cons.mp member with rfl | earlier
      · exact apart d _ _ own
      · exact untasked task earlier
    · intro app turnId owned
      refine (sane.owned app turnId owned).imp id ?_
      rintro ⟨task, member, rest⟩
      exact ⟨task, List.mem_cons_of_mem _ member, rest⟩
  have task : Carries r.agents { channel := c, connection := n, app := turn.app, turnId := turn.id } turn :=
    ⟨unfinished.1, caller, rfl, rfl, ⟨fun clears => absurd clears (by simp), fun ended => absurd ended unfinished.2⟩⟩
  refine kept.retask found ?_ ?_ (fun m other different held => others m other different (kept.sane m other held)) ?_
  · intro other member
    rcases List.mem_cons.mp member with rfl | earlier
    · exact ⟨turn, task⟩
    · exact kept.tasks other earlier
  · intro other member clears
    rcases List.mem_cons.mp member with rfl | earlier
    · cases clears
    · exact kept.clearing other earlier clears
  · refine ⟨?_, by simp, by simp, ?_, by simp, ?_⟩
    · exact fun _ => sane.idle (by simp [stage])
    · intro app turnId owned
      refine (sane.owned app turnId owned).imp id ?_
      rintro ⟨task, member, rest⟩
      exact ⟨task, List.mem_cons_of_mem _ member, rest⟩
    · intro d other unfinished' caller'
      exact .noted (by simp) (by simp) (noted d other unfinished' caller')

/-- At the end of its stream the connection takes what it has noted. -/
theorem Kept.take (kept : Kept r) (found : r.connections[n]? = some conn) {app : AppId} (stage : conn.stage = .taking)
    (owned : conn.owned = some (app, turnId)) :
    Kept (r.put n { conn with owned := none, stage := .closing app turnId }) := by
  have sane := kept.sane n conn found
  refine kept.put found ⟨fun _ => sane.idle (by simp [stage]), by simp, by simp, by simp, ?_, ?_⟩
  · intro app' turnId' closing c turn unfinished same id
    cases closing
    exact kept.owned found owned unfinished same id
  · intro c turn unfinished caller
    have noted := sane.noted (by simp [stage]) (by simp [stage]) c turn unfinished caller
    rw [owned] at noted
    cases noted
    exact .closing rfl

theorem Kept.leave (kept : Kept r) (found : r.connections[n]? = some conn) (stage : conn.stage = .taking)
    (owned : conn.owned = none) : Kept (r.put n { conn with owned := none, stage := .ended }) := by
  have sane := kept.sane n conn found
  refine kept.put found ⟨fun _ => sane.idle (by simp [stage]), by simp, by simp, by simp, by simp, ?_⟩
  intro c turn unfinished caller
  have noted := sane.noted (by simp [stage]) (by simp [stage]) c turn unfinished caller
  rw [owned] at noted
  cases noted

/-- It cancels the turn that it took. -/
theorem Kept.close (kept : Kept r) (found : r.connections[n]? = some conn) {app : AppId}
    (stage : conn.stage = .closing app turnId) :
    Kept ({ r with agents := r.agents.next (.cancel app turnId) }.put n { conn with stage := .ended }) := by
  have calm : (Action.cancel app turnId).Calm := trivial
  have still : Still r.agents (r.agents.next (.cancel app turnId)) := next_still calm
  have after := kept.still (sound_next kept.sound _) still
  have sane := (kept.sane n conn found).still still
  refine after.put found ⟨fun _ => sane.idle (by simp [stage]), by simp, by simp, sane.owned, by simp, ?_⟩
  intro c turn unfinished caller
  have before := still.unfinished.mp unfinished
  cases (kept.sane n conn found).holds c turn before caller with
  | returned call starting found ok =>
    rw [stage] at starting
    cases starting
  | noted live open' owned => exact absurd stage (open' app turnId)
  | closing closes =>
    rw [stage] at closes
    cases closes
    exact .told rfl (next_cancel kept.sound before)
  | told ended raised =>
    rw [stage] at ended
    cases ended

/-- A read error ends the connection at once. -/
theorem Kept.break (kept : Kept r) (found : r.connections[n]? = some conn) (stage : conn.stage = .reading)
    (orderly : r.Orderly (.broken n)) : Kept (r.put n { conn with stage := .ended }) := by
  have sane := kept.sane n conn found
  refine kept.put found ⟨fun _ => sane.idle (by simp [stage]), by simp, by simp, sane.owned, by simp, ?_⟩
  intro c turn unfinished caller
  exact .told rfl (orderly c (List.getElem?_eq_some_iff.mp unfinished.1).1 turn (Option.mem_def.mpr unfinished.1) caller
    unfinished.2)

theorem finished_same (c : Channel) (task : TurnTask) :
    (task.finished c).channel = task.channel ∧ (task.finished c).connection = task.connection ∧
      (task.finished c).app = task.app ∧ (task.finished c).turnId = task.turnId := by
  unfold TurnTask.finished
  by_cases same : task.channel = c
  · rw [if_pos same]
    exact ⟨rfl, rfl, rfl, rfl⟩
  · rw [if_neg same]
    exact ⟨rfl, rfl, rfl, rfl⟩

theorem finished_clearing (c : Channel) (task : TurnTask) :
    (task.finished c).clearing = true ↔ task.channel = c ∨ task.clearing = true := by
  unfold TurnTask.finished
  by_cases same : task.channel = c
  · simp [same]
  · simp [same]

/-- The task finishes its turn. -/
theorem Kept.finish (kept : Kept r) {task : TurnTask} (member : task ∈ r.tasks) (channel : task.channel = c)
    (carrying : task.clearing = false) :
    Kept { r with agents := r.agents.next (.finish task.app task.turnId), tasks := r.tasks.map (TurnTask.finished c) } := by
  obtain ⟨turn, carries⟩ := kept.tasks task member
  have unfinished : r.agents.Unfinished c turn := by
    refine ⟨channel ▸ carries.listed, ?_⟩
    intro ended
    rw [← channel] at ended
    exact absurd (carries.clearing.mpr ended) (by simp [carrying])
  obtain ⟨turns, ended, calls, raised⟩ := next_finish kept.sound unfinished
  rw [carries.app, carries.id] at turns ended calls raised
  have sound := sound_next kept.sound (.finish task.app task.turnId)
  generalize r.agents.next (.finish task.app task.turnId) = t at turns ended calls raised sound
  have before : ∀ d other, t.Unfinished d other → r.agents.Unfinished d other ∧ d ≠ c := by
    rintro d other ⟨listed, going⟩
    rw [turns] at listed
    rw [ended] at going
    exact ⟨⟨listed, fun earlier => going (List.mem_cons_of_mem _ earlier)⟩, fun same => going (same ▸ List.mem_cons_self)⟩
  have after : ∀ d other, d ≠ c → r.agents.Unfinished d other → t.Unfinished d other := by
    rintro d other different ⟨listed, going⟩
    refine ⟨turns ▸ listed, ?_⟩
    rw [ended]
    intro member
    rcases List.mem_cons.mp member with same | earlier
    · exact different same
    · exact going earlier
  have untasked : ∀ d, Untasked r.tasks d → d ≠ c ∧ Untasked (r.tasks.map (TurnTask.finished c)) d := by
    intro d untasked
    refine ⟨fun same => untasked task member (channel.trans same.symm), ?_⟩
    intro later found
    obtain ⟨other, earlier, rfl⟩ := List.mem_map.mp found
    rw [(finished_same c other).1]
    exact untasked other earlier
  have own : ∀ d n app turnId, d ≠ c → r.agents.Own d n app turnId → t.Own d n app turnId := by
    rintro d n app turnId different ⟨other, going, rest⟩
    exact ⟨other, after d other different going, rest⟩
  refine ⟨sound, ?_, ?_, ?_, ?_, ?_⟩
  · intro n beyond
    show t.calls n = none
    rw [calls]
    exact kept.unused n beyond
  · intro d other going
    exact kept.caller d other (before d other going).1
  · intro later found
    obtain ⟨other, earlier, rfl⟩ := List.mem_map.mp found
    obtain ⟨carried, carries'⟩ := kept.tasks other earlier
    obtain ⟨same, connection, app, id⟩ := finished_same c other
    refine ⟨carried, ?_, carries'.caller.trans connection.symm, carries'.app.trans app.symm, carries'.id.trans id.symm, ?_⟩
    · rw [turns, same]
      exact carries'.listed
    · rw [finished_clearing, same, ended, List.mem_cons, carries'.clearing]
  · intro later found clears d other going
    obtain ⟨earlierTask, earlier, rfl⟩ := List.mem_map.mp found
    obtain ⟨-, -, app, id⟩ := finished_same c earlierTask
    obtain ⟨going', different⟩ := before d other going
    rw [app, id]
    rcases (finished_clearing c earlierTask).mp clears with mine | cleared
    · -- the finished turn was the only one of its application
      obtain ⟨carried, carries'⟩ := kept.tasks earlierTask earlier
      intro same
      have listed := carries'.listed
      rw [mine, unfinished.1] at listed
      cases listed
      exact absurd (kept.sound.single going' unfinished (same.trans carries'.app.symm)) different
    · exact kept.clearing earlierTask earlier cleared d other going'
  · intro n conn found
    have sane := kept.sane n conn found
    constructor
    · intro stage
      unfold AgentSystem.idle
      rw [calls]
      exact sane.idle stage
    · intro call d stage held ok
      have held : t.calls n = some call := held
      rw [calls] at held
      obtain ⟨owns, free⟩ := sane.begun call d stage held ok
      obtain ⟨different, free'⟩ := untasked d free
      exact ⟨own d n _ _ different owns, free'⟩
    · intro d app turnId stage
      obtain ⟨owns, free⟩ := sane.accepted d app turnId stage
      obtain ⟨different, free'⟩ := untasked d free
      exact ⟨own d n _ _ different owns, free'⟩
    · intro app turnId owned
      rcases sane.owned app turnId owned with ⟨d, owns⟩ | ⟨other, earlier, cleared, connection, app', id⟩
      · by_cases mine : d = c
        · subst mine
          obtain ⟨other, going, caller, app', id⟩ := owns
          have listed := unfinished.1
          rw [going.1] at listed
          cases listed
          obtain ⟨-, connection, app'', id'⟩ := finished_same d task
          refine .inr ⟨task.finished d, List.mem_map_of_mem member, (finished_clearing d task).mpr (.inl channel), ?_, ?_, ?_⟩
          · rw [connection, ← carries.caller, caller]
          · rw [app'', ← carries.app, app']
          · rw [id', ← carries.id, id]
        · exact .inl ⟨d, own d n app turnId mine owns⟩
      · obtain ⟨-, connection', app'', id'⟩ := finished_same c other
        exact .inr ⟨other.finished c, List.mem_map_of_mem earlier, (finished_clearing c other).mpr (.inr cleared),
          connection'.trans connection, app''.trans app', id'.trans id⟩
    · intro app turnId stage d other going
      exact sane.closing app turnId stage d other (before d other going).1
    · intro d other going caller
      cases sane.holds d other (before d other going).1 caller with
      | returned call starting held ok => exact .returned call starting (by rw [calls]; exact held) ok
      | noted live open' owned => exact .noted live open' owned
      | closing closes => exact .closing closes
      | told ended' told => exact .told ended' (by rw [raised]; exact told)

/-- The task clears its connection's note of the turn, and is done. -/
theorem Kept.clear (kept : Kept r) {task : TurnTask} (member : task ∈ r.tasks) (channel : task.channel = c)
    (clearing : task.clearing = true) :
    Kept { r.clearOwned task with tasks := r.tasks.filter fun other => other.channel ≠ c } := by
  obtain ⟨turn, carries⟩ := kept.tasks task member
  have stays : ∀ other ∈ r.tasks.filter (fun other => other.channel ≠ c), other ∈ r.tasks ∧ other.channel ≠ c := by
    intro other found
    obtain ⟨earlier, different⟩ := List.mem_filter.mp found
    exact ⟨earlier, of_decide_eq_true different⟩
  -- a task with the channel is of the same connection and turn
  have same : ∀ other ∈ r.tasks, other.channel = c →
      other.connection = task.connection ∧ other.app = task.app ∧ other.turnId = task.turnId := by
    intro other earlier mine
    obtain ⟨carried, carries'⟩ := kept.tasks other earlier
    have listed := carries'.listed
    rw [mine, ← channel, carries.listed] at listed
    cases listed
    exact ⟨carries'.caller.symm.trans carries.caller, carries'.app.symm.trans carries.app, carries'.id.symm.trans carries.id⟩
  -- a connection is sane again if its note, where it keeps it, is of another turn
  have sane : ∀ n conn later, r.connections[n]? = some conn → later.stage = conn.stage →
      (∀ noted, later.owned = some noted → conn.owned = some noted ∧ (n = task.connection → noted ≠ (task.app, task.turnId))) →
      (∀ d other, r.agents.Unfinished d other → conn.owned = some (other.app, other.id) → later.owned = conn.owned) →
      Sane r.agents (r.tasks.filter fun other => other.channel ≠ c) n later := by
    intro n conn later found stage keeps notes
    have sane := kept.sane n conn found
    refine ⟨?_, ?_, ?_, ?_, ?_, ?_⟩
    · rw [stage]
      exact sane.idle
    · intro call d starting held ok
      obtain ⟨owns, free⟩ := sane.begun call d (stage ▸ starting) held ok
      exact ⟨owns, fun other found => free other (stays other found).1⟩
    · intro d app turnId accepted
      obtain ⟨owns, free⟩ := sane.accepted d app turnId (stage ▸ accepted)
      exact ⟨owns, fun other found => free other (stays other found).1⟩
    · intro app turnId owned
      obtain ⟨before, another⟩ := keeps _ owned
      refine (sane.owned app turnId before).imp id ?_
      rintro ⟨other, earlier, cleared, connection, rfl, rfl⟩
      refine ⟨other, List.mem_filter.mpr ⟨earlier, decide_eq_true ?_⟩, cleared, connection, rfl, rfl⟩
      intro mine
      obtain ⟨connection', app, id⟩ := same other earlier mine
      exact another (connection.symm.trans connection') (by rw [app, id])
    · intro app turnId closing
      exact sane.closing app turnId (stage ▸ closing)
    · intro d other going caller
      cases sane.holds d other going caller with
      | returned call starting held ok => exact .returned call (stage.trans starting) held ok
      | noted live open' owned =>
        exact .noted (stage ▸ live) (stage ▸ open') ((notes d other going owned).trans owned)
      | closing closes => exact .closing (stage.trans closes)
      | told ended told => exact .told (stage.trans ended) told
  have carried : ∀ other ∈ r.tasks.filter (fun other => other.channel ≠ c), ∃ turn, Carries r.agents other turn :=
    fun other found => kept.tasks other (stays other found).1
  have cleared : ∀ other ∈ r.tasks.filter (fun other => other.channel ≠ c), other.clearing = true →
      ∀ d turn, r.agents.Unfinished d turn → turn.app = other.app → turn.id ≠ other.turnId :=
    fun other found => kept.clearing other (stays other found).1
  rcases clearOwned_cases task r with ⟨still, another⟩ | ⟨conn, found, owned, put⟩
  · rw [still]
    refine ⟨kept.sound, kept.unused, kept.caller, carried, cleared, ?_⟩
    intro n conn found
    refine sane n conn conn found rfl ?_ (fun _ _ _ _ => rfl)
    intro noted held
    refine ⟨held, ?_⟩
    rintro rfl rfl
    exact another conn found held
  · rw [put]
    refine kept.retask found carried cleared ?_ ?_
    · intro m other different held
      refine sane m other other held rfl ?_ (fun _ _ _ _ => rfl)
      intro noted held
      exact ⟨held, fun same => absurd same different⟩
    · refine sane task.connection conn _ found rfl (by simp) ?_
      intro d other going held
      -- a turn that is still active does not bear the id of one that is being cleared
      rw [owned] at held
      obtain ⟨app, id⟩ := Prod.mk.inj (Option.some.inj held)
      exact absurd id.symm (kept.clearing task member clearing d other going app.symm)

/-- What holds of connections and tasks goes on to hold in an orderly step. -/
theorem kept_goes (kept : Kept r) (identified : Identified r) {event : Event} (orderly : r.Orderly event) {later : Service}
    (goes : Goes r event later) : Kept later := by
  cases goes with
  | stays => exact kept
  | connects identity => exact kept.connect identity
  | reads n conn message found stage =>
    have sane := kept.sane n conn found
    exact kept.restage found rfl (sane.idle (by simp [stage])) (by simp [stage]) (by simp [stage]) (by simp)
  | hangsUp n conn found stage =>
    have sane := kept.sane n conn found
    exact kept.restage found rfl (sane.idle (by simp [stage])) (by simp [stage]) (by simp [stage]) (by simp)
  | breaks n conn found stage => exact kept.break found stage orderly
  | authorizes n conn message answer found stage =>
    have still : Still r.agents _ := next_authorize_still conn.identity message.app message.token
    have after := kept.still (sound_next kept.sound _) still
    have sane := (kept.sane n conn found).still still
    have goesOn : ∀ other : Connection, other.owned = conn.owned → (other.stage = .reading ∨
        other.stage = .dispatching message) → Kept (({ r with
          agents := r.agents.next (.authorize conn.identity message.app message.token) } : Service).put n other) := by
      intro other owned ordinary
      refine after.restage found owned (sane.idle (by simp [stage])) (by simp [stage]) (by simp [stage]) ?_
      rcases ordinary with reading | dispatching
      · simp [reading]
      · simp [dispatching]
    by_cases accepts : r.agents.authorizes conn.identity message.app message.token = true
    · rw [if_pos accepts]
      unfold Service.represent
      by_cases pinned : conn.pinned.any (· ≠ message.app) = true
      · rw [if_pos pinned]
        exact goesOn _ rfl (.inl rfl)
      · rw [if_neg pinned]
        exact goesOn _ rfl (.inr rfl)
    · rw [if_neg accepts]
      exact goesOn _ rfl (.inl rfl)
  | acts n conn message action answer found stage calm =>
    have still : Still r.agents (r.agents.next action) := next_still calm
    have after := kept.still (sound_next kept.sound action) still
    have sane := (kept.sane n conn found).still still
    exact after.restage found rfl (sane.idle (by simp [stage])) (by simp [stage]) (by simp [stage]) (by simp)
  | declines n conn answer found stage =>
    have sane := kept.sane n conn found
    rcases stage with ⟨message, stage⟩ | ⟨stage, failed⟩
    · exact kept.restage found rfl (sane.idle (by simp [stage])) (by simp [stage]) (by simp [stage]) (by simp)
    · refine kept.restage found rfl ?_ (by simp [stage]) ?_ (by simp)
      · unfold AgentSystem.idle
        cases held : r.agents.calls n with
        | none => rfl
        | some call =>
          obtain ⟨code, error⟩ := failed call (Option.mem_def.mpr held)
          simp [error]
      · intro _ call c held
        obtain ⟨code, error⟩ := failed call (Option.mem_def.mpr held)
        simp [error]
  | starts n conn message request answer found stage app principal asks =>
    have sane := kept.sane n conn found
    obtain ⟨call, moved, -, open'⟩ := next_start (sane.idle (by simp [stage])) request answer.available
    have sound := sound_next kept.sound (.start n request answer.available)
    rw [moved] at sound ⊢
    have noted := sane.noted (by simp [stage]) (by simp [stage])
    exact kept.called found rfl rfl noted sound (fun m different => Function.update_of_ne different ..) rfl
      (fun _ member => member) (Function.update_self ..) (.inl ⟨rfl, open'⟩)
  | calls n conn call answer found stage held going => exact kept.call found stage held going orderly
  | returns n conn call c answer found stage held ok => exact kept.return identified found stage held ok
  | spawns n conn c app turnId answer found stage => exact kept.spawn found stage
  | leaves n conn answer found stage owned => exact kept.leave found stage owned
  | takes n conn app turnId answer found stage owned => exact kept.take found stage owned
  | closes n conn app turnId answer found stage => exact kept.close found stage
  | ends c task member channel carrying => exact kept.finish member channel carrying
  | clears c task member channel clearing => exact kept.clear member channel clearing

/-! ## The end of a connection -/

/-- What the ends of connections have done, and may do. -/
structure TurnsEnd (s : Service) : Prop where
  /-- The turn of a connection that has ended is over or has been told to stop. -/
  told : ∀ n conn, s.connections[n]? = some conn → conn.stage = .ended →
    ∀ c turn, s.agents.Unfinished c turn → turn.caller = n → c ∈ s.agents.raised
  /-- A connection that is ending tells no other connection's turn to stop. -/
  own : ∀ n conn app turnId answer, s.connections[n]? = some conn → conn.stage = .closing app turnId →
    ∀ c ∈ (s.next (.proceed n answer)).agents.raised, c ∈ s.agents.raised ∨
      ∃ turn, s.agents.turns[c]? = some turn ∧ turn.caller = n

theorem Kept.turnsEnd (kept : Kept r) : TurnsEnd r := by
  constructor
  · intro n conn found ended c turn unfinished caller
    cases (kept.sane n conn found).holds c turn unfinished caller with
    | returned call starting held ok =>
      rw [ended] at starting
      cases starting
    | noted live open' owned => exact absurd ended live
    | closing closes =>
      rw [ended] at closes
      cases closes
    | told _ raised => exact raised
  · intro n conn app turnId answer found stage c raised
    have moved : r.next (.proceed n answer) =
        ({ r with agents := r.agents.next (.cancel app turnId) }.put n { conn with stage := .ended }) := by
      simp only [Service.next, found, Service.advance, stage]
    rw [moved] at raised
    have moves : Moves r.agents (.cancel app turnId) (r.agents.next (.cancel app turnId)) _ := moves_step r.agents _
    rcases exclusive_signals kept.sound moves raised with before | ⟨turn, unfinished, same⟩ | ⟨m, answer', call, same, -⟩
    · exact .inl before
    · cases same
      exact .inr ⟨turn, unfinished.1, (kept.sane n conn found).closing _ _ stage c turn unfinished rfl rfl⟩
    · cases same

/-- In every orderly run of any number of connections and turns, a connection that ends
    stops the turn that it started, and no other. -/
theorem turns_end_with_connection {events : List Event} (orderly : Runs.Along Service.next Service.Orderly {} events) :
    TurnsEnd (events.foldl Service.next {}) := by
  have both : Kept (events.foldl Service.next {}) ∧ Identified (events.foldl Service.next {}) := by
    refine orderly.invariant (fun s => Kept s ∧ Identified s) ?_ ⟨kept_initial, identified_initial⟩
    rintro s event ⟨kept, identified⟩ orderly
    have goes := Service.goes_next s event
    exact ⟨kept_goes kept identified orderly goes,
      identified_goes identified (fun n conn found => (kept.sane n conn found).idle) goes⟩
  exact both.1.turnsEnd

def magicpaper : AppId := ⟨"magicpaper", by decide⟩

def deepseek : AgentProfile := { provider := "deepseek", model := "deepseek-v4-flash" }

/-- A client's token: 64 hexadecimal digits. -/
def clientToken (digit : Char) : String := String.ofList (List.replicate 64 digit)

/-- A message that starts a turn of the user's. -/
def startMessage (requestId : String) : ClientMessage :=
  ⟨magicpaper, clientToken '1', .startTurn requestId deepseek .interactive "system" false⟩

/-- Connect, and start a turn. -/
def startTurn (n : Nat) (requestId : String) : List Event :=
  .message n (startMessage requestId) :: List.replicate 6 (.proceed n {})

def connected : List Event := .connect ⟨magicpaper, 7, "foreground"⟩ :: startTurn 0 "r1"


/-- The connection hangs up while its turn is active. -/
def hungUp : List Event := connected ++ [Event.hangUp 0, .proceed 0 {}, .proceed 0 {}]

/-- The connection sends a malformed frame while its turn is active. -/
def malformed : List Event := connected ++ [Event.broken 0]

/-- The turn that is active in the run. -/
def activeTurn : Turn := ⟨0, magicpaper, "magicpaper:r1", .interactive, "foreground", 0⟩

theorem turns_end_with_connection_hungUp :
    0 ∈ (hungUp.foldl Service.next {}).agents.raised ∧ TurnsEnd (hungUp.foldl Service.next {}) :=
  ⟨by decide +kernel, turns_end_with_connection (by decide +kernel)⟩

/-- A malformed frame ends the connection, and its turn goes on. -/
theorem malformed_leaves_turn : ¬ ∀ events : List Event, TurnsEnd (events.foldl Service.next {}) := by
  intro claimed
  let conn : Connection :=
    ⟨⟨magicpaper, 7, "foreground"⟩, some magicpaper, some (magicpaper, "magicpaper:r1"), .ended⟩
  have found : (malformed.foldl Service.next {}).connections[0]? = some conn := by decide +kernel
  have going : (malformed.foldl Service.next {}).agents.turns[0]? = some activeTurn ∧
      0 ∉ (malformed.foldl Service.next {}).agents.ended := by decide +kernel
  have told := (claimed malformed).told 0 conn found rfl 0 activeTurn going rfl
  exact absurd told (by decide +kernel)

end Remagic.Agent
