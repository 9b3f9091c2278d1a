import Remagic.AgentBindings

/-!
# Clients of several lives of the daemon

The daemon counts its generations from one in each of its lives, and the agent
service that is bound to it begins each life without bindings, but a unit that runs
on keeps the generation it was given. Such a survivor that talks to the service
binds its own generation, and a unit that is started after that is refused unless
its generation is newer.
-/

namespace Remagic.Agent

/-- What a unit was given when it was started, in which life of the daemon. -/
structure Grant where
  life : Nat
  generation : Nat
  token : String
  deriving DecidableEq

/-- The daemon's counter, the units, and the agent service of the daemon's life.
    `origins` is the life of the unit behind each connection, and `heard` records the
    accepted clients of the service with that life. -/
structure Lives where
  life : Nat := 0
  nextGeneration : Nat := 1
  units : AppId → String → Option Grant := fun _ _ => none
  service : Service := {}
  origins : Nat → Nat := fun _ => 0
  heard : List (Nat × Acceptance) := []

inductive LifeEvent where
  /-- `remagicd` is killed and starts again. A unit that ends with it ends in a step of its own. -/
  | restart
  /-- `agentd` exits when idle, or fails, and its socket starts it again. -/
  | agentExits
  | ensureBackground (app : AppId) (token : String) (runs : Bool)
  | launch (app : AppId) (token : String) (runs : Bool)
  | unitEnds (app : AppId) (principal : String)
  /-- The unit's process connects. -/
  | connects (app : AppId) (principal : String)
  | serves (event : Event)

namespace Lives

def allocateGeneration (s : Lives) : Nat × Lives := (max s.nextGeneration 1, { s with nextGeneration := s.nextGeneration + 1 })

def grant (s : Lives) (token : String) : Grant := ⟨s.life, s.allocateGeneration.1, token⟩

/-- The unit is started with what was allocated for it. -/
def startUnit (s : Lives) (app : AppId) (principal : String) (grant : Grant) : Lives :=
  { s with units := fun other p => if other = app ∧ p = principal then some grant else s.units other p }

/-- `start_managed_background`: the generation is allocated also where the unit is active. -/
def ensureBackground (s : Lives) (app : AppId) (token : String) (runs : Bool) : Lives :=
  if (s.units app "background").isSome then s.allocateGeneration.2
  else if runs then s.allocateGeneration.2.startUnit app "background" (s.grant token)
  else s.allocateGeneration.2

/-- `launch`: an active application keeps its generation. -/
def launch (s : Lives) (app : AppId) (token : String) (runs : Bool) : Lives :=
  if (s.units app "foreground").isSome then s
  else if runs then s.allocateGeneration.2.startUnit app "foreground" (s.grant token)
  else s.allocateGeneration.2

/-- The service goes on, by a step of the connection `n`. -/
def hear (s : Lives) (n : Nat) (service : Service) : Lives :=
  { s with
    service
    heard := (service.agents.accepted.take (service.agents.accepted.length - s.service.agents.accepted.length)).map
      (fun accepted => (s.origins n, accepted)) ++ s.heard }

def next (s : Lives) : LifeEvent → Lives
  | .restart => { s with life := s.life + 1, nextGeneration := 1, service := {}, heard := [] }
  | .agentExits => { s with service := {}, heard := [] }
  | .ensureBackground app token runs => s.ensureBackground app token runs
  | .launch app token runs => s.launch app token runs
  | .unitEnds app principal =>
    { s with units := fun other p => if other = app ∧ p = principal then none else s.units other p }
  | .connects app principal =>
    match s.units app principal with
    | none => s
    | some grant =>
      { s with
        service := s.service.next (.connect ⟨app, grant.generation, principal⟩)
        origins := Function.update s.origins s.service.connections.length grant.life }
  | .serves event =>
    match event with
    | .connect _ => s
    | .proceed n answer => s.hear n (s.service.next (.proceed n answer))
    | .message .. | .hangUp _ | .broken _ | .ends _ | .clears _ => { s with service := s.service.next event }

/-- The unit that the step starts. -/
def starts (s : Lives) : LifeEvent → Option (AppId × String × Grant)
  | .ensureBackground app token runs =>
    if (s.units app "background").isNone && runs then some (app, "background", s.grant token) else none
  | .launch app token runs =>
    if (s.units app "foreground").isNone && runs then some (app, "foreground", s.grant token) else none
  | _ => none

/-- No turn of the principal's is active. -/
def Quiet (s : Lives) (app : AppId) (principal : String) : Prop :=
  ∀ turn ∈ (s.service.agents.apps app).active, turn.principal ≠ principal

end Lives

/-! ## Who a connection speaks for -/

variable {r u : Service} {n : Nat} {conn : Connection}

/-- The connections are those from before, each with the client it had. -/
def Service.Continues (r u : Service) : Prop :=
  ∀ (m : Nat) other, u.connections[m]? = some other →
    ∃ conn, r.connections[m]? = some conn ∧ other.identity = conn.identity

theorem continues_of_eq (same : u.connections = r.connections) : r.Continues u := by
  intro m other held
  exact ⟨other, same ▸ held, rfl⟩

theorem continues_put {t : AgentSystem} {tasks : List TurnTask} (found : r.connections[n]? = some conn) {after : Connection}
    (identity : after.identity = conn.identity) : r.Continues ({ r with agents := t, tasks }.put n after) := by
  intro m other held
  have found' : ({ r with agents := t, tasks } : Service).connections[n]? = some conn := found
  rcases put_get found' after held with ⟨rfl, rfl⟩ | ⟨_, before⟩
  · exact ⟨conn, found, identity⟩
  · exact ⟨other, before, rfl⟩

theorem represent_identity (conn : Connection) (message : ClientMessage) :
    (Service.represent conn message).identity = conn.identity := by
  unfold Service.represent
  split <;> rfl

/-- No authorization is among the action's effects, so nobody new is accepted. -/
theorem next_accepted {s : AgentSystem} {action : Action}
    (other : ∀ identity app token, action ≠ .authorize identity app token) : (s.next action).accepted = s.accepted :=
  moves_accepted (moves_step s action) other

theorem calm_accepted {s : AgentSystem} {action : Action} (calm : action.Calm) : (s.next action).accepted = s.accepted := by
  refine next_accepted ?_
  rintro identity app token rfl
  exact calm

theorem authorize_accepted (s : AgentSystem) (identity : ClientIdentity) (app : AppId) (token : String) :
    (s.next (.authorize identity app token)).accepted = s.accepted ∨
      (s.next (.authorize identity app token)).accepted =
        ⟨app, identity.principal, identity.generation, token⟩ :: s.accepted := by
  unfold AgentSystem.next AgentSystem.step
  by_cases own : identity.appId = app
  · simp only [own, if_true]
    rcases ((s.apps app).authorize identity token).1 with _ | _
    · exact .inl rfl
    · exact .inr rfl
  · simp only [own, if_false]
    exact .inl trivial

/-- A step of the service: who is connected, and who is accepted. -/
inductive Speaks (r : Service) : Event → Service → Prop
  | connects {u : Service} (identity : ClientIdentity)
      (connections : u.connections = r.connections ++ [({ identity } : Connection)]) (agents : u.agents = r.agents) :
      Speaks r (.connect identity) u
  | quiet {event : Event} {u : Service} (continues : r.Continues u)
      (accepted : u.agents.accepted = r.agents.accepted) : Speaks r event u
  | accepts {u : Service} (n : Nat) (conn : Connection) (answer : Answer) (accepted : Acceptance)
      (continues : r.Continues u) (found : r.connections[n]? = some conn)
      (generation : accepted.generation = conn.identity.generation)
      (more : u.agents.accepted = accepted :: r.agents.accepted) : Speaks r (.proceed n answer) u

theorem goes_speaks {event : Event} (goes : Goes r event u) : Speaks r event u := by
  cases goes with
  | stays event => exact .quiet (continues_of_eq rfl) rfl
  | connects identity => exact .connects identity rfl rfl
  | reads n conn message found stage => exact .quiet (continues_put found rfl) rfl
  | hangsUp n conn found stage => exact .quiet (continues_put found rfl) rfl
  | breaks n conn found stage => exact .quiet (continues_put found rfl) rfl
  | authorizes n conn message answer found stage =>
    have identity : (if r.agents.authorizes conn.identity message.app message.token then Service.represent conn message
        else { conn with stage := .reading }).identity = conn.identity := by
      split
      · exact represent_identity conn message
      · rfl
    rcases authorize_accepted r.agents conn.identity message.app message.token with same | more
    · exact .quiet (continues_put found identity) same
    · exact .accepts n conn answer _ (continues_put found identity) found rfl more
  | acts n conn message action answer found stage calm => exact .quiet (continues_put found rfl) (calm_accepted calm)
  | declines n conn answer found stage => exact .quiet (continues_put found rfl) rfl
  | starts n conn message request answer found stage app principal asks =>
    exact .quiet (continues_put found rfl) (next_accepted (by simp))
  | calls n conn call answer found stage held going => exact .quiet (continues_put found rfl) (next_accepted (by simp))
  | returns n conn call c answer found stage held ok => exact .quiet (continues_put found rfl) rfl
  | spawns n conn c app turnId answer found stage => exact .quiet (continues_put found rfl) rfl
  | leaves n conn answer found stage owned => exact .quiet (continues_put found rfl) rfl
  | takes n conn app turnId answer found stage owned => exact .quiet (continues_put found rfl) rfl
  | closes n conn app turnId answer found stage => exact .quiet (continues_put found rfl) (next_accepted (by simp))
  | ends c task member channel carrying => exact .quiet (continues_of_eq rfl) (next_accepted (by simp))
  | clears c task member channel clearing =>
    unfold Service.clearOwned
    cases found : r.connections[task.connection]? with
    | none => exact .quiet (continues_of_eq rfl) rfl
    | some conn =>
      simp only
      split
      · exact .quiet (continues_put found rfl) rfl
      · exact .quiet (continues_of_eq rfl) rfl

/-! ## What holds in every state -/

namespace Lives
variable {s : Lives}

/-- A generation that the life has given out. -/
def Given (s : Lives) (life generation : Nat) : Prop := life ≤ s.life ∧ (life = s.life → generation < s.nextGeneration)

structure Sound (s : Lives) : Prop where
  positive : 0 < s.nextGeneration
  tokens : Tokens s.service.agents
  units : ∀ app principal grant, s.units app principal = some grant → s.Given grant.life grant.generation
  origins : ∀ (n : Nat) conn, s.service.connections[n]? = some conn → s.Given (s.origins n) conn.identity.generation
  heard : ∀ client ∈ s.heard, s.Given client.1 client.2.generation
  accepted : s.service.agents.accepted = s.heard.map Prod.snd

theorem sound_initial : Sound {} where
  positive := Nat.one_pos
  tokens := tokens_initial
  units := nofun
  origins := nofun
  heard := nofun
  accepted := rfl

theorem Given.later {t : Lives} {life generation : Nat} (given : s.Given life generation) (same : t.life = s.life)
    (more : s.nextGeneration ≤ t.nextGeneration) : t.Given life generation :=
  ⟨same ▸ given.1, fun now => Nat.lt_of_lt_of_le (given.2 (now.trans same)) more⟩

/-- The counter goes on and the units change; the service stays. -/
theorem Sound.daemon (sound : s.Sound) {t : Lives} (life : t.life = s.life) (more : s.nextGeneration ≤ t.nextGeneration)
    (service : t.service = s.service) (origins : t.origins = s.origins) (heard : t.heard = s.heard)
    (units : ∀ app principal grant, t.units app principal = some grant → t.Given grant.life grant.generation) :
    t.Sound where
  positive := Nat.lt_of_lt_of_le sound.positive more
  tokens := service ▸ sound.tokens
  units := units
  origins n conn found := by
    rw [service] at found
    rw [origins]
    exact (sound.origins n conn found).later life more
  heard client member := by
    rw [heard] at member
    exact (sound.heard client member).later life more
  accepted := by rw [service, heard, sound.accepted]

/-- The service begins anew. -/
theorem Sound.serviceless (sound : s.Sound) : ({ s with service := {}, heard := [] } : Lives).Sound where
  positive := sound.positive
  tokens := tokens_initial
  units := sound.units
  origins := nofun
  heard := nofun
  accepted := rfl

theorem Sound.restart (sound : s.Sound) :
    ({ s with life := s.life + 1, nextGeneration := 1, service := {}, heard := [] } : Lives).Sound where
  positive := Nat.one_pos
  tokens := tokens_initial
  units app principal grant started := by
    -- what runs on is of an earlier life
    have old := (sound.units app principal grant started).1
    exact ⟨Nat.le_succ_of_le old, fun now => absurd now (by show ¬ grant.life = s.life + 1; omega)⟩
  origins := nofun
  heard := nofun
  accepted := rfl

theorem Sound.allocates (sound : s.Sound) : s.allocateGeneration.2.Sound :=
  sound.daemon rfl (Nat.le_succ _) rfl rfl rfl fun app principal grant started =>
    (sound.units app principal grant started).later rfl (Nat.le_succ _)

theorem Sound.grant_eq (sound : s.Sound) (token : String) : s.grant token = ⟨s.life, s.nextGeneration, token⟩ := by
  unfold grant allocateGeneration
  rw [Nat.max_eq_left sound.positive]

theorem Sound.started (sound : s.Sound) (app : AppId) (principal token : String) :
    (s.allocateGeneration.2.startUnit app principal (s.grant token)).Sound := by
  refine sound.allocates.daemon rfl (Nat.le_refl _) rfl rfl rfl fun other p grant started => ?_
  simp only [startUnit] at started
  split at started
  · cases Option.some.inj started
    rw [sound.grant_eq]
    exact ⟨Nat.le_refl _, fun _ => Nat.lt_succ_self _⟩
  · exact sound.allocates.units other p grant started

theorem Sound.serve (sound : s.Sound) {event : Event} {service : Service} (speaks : Speaks s.service event service)
    (quiet : service.agents.accepted = s.service.agents.accepted) (tokens : Tokens service.agents)
    (here : ∀ identity, event ≠ .connect identity) : ({ s with service } : Lives).Sound := by
  refine ⟨sound.positive, tokens, sound.units, fun n conn found => ?_, sound.heard, quiet.trans sound.accepted⟩
  cases speaks with
  | connects identity connections agents => exact absurd rfl (here identity)
  | quiet continues accepted =>
    obtain ⟨before, held, identity⟩ := continues n conn found
    rw [identity]
    exact sound.origins n before held
  | accepts m speaker answer accepted continues held generation more =>
    obtain ⟨before, held, identity⟩ := continues n conn found
    rw [identity]
    exact sound.origins n before held

theorem service_tokens (tokens : Tokens s.service.agents) (event : Event) : Tokens (s.service.next event).agents := by
  rcases goes_agents (Service.goes_next s.service event) with same | ⟨action, moved⟩
  · rw [same]
    exact tokens
  · rw [moved]
    exact tokens_step tokens (moves_step s.service.agents action)

theorem Sound.hear (sound : s.Sound) (n : Nat) (answer : Answer) :
    (s.hear n (s.service.next (.proceed n answer))).Sound := by
  have tokens := service_tokens sound.tokens (.proceed n answer)
  have speaks := goes_speaks (Service.goes_next s.service (.proceed n answer))
  revert tokens speaks
  generalize s.service.next (.proceed n answer) = service
  intro tokens speaks
  have connected : ∀ (m : Nat) conn, service.connections[m]? = some conn →
      s.Given (s.origins m) conn.identity.generation := by
    intro m conn found
    have continues : s.service.Continues service := by
      cases speaks with
      | quiet continues accepted => exact continues
      | accepts m speaker answer accepted continues held generation more => exact continues
    obtain ⟨before, held, identity⟩ := continues m conn found
    rw [identity]
    exact sound.origins m before held
  cases speaks with
  | quiet continues accepted =>
    have none' : (s.hear n service).heard = s.heard := by simp [Lives.hear, accepted]
    refine ⟨sound.positive, tokens, sound.units, connected, fun client member => ?_, ?_⟩
    · rw [none'] at member
      exact sound.heard client member
    · rw [none']
      exact accepted.trans sound.accepted
  | accepts m speaker answer accepted continues held generation more =>
    have one : (s.hear n service).heard = (s.origins n, accepted) :: s.heard := by
      simp [Lives.hear, more]
    refine ⟨sound.positive, tokens, sound.units, connected, fun client member => ?_, ?_⟩
    · rw [one] at member
      rcases List.mem_cons.mp member with rfl | earlier
      · show s.Given (s.origins n) accepted.generation
        rw [generation]
        exact sound.origins n speaker held
      · exact sound.heard client earlier
    · rw [one]
      show service.agents.accepted = accepted :: s.heard.map Prod.snd
      rw [more, sound.accepted]

theorem next_sound (sound : s.Sound) (event : LifeEvent) : (s.next event).Sound := by
  cases event with
  | restart => exact sound.restart
  | agentExits => exact sound.serviceless
  | ensureBackground app token runs =>
    simp only [next, ensureBackground]
    split
    · exact sound.allocates
    split
    · exact sound.started app "background" token
    · exact sound.allocates
  | launch app token runs =>
    simp only [next, launch]
    split
    · exact sound
    split
    · exact sound.started app "foreground" token
    · exact sound.allocates
  | unitEnds app principal =>
    refine sound.daemon rfl (Nat.le_refl _) rfl rfl rfl fun other p grant started => ?_
    simp only [next] at started
    split at started
    · cases started
    · exact sound.units other p grant started
  | connects app principal =>
    cases running : s.units app principal with
    | none =>
      simp only [next, running]
      exact sound
    | some grant =>
      simp only [next, running]
      have before : ∀ (n : Nat) conn, s.service.connections[n]? = some conn →
          s.Given (Function.update s.origins s.service.connections.length grant.life n) conn.identity.generation := by
        intro n conn found
        have within := (List.getElem?_eq_some_iff.mp found).1
        rw [Function.update_of_ne (Nat.ne_of_lt within)]
        exact sound.origins n conn found
      unfold Service.next
      by_cases zero : grant.generation = 0
      · simp only [zero, if_true]
        exact ⟨sound.positive, sound.tokens, sound.units, before, sound.heard, sound.accepted⟩
      · simp only [zero, if_false]
        refine ⟨sound.positive, sound.tokens, sound.units, fun n conn found => ?_, sound.heard, sound.accepted⟩
        rcases Nat.lt_or_ge n s.service.connections.length with within | beyond
        · rw [List.getElem?_append_left within] at found
          exact before n conn found
        · have last : n = s.service.connections.length := by
            have bound := (List.getElem?_eq_some_iff.mp found).1
            rw [List.length_append, List.length_singleton] at bound
            omega
          subst last
          rw [List.getElem?_append_right beyond, Nat.sub_self] at found
          cases Option.some.inj found
          show s.Given (Function.update s.origins s.service.connections.length grant.life _) grant.generation
          rw [Function.update_self]
          exact sound.units app principal grant running
  | serves event =>
    have tokens := service_tokens sound.tokens event
    have speaks := goes_speaks (Service.goes_next s.service event)
    have silent : (∀ n answer, event ≠ .proceed n answer) →
        (s.service.next event).agents.accepted = s.service.agents.accepted := by
      intro other
      revert speaks
      generalize s.service.next event = service
      intro speaks
      cases speaks with
      | connects identity connections agents => rw [agents]
      | quiet continues accepted => exact accepted
      | accepts n conn answer accepted continues found generation more => exact absurd rfl (other n answer)
    cases event with
    | connect identity => exact sound
    | proceed n answer => exact sound.hear n answer
    | message n message => exact sound.serve speaks (silent nofun) tokens nofun
    | hangUp n => exact sound.serve speaks (silent nofun) tokens nofun
    | broken n => exact sound.serve speaks (silent nofun) tokens nofun
    | ends c => exact sound.serve speaks (silent nofun) tokens nofun
    | clears c => exact sound.serve speaks (silent nofun) tokens nofun

/-! ## Who is accepted -/

end Lives

end Remagic.Agent
