import Remagic.AgentConnections

/-!
# The generation that a principal is bound to

A principal's binding only rises, one token goes with each generation, and it stays
while the principal's turn is active. A turn belongs to the generation that is bound
when it begins, as long as no newer client is bound between the authorization of a
start and its claim.
-/

namespace Remagic.Agent

variable {s t : AgentSystem} {action : Action} {calls : List WorkerCall} {app : AppId} {principal : String}
  {identity : ClientIdentity}

/-- What the principal is bound to. -/
def AgentSystem.bound (s : AgentSystem) (app : AppId) (principal : String) : PrincipalAuth :=
  (s.apps app).principals principal

theorem claims_principals {request : StartRequest} {fresh : WorkerHandle} {c : Channel} {state : AppState}
    {claim : AppState.Claim} (claims : Claims request fresh c state claim) :
    claim.state.principals = state.principals := by
  cases claims with
  | again active found asks yields => rfl
  | busy active found => rfl
  | failed free => rfl
  | reused worker free kept => rfl
  | spawned free => rfl

theorem claimed_apps (s : AgentSystem) (n : Nat) (call : StartCall) (claim : AppState.Claim) :
    (s.claimed n call claim).apps = Function.update s.apps call.request.app claim.state := by
  unfold AgentSystem.claimed
  cases claim.result with
  | again c => rfl
  | refused code => rfl
  | began => rfl

theorem update_bound {state : AppState} (same : state.principals = (s.apps app).principals) (other : AppId) :
    (Function.update s.apps app state other).principals = (s.apps other).principals := by
  by_cases here : other = app
  · subst here
    rw [Function.update_self, same]
  · rw [Function.update_of_ne here]

/-- Only an authorization moves a binding. -/
theorem moves_bound (moves : Moves s action t calls)
    (other : ∀ identity app token, action ≠ .authorize identity app token) (app : AppId) (principal : String) :
    t.bound app principal = s.bound app principal := by
  -- an application's change that leaves its principals alone
  have settled : ∀ (app' : AppId) (state : AppState), state.principals = (s.apps app').principals →
      (Function.update s.apps app' state app).principals principal = (s.apps app).principals principal :=
    fun app' state same => congrFun (update_bound same app) principal
  unfold AgentSystem.bound
  cases moves with
  | authorizes identity token verdict authorizes => exact absurd rfl (other identity identity.appId token)
  | claims n answer call claim found claims =>
    rw [claimed_apps]
    exact settled _ _ (claims_principals claims)
  | waits n answer call found waits => rw [(advance_quiet waits n answer).1.apps]
  | finishes app' active found => exact settled app' _ rfl
  | reloads app' profile =>
    refine settled app' _ ?_
    unfold AppState.reloadProfile
    by_cases busy : (s.apps app').active.isSome = true
    · rw [if_pos busy]
    · rw [if_neg busy]
      by_cases checked : (profile.isSome && profile == (s.apps app').profile) = true
      · rw [if_pos checked]
      · rw [if_neg checked]
        rfl
  | _ => rfl

theorem next_bound (other : ∀ identity app token, action ≠ .authorize identity app token) (app : AppId)
    (principal : String) : (s.next action).bound app principal = s.bound app principal :=
  moves_bound (moves_step s action) other app principal

/-! ## One step -/

/-- How an authorization may move a binding. -/
theorem authorizes_bound {token : String} {verdict : Bool × AppState}
    (authorizes : Authorizes identity token (s.apps identity.appId) verdict) (app : AppId) (principal : String) :
    let after := (s.setApp identity.appId verdict.2).bound app principal
    after = s.bound app principal ∨
      app = identity.appId ∧ principal = identity.principal ∧ verdict.1 = true ∧ after = ⟨identity.generation, token⟩ ∧
        (s.bound app principal).generation < identity.generation ∧
        ∀ active, (s.apps app).active = some active → active.principal ≠ principal := by
  intro after
  by_cases here : app = identity.appId
  · subst here
    have changed : after = verdict.2.principals principal := by
      show ((s.setApp identity.appId verdict.2).apps identity.appId).principals principal = _
      rw [setApp_self]
    cases authorizes with
    | refused => exact .inl changed
    | known bound same => exact .inl changed
    | binds newer quiet =>
      by_cases same : principal = identity.principal
      · subst same
        refine .inr ⟨rfl, rfl, rfl, ?_, newer, quiet⟩
        rw [changed]
        exact Function.update_self ..
      · left
        rw [changed]
        exact Function.update_of_ne same ..
  · left
    show ((s.setApp identity.appId verdict.2).apps app).principals principal = _
    rw [setApp_other here]
    rfl

/-- A message that is authorized has its client's generation bound. -/
theorem next_authorize_bound {token : String} (accepts : s.authorizes identity app token = true) :
    identity.appId = app ∧
      ((s.next (.authorize identity app token)).bound identity.appId identity.principal).generation = identity.generation ∧
      ∀ other principal, (s.next (.authorize identity app token)).bound other principal = s.bound other principal ∨
        other = identity.appId ∧ principal = identity.principal ∧
          (s.bound identity.appId identity.principal).generation < identity.generation := by
  obtain ⟨own, verdict⟩ := Bool.and_eq_true_iff.mp accepts
  have own : identity.appId = app := of_decide_eq_true own
  subst own
  have moved : ∀ other principal, (s.next (.authorize identity identity.appId token)).bound other principal =
      (s.setApp identity.appId ((s.apps identity.appId).authorize identity token).2).bound other principal := by
    intro other principal
    unfold AgentSystem.next AgentSystem.step
    simp only [if_true]
    rfl
  have bound := authorizes_bound (authorize_authorizes identity token (s.apps identity.appId))
  refine ⟨rfl, ?_, ?_⟩
  · rw [moved]
    show (((s.setApp identity.appId _).apps identity.appId).principals identity.principal).generation = _
    rw [setApp_self]
    have authorizes := authorize_authorizes identity token (s.apps identity.appId)
    revert verdict authorizes
    generalize (s.apps identity.appId).authorize identity token = pair
    intro verdict authorizes
    cases authorizes with
    | refused => cases verdict
    | known generation same => exact generation
    | binds newer quiet =>
      show (Function.update (s.apps identity.appId).principals identity.principal _ identity.principal).generation = _
      rw [Function.update_self]
  · intro other principal
    rw [moved]
    rcases bound other principal with same | ⟨rfl, rfl, -, -, newer, -⟩
    · exact .inl same
    · exact .inr ⟨rfl, rfl, newer⟩

theorem next_authorize_refused {token : String} (refuses : s.authorizes identity app token = false) (other : AppId)
    (principal : String) : (s.next (.authorize identity app token)).bound other principal = s.bound other principal := by
  unfold AgentSystem.next AgentSystem.step
  by_cases own : identity.appId = app
  · subst own
    simp only [if_true]
    rcases authorizes_bound (authorize_authorizes identity token (s.apps identity.appId)) other principal with
      same | ⟨-, -, accepts, -⟩
    · exact same
    · simp [AgentSystem.authorizes, accepts] at refuses
  · simp only [own, if_false]

/-- Any step's change of a binding: to a newer generation, of a principal without an
    active turn. -/
theorem next_rebinds (s : AgentSystem) (action : Action) (app : AppId) (principal : String) :
    (s.next action).bound app principal = s.bound app principal ∨
      (s.bound app principal).generation < ((s.next action).bound app principal).generation ∧
        ∀ active, (s.apps app).active = some active → active.principal ≠ principal := by
  have moves : Moves s action (s.next action) _ := moves_step s action
  by_cases other : ∀ identity app token, action ≠ .authorize identity app token
  · exact .inl (moves_bound moves other app principal)
  · revert moves
    generalize s.next action = t
    generalize (s.step action).2 = asked
    intro moves
    cases moves with
    | stays => exact .inl rfl
    | authorizes identity token verdict authorizes =>
      rcases authorizes_bound authorizes app principal with same | ⟨rfl, rfl, -, now, newer, quiet⟩
      · exact .inl same
      · refine .inr ⟨?_, quiet⟩
        show _ < ((s.setApp identity.appId verdict.2).bound identity.appId identity.principal).generation
        rw [now]
        exact newer
    | _ => exact absurd (by simp) other

/-- The tokens that have been accepted are those of the bindings. -/
structure Tokens (s : AgentSystem) : Prop where
  older : ∀ a ∈ s.accepted, a.generation ≤ (s.bound a.app a.principal).generation
  current : ∀ a ∈ s.accepted, a.generation = (s.bound a.app a.principal).generation →
    a.token = (s.bound a.app a.principal).clientToken
  single : ∀ a ∈ s.accepted, ∀ b ∈ s.accepted, a.app = b.app → a.principal = b.principal → a.generation = b.generation →
    a.token = b.token
  bound : ∀ app principal, (s.bound app principal).generation ≠ 0 →
    ⟨app, principal, (s.bound app principal).generation, (s.bound app principal).clientToken⟩ ∈ s.accepted

theorem claimed_accepted (s : AgentSystem) (n : Nat) (call : StartCall) (claim : AppState.Claim) :
    (s.claimed n call claim).accepted = s.accepted := by
  unfold AgentSystem.claimed
  cases claim.result with
  | again c => rfl
  | refused code => rfl
  | began => rfl

theorem advance_accepted (s : AgentSystem) (n : Nat) (call : StartCall) (answer : Answer) :
    (s.advance n call answer).1.accepted = s.accepted := by
  unfold AgentSystem.advance
  cases call.stage with
  | looking =>
    cases (s.apps call.request.app).look call.request.lane with
    | clear => rfl
    | preempt c => rfl
    | busy => rfl
  | signalling c => rfl
  | polling =>
    simp only
    by_cases late : answer.timedOut = true
    · rw [if_pos late]
      rfl
    · rw [if_neg late]
      by_cases free : (s.apps call.request.app).active.isNone = true
      · rw [if_pos free]
        rfl
      · rw [if_neg free]
  | claiming => exact claimed_accepted s n call _
  | returned result => rfl

theorem moves_accepted (moves : Moves s action t calls)
    (other : ∀ identity app token, action ≠ .authorize identity app token) : t.accepted = s.accepted := by
  cases moves with
  | authorizes identity token verdict authorizes => exact absurd rfl (other identity identity.appId token)
  | claims n answer call claim found claims => exact claimed_accepted s n call claim
  | waits n answer call found waits => exact advance_accepted s n call answer
  | _ => rfl

theorem tokens_initial : Tokens {} where
  older _ member := absurd member (by simp)
  current _ member := absurd member (by simp)
  single _ member := absurd member (by simp)
  bound _ _ bound := absurd rfl bound

/-- A step that leaves the bindings and the acceptances alone. -/
theorem Tokens.settle (tokens : Tokens s) (bound : ∀ app principal, t.bound app principal = s.bound app principal)
    (accepted : t.accepted = s.accepted) : Tokens t := by
  constructor
  · intro a member
    rw [accepted] at member
    rw [bound]
    exact tokens.older a member
  · intro a member same
    rw [accepted] at member
    rw [bound] at same ⊢
    exact tokens.current a member same
  · rw [accepted]
    exact tokens.single
  · intro app principal bound'
    rw [bound] at bound' ⊢
    rw [accepted]
    exact tokens.bound app principal bound'

/-- The token of the generation that is bound is accepted once more. -/
theorem Tokens.known (tokens : Tokens s) (bound : ∀ app principal, t.bound app principal = s.bound app principal)
    {a : Acceptance} (accepted : t.accepted = a :: s.accepted)
    (generation : a.generation = (s.bound a.app a.principal).generation)
    (token : a.token = (s.bound a.app a.principal).clientToken) : Tokens t := by
  -- whatever was accepted for the same generation bears the same token
  have alike : ∀ b ∈ s.accepted, b.app = a.app → b.principal = a.principal → b.generation = a.generation →
      b.token = a.token := by
    intro b member app principal same
    have current := tokens.current b member
    rw [app, principal] at current
    rw [token, current (same.trans generation)]
  constructor
  · intro b member
    rw [bound]
    rw [accepted] at member
    rcases List.mem_cons.mp member with rfl | earlier
    · exact Nat.le_of_eq generation
    · exact tokens.older b earlier
  · intro b member same
    rw [bound] at same ⊢
    rw [accepted] at member
    rcases List.mem_cons.mp member with rfl | earlier
    · exact token
    · exact tokens.current b earlier same
  · intro b member d beside app principal same
    rw [accepted] at member beside
    rcases List.mem_cons.mp member with rfl | earlier
    · rcases List.mem_cons.mp beside with rfl | earlier'
      · rfl
      · exact (alike d earlier' app.symm principal.symm same.symm).symm
    · rcases List.mem_cons.mp beside with rfl | earlier'
      · exact alike b earlier app principal same
      · exact tokens.single b earlier d earlier' app principal same
  · intro app principal bound'
    rw [bound] at bound' ⊢
    rw [accepted]
    exact List.mem_cons_of_mem _ (tokens.bound app principal bound')

/-- A newer generation is bound, with a token of its own. -/
theorem Tokens.binds (tokens : Tokens s) {a : Acceptance} (accepted : t.accepted = a :: s.accepted)
    (here : t.bound a.app a.principal = ⟨a.generation, a.token⟩)
    (others : ∀ app principal, ¬ (app = a.app ∧ principal = a.principal) → t.bound app principal = s.bound app principal)
    (newer : (s.bound a.app a.principal).generation < a.generation) : Tokens t := by
  -- what was accepted for the principal before is of an older generation
  have before : ∀ b ∈ s.accepted, b.app = a.app → b.principal = a.principal → b.generation < a.generation := by
    intro b member app principal
    have older := tokens.older b member
    rw [app, principal] at older
    exact Nat.lt_of_le_of_lt older newer
  constructor
  · intro b member
    rw [accepted] at member
    rcases List.mem_cons.mp member with rfl | earlier
    · simp [here]
    · by_cases mine : b.app = a.app ∧ b.principal = a.principal
      · rw [mine.1, mine.2, here]
        exact Nat.le_of_lt (before b earlier mine.1 mine.2)
      · rw [others _ _ mine]
        exact tokens.older b earlier
  · intro b member same
    rw [accepted] at member
    rcases List.mem_cons.mp member with rfl | earlier
    · rw [here]
    · by_cases mine : b.app = a.app ∧ b.principal = a.principal
      · rw [mine.1, mine.2, here] at same
        exact absurd same (Nat.ne_of_lt (before b earlier mine.1 mine.2))
      · rw [others _ _ mine] at same ⊢
        exact tokens.current b earlier same
  · intro b member d beside app principal same
    rw [accepted] at member beside
    rcases List.mem_cons.mp member with rfl | earlier
    · rcases List.mem_cons.mp beside with rfl | earlier'
      · rfl
      · exact absurd same.symm (Nat.ne_of_lt (before d earlier' app.symm principal.symm))
    · rcases List.mem_cons.mp beside with rfl | earlier'
      · exact absurd same (Nat.ne_of_lt (before b earlier app principal))
      · exact tokens.single b earlier d earlier' app principal same
  · intro app principal bound'
    rw [accepted]
    by_cases mine : app = a.app ∧ principal = a.principal
    · rw [mine.1, mine.2, here]
      exact List.mem_cons_self
    · rw [others _ _ mine] at bound' ⊢
      exact List.mem_cons_of_mem _ (tokens.bound app principal bound')

theorem tokens_step (tokens : Tokens s) (moves : Moves s action t calls) : Tokens t := by
  by_cases other : ∀ identity app token, action ≠ .authorize identity app token
  · exact tokens.settle (moves_bound moves other) (moves_accepted moves other)
  · cases moves with
    | authorizes identity token verdict authorizes =>
      have bound := authorizes_bound authorizes
      cases authorizes with
      | refused =>
        refine tokens.settle (fun app principal => ?_) rfl
        rcases bound app principal with same | ⟨-, -, accepts, -⟩
        · exact same
        · cases accepts
      | known generation token' =>
        refine tokens.known (fun app principal => ?_) rfl generation.symm token'.symm
        rcases bound app principal with same | ⟨rfl, rfl, -, -, newer, -⟩
        · exact same
        · exact absurd generation (Nat.ne_of_lt newer)
      | binds newer quiet =>
        refine tokens.binds rfl ?_ ?_ newer
        · show ((s.setApp identity.appId _).apps identity.appId).principals identity.principal = _
          rw [setApp_self]
          exact Function.update_self ..
        · intro app principal different
          rcases bound app principal with same | ⟨here, mine, -⟩
          · exact same
          · exact absurd ⟨here, mine⟩ different
    | stays action => exact tokens
    | _ => exact absurd (by simp) other

/-! ## Starts that were authorized -/

/-- The connection has a start that was authorized and has yet to return. -/
def AgentSystem.awaits (s : AgentSystem) (n : Nat) (conn : Connection) : Bool :=
  match conn.stage with
  | .dispatching message => message.ask.starts
  | .starting => !s.idle n
  | _ => false

/-- The message that the connection is about to have authorized. -/
def Connection.asking (conn : Connection) : Option ClientMessage :=
  match conn.stage with
  | .authorizing message => some message
  | _ => none

/-- The step binds no newer client of a principal while a start of an older one is on its
    way. -/
def Service.Unraced (s : Service) : Event → Prop
  | .proceed n _ => ∀ conn ∈ s.connections[n]?, ∀ message ∈ conn.asking,
      s.agents.authorizes conn.identity message.app message.token = true →
      (s.agents.bound conn.identity.appId conn.identity.principal).generation < conn.identity.generation →
      ∀ m < s.connections.length, ∀ other ∈ s.connections[m]?, s.agents.awaits m other = true →
        other.identity.appId = conn.identity.appId → other.identity.principal ≠ conn.identity.principal
  | _ => True

instance (s : Service) : (event : Event) → Decidable (s.Unraced event)
  | .proceed n _ => inferInstanceAs (Decidable (∀ conn ∈ s.connections[n]?, ∀ message ∈ conn.asking,
      s.agents.authorizes conn.identity message.app message.token = true →
      (s.agents.bound conn.identity.appId conn.identity.principal).generation < conn.identity.generation →
      ∀ m < s.connections.length, ∀ other ∈ s.connections[m]?, s.agents.awaits m other = true →
        other.identity.appId = conn.identity.appId → other.identity.principal ≠ conn.identity.principal))
  | .connect _ | .message .. | .hangUp _ | .broken _ | .ends _ | .clears _ => isTrue trivial

/-- What is so of each connection: a start of its client's is on its way only while the
    client's generation is bound. -/
structure Cleared (s : Service) : Prop where
  unused : ∀ n, s.connections.length ≤ n → s.agents.calls n = none
  idle : ∀ (n : Nat) conn, s.connections[n]? = some conn → conn.stage ≠ .starting → s.agents.idle n = true
  bound : ∀ (n : Nat) conn, s.connections[n]? = some conn → s.agents.awaits n conn = true →
    (s.agents.bound conn.identity.appId conn.identity.principal).generation = conn.identity.generation

variable {r : Service} {conn : Connection} {n : Nat} {event : Event}

theorem idle_of_calls (same : t.calls n = s.calls n) : t.idle n = s.idle n := by
  unfold AgentSystem.idle
  rw [same]

theorem awaits_of_calls (same : t.calls n = s.calls n) (conn : Connection) : t.awaits n conn = s.awaits n conn := by
  unfold AgentSystem.awaits
  rw [idle_of_calls same]

theorem idle_going {call : StartCall} (held : s.calls n = some call) (going : ∀ result, call.stage ≠ .returned result) :
    s.idle n = false := by
  unfold AgentSystem.idle
  rw [held]
  cases status : call.stage with
  | returned result => exact absurd status (going result)
  | _ => simp [status]

theorem awaits_starting (stage : conn.stage = .starting) : s.awaits n conn = !s.idle n := by
  simp [AgentSystem.awaits, stage]

theorem awaits_dispatching {message : ClientMessage} (stage : conn.stage = .dispatching message) :
    s.awaits n conn = message.ask.starts := by
  simp [AgentSystem.awaits, stage]

/-- A change of one connection and of its call. -/
theorem Cleared.change (cleared : Cleared r) (found : r.connections[n]? = some conn) {later : Connection} {t : AgentSystem}
    (others : ∀ m, m ≠ n → t.calls m = r.agents.calls m)
    (bound : ∀ (m : Nat) other, m ≠ n → r.connections[m]? = some other → r.agents.awaits m other = true →
      t.bound other.identity.appId other.identity.principal = r.agents.bound other.identity.appId other.identity.principal)
    (idle : later.stage ≠ .starting → t.idle n = true)
    (awaits : t.awaits n later = true →
      (t.bound later.identity.appId later.identity.principal).generation = later.identity.generation) :
    Cleared ({ r with agents := t }.put n later) := by
  have found' : ({ r with agents := t } : Service).connections[n]? = some conn := found
  constructor
  · intro m within
    have beyond : r.connections.length ≤ m := by simpa [Service.put] using within
    have different : m ≠ n := by
      rintro rfl
      exact absurd (List.getElem?_eq_some_iff.mp found).1 (Nat.not_lt.mpr beyond)
    exact (others m different).trans (cleared.unused m beyond)
  · intro m other held stage
    rcases put_get found' later held with ⟨rfl, rfl⟩ | ⟨different, before⟩
    · exact idle stage
    · exact (idle_of_calls (others m different)).trans (cleared.idle m other before stage)
  · intro m other held waits
    rcases put_get found' later held with ⟨rfl, rfl⟩ | ⟨different, before⟩
    · exact awaits waits
    · have waits : r.agents.awaits m other = true := (awaits_of_calls (others m different) other).symm.trans waits
      exact (congrArg _ (bound m other different before waits)).trans (cleared.bound m other before waits)

/-- A connection that goes on without a start of its own. -/
theorem Cleared.restage (cleared : Cleared r) (found : r.connections[n]? = some conn) {later : Connection} {t : AgentSystem}
    (calls : t.calls = r.agents.calls) (bound : ∀ app principal, t.bound app principal = r.agents.bound app principal)
    (idle : r.agents.idle n = true) (waits : t.awaits n later = false) :
    Cleared ({ r with agents := t }.put n later) := by
  refine cleared.change found (fun m _ => congrFun calls m) (fun _ _ _ _ _ => bound ..) ?_ ?_
  · intro _
    rw [idle_of_calls (congrFun calls n)]
    exact idle
  · intro awaits
    rw [waits] at awaits
    cases awaits

theorem cleared_initial : Cleared {} where
  unused _ _ := rfl
  idle _ _ found := absurd found (by simp)
  bound _ _ found := absurd found (by simp)

/-- Where the connections are left alone, and the calls and bindings too. -/
theorem Cleared.agents (cleared : Cleared r) {t : AgentSystem} (calls : t.calls = r.agents.calls)
    (bound : ∀ app principal, t.bound app principal = r.agents.bound app principal) (tasks : List TurnTask) :
    Cleared { r with agents := t, tasks } := by
  constructor
  · intro m within
    exact (congrFun calls m).trans (cleared.unused m within)
  · intro m other held stage
    exact (idle_of_calls (congrFun calls m)).trans (cleared.idle m other held stage)
  · intro m other held waits
    have waits : r.agents.awaits m other = true := (awaits_of_calls (congrFun calls m) other).symm.trans waits
    exact (congrArg _ (bound _ _)).trans (cleared.bound m other held waits)

/-- A new connection has no call yet. -/
theorem Cleared.connect (cleared : Cleared r) (identity : ClientIdentity) :
    Cleared { r with connections := r.connections ++ [{ identity }] } := by
  have either : ∀ (m : Nat) other, (r.connections ++ [({ identity } : Connection)])[m]? = some other →
      r.connections[m]? = some other ∨ m = r.connections.length ∧ other = ({ identity } : Connection) := by
    intro m other held
    by_cases older : m < r.connections.length
    · rw [List.getElem?_append_left older] at held
      exact .inl held
    · have within := (List.getElem?_eq_some_iff.mp held).1
      rw [List.length_append, List.length_singleton] at within
      have last : m = r.connections.length := Nat.le_antisymm (Nat.le_of_lt_succ within) (Nat.not_lt.mp older)
      subst last
      rw [List.getElem?_concat_length] at held
      exact .inr ⟨rfl, (Option.some.inj held).symm⟩
  constructor
  · intro m within
    refine cleared.unused m (Nat.le_trans ?_ within)
    simp
  · intro m other held stage
    rcases either m other held with before | ⟨rfl, rfl⟩
    · exact cleared.idle m other before stage
    · unfold AgentSystem.idle
      simp [cleared.unused _ (Nat.le_refl _)]
  · intro m other held waits
    rcases either m other held with before | ⟨rfl, rfl⟩
    · exact cleared.bound m other before waits
    · cases waits

/-- An authorization, which may bind a newer generation. -/
theorem Cleared.authorize (cleared : Cleared r) (found : r.connections[n]? = some conn) {message : ClientMessage}
    (stage : conn.stage = .authorizing message) {answer : Answer} (unraced : r.Unraced (.proceed n answer)) :
    Cleared ({ r with agents := r.agents.next (.authorize conn.identity message.app message.token) }.put n
      (if r.agents.authorizes conn.identity message.app message.token then Service.represent conn message
       else { conn with stage := .reading })) := by
  have still : Still r.agents (r.agents.next (.authorize conn.identity message.app message.token)) :=
    next_authorize_still conn.identity message.app message.token
  have idle := (idle_of_calls (congrFun still.calls n)).trans (cleared.idle n conn found (by simp [stage]))
  by_cases accepts : r.agents.authorizes conn.identity message.app message.token = true
  · rw [if_pos accepts]
    obtain ⟨own, now, others⟩ := next_authorize_bound accepts
    have asking : conn.asking = some message := by simp [Connection.asking, stage]
    have racing := unraced conn (Option.mem_def.mpr found) message (Option.mem_def.mpr asking) accepts
    have identity : (Service.represent conn message).identity = conn.identity := by
      unfold Service.represent
      split <;> rfl
    refine cleared.change found (fun m _ => congrFun still.calls m) ?_ (fun _ => idle) ?_
    · intro m other different held waits
      rcases others other.identity.appId other.identity.principal with same | ⟨app, principal, newer⟩
      · exact same
      · have within := (List.getElem?_eq_some_iff.mp held).1
        exact absurd principal (racing newer m within other (Option.mem_def.mpr held) waits app)
    · intro _
      rw [identity]
      exact now
  · rw [if_neg accepts]
    exact cleared.restage found still.calls (next_authorize_refused (Bool.eq_false_iff.mpr accepts))
      (cleared.idle n conn found (by simp [stage])) rfl

/-- A step of the connection's start, while its client's generation is bound. -/
theorem Cleared.call (cleared : Cleared r) (found : r.connections[n]? = some conn) {later : Connection} {t : AgentSystem}
    (identity : later.identity = conn.identity) (stage : later.stage = .starting)
    (others : ∀ m, m ≠ n → t.calls m = r.agents.calls m)
    (bound : ∀ app principal, t.bound app principal = r.agents.bound app principal)
    (waits : r.agents.awaits n conn = true) : Cleared ({ r with agents := t }.put n later) := by
  refine cleared.change found others (fun _ _ _ _ _ => bound ..) (fun open' => absurd stage open') ?_
  intro _
  rw [identity, bound]
  exact cleared.bound n conn found waits

/-- What holds of the connections goes on to hold in a step without a race. -/
theorem cleared_goes (cleared : Cleared r) (unraced : r.Unraced event) {later : Service} (goes : Goes r event later) :
    Cleared later := by
  cases goes with
  | stays => exact cleared
  | connects identity => exact cleared.connect identity
  | reads n conn message found stage =>
    exact cleared.restage found rfl (fun _ _ => rfl) (cleared.idle n conn found (by simp [stage])) rfl
  | hangsUp n conn found stage =>
    exact cleared.restage found rfl (fun _ _ => rfl) (cleared.idle n conn found (by simp [stage])) rfl
  | breaks n conn found stage =>
    exact cleared.restage found rfl (fun _ _ => rfl) (cleared.idle n conn found (by simp [stage])) rfl
  | authorizes n conn message answer found stage => exact cleared.authorize found stage unraced
  | acts n conn message action answer found stage calm =>
    have other : ∀ identity app token, action ≠ .authorize identity app token := by
      rintro identity app token rfl
      exact calm
    exact cleared.restage found (next_still calm).calls (next_bound other)
      (cleared.idle n conn found (by simp [stage])) rfl
  | declines n conn answer found stage =>
    have idle : r.agents.idle n = true := by
      rcases stage with ⟨message, stage⟩ | ⟨stage, failed⟩
      · exact cleared.idle n conn found (by simp [stage])
      · unfold AgentSystem.idle
        cases held : r.agents.calls n with
        | none => rfl
        | some call =>
          obtain ⟨code, error⟩ := failed call (Option.mem_def.mpr held)
          simp [error]
    exact cleared.restage found rfl (fun _ _ => rfl) idle rfl
  | starts n conn message request answer found stage app principal asks =>
    have waits : r.agents.awaits n conn = true := (awaits_dispatching stage).trans asks
    obtain ⟨call, moved, -⟩ := next_start (cleared.idle n conn found (by simp [stage])) request answer.available
    refine cleared.call found rfl rfl ?_ (next_bound (by simp)) waits
    intro m different
    rw [moved]
    exact Function.update_of_ne different ..
  | calls n conn call answer found stage held going =>
    have waits : r.agents.awaits n conn = true := by
      rw [awaits_starting stage, idle_going held going]
      rfl
    exact cleared.call found rfl stage (next_proceed held going answer).others (next_bound (by simp)) waits
  | returns n conn call c answer found stage held ok =>
    have idle : r.agents.idle n = true := by
      unfold AgentSystem.idle
      simp [held, ok]
    exact cleared.restage found rfl (fun _ _ => rfl) idle rfl
  | spawns n conn c app turnId answer found stage =>
    have idle := cleared.idle n conn found (by simp [stage])
    have after := cleared.agents rfl (fun _ _ => rfl) ({ channel := c, connection := n, app, turnId } :: r.tasks)
    exact after.restage found rfl (fun _ _ => rfl) idle rfl
  | leaves n conn answer found stage owned =>
    exact cleared.restage found rfl (fun _ _ => rfl) (cleared.idle n conn found (by simp [stage])) rfl
  | takes n conn app turnId answer found stage owned =>
    exact cleared.restage found rfl (fun _ _ => rfl) (cleared.idle n conn found (by simp [stage])) rfl
  | closes n conn app turnId answer found stage =>
    have calm : (Action.cancel app turnId).Calm := trivial
    exact cleared.restage found (next_still calm).calls (next_bound (by simp))
      (cleared.idle n conn found (by simp [stage])) rfl
  | ends c task member channel carrying =>
    have calls : (r.agents.next (.finish task.app task.turnId)).calls = r.agents.calls := rfl
    exact cleared.agents calls (next_bound (by simp)) _
  | clears c task member channel clearing =>
    rcases clearOwned_cases task r with ⟨same, -⟩ | ⟨conn, found, -, put⟩
    · rw [same]
      exact cleared.agents rfl (fun _ _ => rfl) _
    · rw [put]
      have after : Cleared (r.put task.connection { conn with owned := none }) := by
        refine cleared.change found (fun _ _ => rfl) (fun _ _ _ _ _ => rfl) (cleared.idle _ conn found) ?_
        intro waits
        exact cleared.bound _ conn found waits
      exact after.agents rfl (fun _ _ => rfl) _

/-! ## Every run -/

/-- A step of the service is at most one of the turns. -/
theorem goes_agents {later : Service} (goes : Goes r event later) :
    later.agents = r.agents ∨ ∃ action, later.agents = r.agents.next action := by
  cases goes with
  | authorizes n conn message answer found stage => exact .inr ⟨_, rfl⟩
  | acts n conn message action answer found stage calm => exact .inr ⟨_, rfl⟩
  | starts n conn message request answer found stage app principal asks => exact .inr ⟨_, rfl⟩
  | calls n conn call answer found stage held going => exact .inr ⟨_, rfl⟩
  | closes n conn app turnId answer found stage => exact .inr ⟨_, rfl⟩
  | ends c task member channel carrying => exact .inr ⟨_, rfl⟩
  | clears c task member channel clearing =>
    left
    unfold Service.clearOwned
    split
    · rfl
    · split <;> rfl
  | _ => exact .inl rfl

/-- A turn begins in a step of its connection's start. -/
theorem goes_begins {later : Service} (goes : Goes r event later) :
    later.agents.turns = r.agents.turns ∨
      ∃ n conn call turn, r.connections[n]? = some conn ∧ conn.stage = .starting ∧ r.agents.calls n = some call ∧
        r.agents.idle n = false ∧ later.agents.turns = r.agents.turns ++ [turn] ∧ turn.caller = n ∧
        turn.app = call.request.app ∧ turn.principal = call.request.principal := by
  cases goes with
  | authorizes n conn message answer found stage =>
    exact .inl (next_authorize_still conn.identity message.app message.token).turns
  | acts n conn message action answer found stage calm => exact .inl (next_still calm).turns
  | starts n conn message request answer found stage app principal asks =>
    left
    show (r.agents.next (.start n request answer.available)).turns = _
    unfold AgentSystem.next AgentSystem.step
    by_cases idle : r.agents.idle n = true
    · simp only [idle, if_true]
      rfl
    · simp only [idle]
      rfl
  | calls n conn call answer found stage held going =>
    obtain ⟨after, -, -, goes⟩ := (next_proceed held going answer).later
    rcases goes with ⟨turns, -⟩ | ⟨-, -, -, turn, turns, caller, app, -, principal⟩
    · exact .inl turns
    · exact .inr ⟨n, conn, call, turn, found, stage, held, idle_going held going, turns, caller, app, principal⟩
  | closes n conn app turnId answer found stage =>
    have calm : (Action.cancel app turnId).Calm := trivial
    exact .inl (next_still calm).turns
  | ends c task member channel carrying => exact .inl rfl
  | clears c task member channel clearing =>
    left
    unfold Service.clearOwned
    split
    · rfl
    · split <;> rfl
  | _ => exact .inl rfl

/-- How generations, tokens and turns stand in the state, and in a step from it. -/
structure Fenced (s : Service) (event : Event) : Prop where
  rises : ∀ app principal, (s.agents.bound app principal).generation ≤ ((s.next event).agents.bound app principal).generation
  /-- One token is accepted for a generation. -/
  single : ∀ a ∈ s.agents.accepted, ∀ b ∈ s.agents.accepted, a.app = b.app → a.principal = b.principal →
    a.generation = b.generation → a.token = b.token
  /-- The token of the generation that is bound was accepted. -/
  accepted : ∀ app principal, (s.agents.bound app principal).generation ≠ 0 →
    ⟨app, principal, (s.agents.bound app principal).generation, (s.agents.bound app principal).clientToken⟩ ∈
      s.agents.accepted
  quiet : ∀ app principal, (s.next event).agents.bound app principal ≠ s.agents.bound app principal →
    ∀ active, (s.agents.apps app).active = some active → active.principal ≠ principal
  /-- A turn that begins is that of a client whose generation is bound. -/
  begins : ∀ (c : Nat) (turn : Turn), (s.next event).agents.turns[c]? = some turn → s.agents.turns[c]? = none →
    ∃ conn : Connection, s.connections[turn.caller]? = some conn ∧ turn.app = conn.identity.appId ∧
      turn.principal = conn.identity.principal ∧
      (s.agents.bound turn.app turn.principal).generation = conn.identity.generation

/-- What is so in every run without a race. -/
structure Guarded (s : Service) : Prop where
  cleared : Cleared s
  identified : Identified s
  tokens : Tokens s.agents

theorem guarded_initial : Guarded {} := ⟨cleared_initial, identified_initial, tokens_initial⟩

theorem guarded_next (guarded : Guarded r) (unraced : r.Unraced event) : Guarded (r.next event) := by
  have goes := Service.goes_next r event
  refine ⟨cleared_goes guarded.cleared unraced goes, identified_goes guarded.identified guarded.cleared.idle goes, ?_⟩
  rcases goes_agents goes with same | ⟨action, moved⟩
  · rw [same]
    exact guarded.tokens
  · rw [moved]
    exact tokens_step guarded.tokens (moves_step r.agents action)

theorem Guarded.fenced (guarded : Guarded r) (event : Event) : Fenced r event := by
  have goes := Service.goes_next r event
  -- how the step moves a binding, if it does
  have rebinds : ∀ app principal, (r.next event).agents.bound app principal = r.agents.bound app principal ∨
      (r.agents.bound app principal).generation < ((r.next event).agents.bound app principal).generation ∧
        ∀ active, (r.agents.apps app).active = some active → active.principal ≠ principal := by
    intro app principal
    rcases goes_agents goes with same | ⟨action, moved⟩
    · exact .inl (by rw [same])
    · rw [moved]
      exact next_rebinds r.agents action app principal
  constructor
  · intro app principal
    rcases rebinds app principal with same | ⟨newer, -⟩
    · exact Nat.le_of_eq (by rw [same])
    · exact Nat.le_of_lt newer
  · exact guarded.tokens.single
  · exact guarded.tokens.bound
  · intro app principal moved
    rcases rebinds app principal with same | ⟨-, quiet⟩
    · exact absurd same moved
    · exact quiet
  · intro c turn listed unlisted
    rcases goes_begins goes with turns | ⟨n, conn, call, begun, found, stage, held, going, turns, rfl, app, principal⟩
    · rw [turns, unlisted] at listed
      cases listed
    · have same : turn = begun := by
        rw [turns, List.getElem?_append_right (List.getElem?_eq_none_iff.mp unlisted)] at listed
        exact List.mem_singleton.mp (List.mem_of_getElem? listed)
      subst same
      obtain ⟨app', principal'⟩ := guarded.identified.starting _ conn call found stage held
      have waits : r.agents.awaits turn.caller conn = true := by
        rw [awaits_starting stage, going]
        rfl
      have bound := guarded.cleared.bound _ conn found waits
      rw [← app', ← principal', ← app, ← principal] at bound
      exact ⟨conn, found, app.trans app', principal.trans principal', bound⟩

/-- In every run of any number of connections in which no newer client is bound while an
    older one's start is on its way, generations, tokens and turns are fenced. -/
theorem generations_fenced {events : List Event} (unraced : Runs.Along Service.next Service.Unraced {} events)
    (event : Event) : Fenced (events.foldl Service.next {}) event := by
  have guarded : Guarded (events.foldl Service.next {}) :=
    unraced.invariant Guarded (fun s event guarded unraced => guarded_next guarded unraced) guarded_initial
  exact guarded.fenced event

/-- A client of the seventh generation has its start authorized, and one of the eighth is
    bound before the start claims its turn. -/
def raced : List Event :=
  [.connect ⟨magicpaper, 7, "foreground"⟩, .connect ⟨magicpaper, 8, "foreground"⟩, .message 0 (startMessage "r1"),
    .proceed 0 {}, .message 1 ⟨magicpaper, clientToken '2', .other⟩, .proceed 1 {}, .proceed 0 {}, .proceed 0 {}]

theorem generations_fenced_connected :
    let s := (connected.take 5).foldl Service.next {}
    s.agents.turns = [] ∧ (s.next (.proceed 0 {})).agents.turns = [activeTurn] ∧ Fenced s (.proceed 0 {}) :=
  ⟨by decide +kernel, by decide +kernel, generations_fenced (by decide +kernel) (.proceed 0 {})⟩

/-- A client of a superseded generation gets a turn running. -/
theorem raced_starts_superseded : ¬ ∀ (events : List Event) (event : Event), Fenced (events.foldl Service.next {}) event := by
  intro claimed
  have begun : ((raced.foldl Service.next {}).next (.proceed 0 {})).agents.turns[0]? = some activeTurn ∧
      (raced.foldl Service.next {}).agents.turns[0]? = none := by decide +kernel
  obtain ⟨conn, found, -, -, bound⟩ := (claimed raced (.proceed 0 {})).begins 0 activeTurn begun.1 begun.2
  have client : (raced.foldl Service.next {}).connections[0]?.map (fun conn => conn.identity.generation) = some 7 := by
    decide +kernel
  have newer : ((raced.foldl Service.next {}).agents.bound activeTurn.app activeTurn.principal).generation = 8 := by
    decide +kernel
  have caller : activeTurn.caller = 0 := rfl
  rw [caller] at found
  rw [found, Option.map_some, ← bound, newer] at client
  exact absurd client (by decide)

end Remagic.Agent
