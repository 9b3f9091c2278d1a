import Mathlib.Tactic.Common
import Remagic.AgentState
import Remagic.Runs

/-!
# One turn at a time

In whatever order starts, finishes, cancels, reloads and session resets take their
turns, an application has one active turn at a time, its worker is left alone, and
only a turn that gives way to the user's is told to stop.
-/

namespace Remagic.Agent

variable {app : AppId} {request : StartRequest} {fresh : WorkerHandle} {c : Channel} {state : AppState} {n : Nat}
  {s : AgentSystem}

/-! ## What a claim does -/

/-- The ways in which a claim may end. -/
inductive Claims (request : StartRequest) (fresh : WorkerHandle) (c : Channel) (state : AppState) :
    AppState.Claim → Prop where
  | again (active : ActiveTurn) (found : state.active = some active) (asks : request.lane = .interactive)
      (yields : active.lane ≠ .interactive) : Claims request fresh c state { state, result := .again active.cancel }
  | busy (active : ActiveTurn) (found : state.active = some active) :
      Claims request fresh c state { state, result := .refused .busy }
  | failed (free : state.active = none) :
      Claims request fresh c state
        { state := state.retire, calls := state.retireCalls, result := .refused .backendFailed }
  | reused (worker : WorkerHandle) (free : state.active = none) (kept : state.worker = some worker) :
      Claims request fresh c state { state := state.occupy request c, result := .began }
  | spawned (free : state.active = none) :
      Claims request fresh c state
        { state := { state with worker := some fresh }.occupy request c, calls := state.retireCalls ++ [.spawn fresh],
          result := .began }

theorem retire_engaged (free : state.active = none) (spawns : Bool) :
    Claims request fresh c state (state.retire.engage request spawns fresh c state.retireCalls) := by
  cases spawns with
  | true => exact .spawned free
  | false => exact .failed free

theorem engage_claims (free : state.active = none) (spawns : Bool) :
    Claims request fresh c state (state.engage request spawns fresh c []) := by
  cases kept : state.worker with
  | some worker =>
    unfold AppState.engage
    rw [kept]
    exact .reused worker free kept
  | none =>
    have calls : state.retireCalls = [] := by simp [AppState.retireCalls, kept]
    have same : state.retire = state := by
      unfold AppState.retire
      rw [← kept]
    have engaged : Claims request fresh c state _ := retire_engaged free spawns
    rw [calls, same] at engaged
    exact engaged

theorem claim_claims (answer : Answer) : Claims request fresh c state (state.claim request answer fresh c) := by
  unfold AppState.claim
  cases found : state.active with
  | some active =>
    by_cases gives : request.lane = .interactive ∧ active.lane ≠ .interactive
    · simp only [gives, and_self, if_true, ne_eq, not_false_eq_true]
      exact .again active found gives.1 gives.2
    · simp only [gives, if_false]
      exact .busy active found
  | none =>
    by_cases changed : state.workerChanged request answer.closed = true
    · simp only [changed, if_true]
      exact retire_engaged found answer.spawns
    · simp only [changed]
      exact engage_claims found answer.spawns

/-! ## What holds between the steps -/

/-- A turn that was started and that no finish has cleared. -/
def AgentSystem.Unfinished (s : AgentSystem) (c : Channel) (turn : Turn) : Prop :=
  s.turns[c]? = some turn ∧ c ∉ s.ended

/-- A turn in the call's application that is not the user's, while the call is. -/
def AgentSystem.GivesWay (s : AgentSystem) (call : StartCall) (c : Channel) : Prop :=
  ∃ turn, s.turns[c]? = some turn ∧ turn.app = call.request.app ∧ turn.lane ≠ .interactive ∧
    call.request.lane = .interactive

/-- Whatever the call found gives way to it, and it signals only what it found. -/
structure AgentSystem.Fair (s : AgentSystem) (call : StartCall) : Prop where
  found : ∀ c ∈ call.found, s.GivesWay call c
  signals : ∀ c, call.stage = .signalling c → c ∈ call.found

/-- The record has the active turn of the application as it is. -/
structure Records (s : AgentSystem) (app : AppId) (active : ActiveTurn) (turn : Turn) : Prop where
  unfinished : s.Unfinished active.cancel turn
  worker : (s.apps app).worker = some turn.worker
  app : turn.app = app
  id : turn.id = active.id
  lane : turn.lane = active.lane

structure Sound (s : AgentSystem) : Prop where
  recorded : ∀ app active, (s.apps app).active = some active → ∃ turn, Records s app active turn
  active : ∀ c turn, s.Unfinished c turn → ∃ active, (s.apps turn.app).active = some active ∧ active.cancel = c
  fresh : ∀ app worker, (s.apps app).worker = some worker → worker < s.workers
  apart : ∀ app other worker, (s.apps app).worker = some worker → (s.apps other).worker = some worker → app = other
  ended : ∀ c ∈ s.ended, c < s.turns.length
  fair : ∀ n call, s.calls n = some call → s.Fair call

variable {t : AgentSystem} {turn : Turn} {call : StartCall} {calls : List WorkerCall} {claim : AppState.Claim}
  {action : Action} {worker : WorkerHandle}

/-- An unfinished turn is the one that is active, with its worker. -/
theorem Sound.records (sound : Sound s) (unfinished : s.Unfinished c turn) :
    ∃ active, (s.apps turn.app).active = some active ∧ active.cancel = c ∧ Records s turn.app active turn := by
  obtain ⟨active, found, same⟩ := sound.active c turn unfinished
  obtain ⟨recorded, records⟩ := sound.recorded turn.app active found
  have equal : recorded = turn := by
    have left := records.unfinished.1
    rw [same, unfinished.1] at left
    exact (Option.some.inj left).symm
  subst equal
  exact ⟨active, found, same, records⟩

/-- The application of an unfinished turn has no other. -/
theorem Sound.single (sound : Sound s) {d : Channel} {other : Turn} (unfinished : s.Unfinished c turn)
    (beside : s.Unfinished d other) (same : turn.app = other.app) : c = d := by
  obtain ⟨active, found, rfl⟩ := sound.active c turn unfinished
  obtain ⟨active', found', rfl⟩ := sound.active d other beside
  rw [← same, found] at found'
  rw [Option.some.inj found']

theorem AgentSystem.Fair.of_turns (fair : s.Fair call) (kept : s.turns <+: t.turns) : t.Fair call := by
  refine ⟨?_, fair.signals⟩
  intro c member
  obtain ⟨turn, found, rest⟩ := fair.found c member
  obtain ⟨later, joined⟩ := kept
  refine ⟨turn, ?_, rest⟩
  rw [← joined, List.getElem?_append_left (List.getElem?_eq_some_iff.mp found).1]
  exact found

/-- A step that begins and ends no turn, and takes the worker at most of an application
    without one. -/
theorem Sound.settle (sound : Sound s) (turns : t.turns = s.turns) (ended : t.ended = s.ended)
    (workers : s.workers ≤ t.workers)
    (apps : ∀ app, (t.apps app).active = (s.apps app).active ∧
      ((t.apps app).worker = (s.apps app).worker ∨ (s.apps app).active = none ∧ (t.apps app).worker = none))
    (fair : ∀ n call, t.calls n = some call → s.Fair call) : Sound t := by
  have unfinished : ∀ c turn, t.Unfinished c turn ↔ s.Unfinished c turn := by
    intro c turn
    unfold AgentSystem.Unfinished
    rw [turns, ended]
  have kept : ∀ app worker, (t.apps app).worker = some worker → (s.apps app).worker = some worker := by
    intro app worker found
    rcases (apps app).2 with same | ⟨_, gone⟩
    · rw [← same]
      exact found
    · rw [gone] at found
      cases found
  constructor
  · intro app active found
    rw [(apps app).1] at found
    obtain ⟨turn, records⟩ := sound.recorded app active found
    refine ⟨turn, (unfinished _ _).mpr records.unfinished, ?_, records.app, records.id, records.lane⟩
    rcases (apps app).2 with same | ⟨free, _⟩
    · rw [same]
      exact records.worker
    · rw [free] at found
      cases found
  · intro c turn open'
    rw [(apps turn.app).1]
    exact sound.active c turn ((unfinished c turn).mp open')
  · intro app worker found
    exact Nat.lt_of_lt_of_le (sound.fresh app worker (kept app worker found)) workers
  · intro app other worker found beside
    exact sound.apart app other worker (kept app worker found) (kept other worker beside)
  · rw [ended, turns]
    exact sound.ended
  · intro n call found
    exact (fair n call found).of_turns (turns ▸ List.prefix_refl _)

/-- A claim that begins a turn where none is active, with the worker that is there or a
    fresh one. -/
theorem Sound.began (sound : Sound s) {app : AppId} {active : ActiveTurn} (free : (s.apps app).active = none)
    (turns : t.turns = s.turns ++ [turn]) (ended : t.ended = s.ended) (workers : s.workers < t.workers)
    (others : ∀ other, other ≠ app → t.apps other = s.apps other) (now : (t.apps app).active = some active)
    (channel : active.cancel = s.turns.length) (same : turn.app = app) (id : turn.id = active.id)
    (lane : turn.lane = active.lane) (served : (t.apps app).worker = some turn.worker)
    (worker : (s.apps app).worker = some turn.worker ∨ turn.worker = s.workers)
    (fair : ∀ n call, t.calls n = some call → s.Fair call) : Sound t := by
  have older : ∀ c, c < s.turns.length → t.turns[c]? = s.turns[c]? := by
    intro c below
    rw [turns, List.getElem?_append_left below]
  have latest : t.turns[s.turns.length]? = some turn := by simp [turns]
  have unended : s.turns.length ∉ s.ended := fun member => Nat.lt_irrefl _ (sound.ended _ member)
  have elsewhere : ∀ other worker, other ≠ app → (s.apps other).worker = some worker → worker ≠ turn.worker := by
    rintro other worker different found rfl
    rcases worker with mine | new
    · exact different (sound.apart other app _ found mine)
    · have below := sound.fresh other _ found
      rw [new] at below
      exact absurd below (Nat.lt_irrefl _)
  constructor
  · intro other active' found
    by_cases here : other = app
    · subst here
      rw [now] at found
      cases found
      refine ⟨turn, ⟨?_, ?_⟩, served, same, id, lane⟩
      · rw [channel]
        exact latest
      · rw [channel, ended]
        exact unended
    · rw [others other here] at found
      obtain ⟨turn, records⟩ := sound.recorded other active' found
      refine ⟨turn, ⟨?_, ?_⟩, ?_, records.app, records.id, records.lane⟩
      · rw [older _ (List.getElem?_eq_some_iff.mp records.unfinished.1).1]
        exact records.unfinished.1
      · rw [ended]
        exact records.unfinished.2
      · rw [others other here]
        exact records.worker
  · rintro c other ⟨found, going⟩
    rw [ended] at going
    by_cases below : c < s.turns.length
    · rw [older c below] at found
      obtain ⟨active', held, channel'⟩ := sound.active c other ⟨found, going⟩
      have elsewhere : other.app ≠ app := by
        rintro rfl
        rw [free] at held
        cases held
      rw [others _ elsewhere]
      exact ⟨active', held, channel'⟩
    · have within := (List.getElem?_eq_some_iff.mp found).1
      rw [turns, List.length_append, List.length_singleton] at within
      have last : c = s.turns.length := Nat.le_antisymm (Nat.le_of_lt_succ within) (Nat.not_lt.mp below)
      subst last
      rw [latest] at found
      cases found
      rw [same]
      exact ⟨active, now, channel⟩
  · intro other worker' found
    by_cases here : other = app
    · subst here
      rw [served] at found
      cases found
      rcases worker with mine | new
      · exact Nat.lt_trans (sound.fresh _ _ mine) workers
      · rw [new]
        exact workers
    · rw [others other here] at found
      exact Nat.lt_trans (sound.fresh other worker' found) workers
  · intro left right worker' found beside
    by_cases here : left = app
    · by_cases there : right = app
      · rw [here, there]
      · subst here
        rw [served] at found
        cases found
        rw [others right there] at beside
        exact absurd rfl (elsewhere right _ there beside)
    · rw [others left here] at found
      by_cases there : right = app
      · subst there
        rw [served] at beside
        cases beside
        exact absurd rfl (elsewhere left _ here found)
      · rw [others right there] at beside
        exact sound.apart left right worker' found beside
  · intro c member
    rw [ended] at member
    rw [turns, List.length_append, List.length_singleton]
    exact Nat.lt_succ_of_lt (sound.ended c member)
  · intro n call found
    exact (fair n call found).of_turns ⟨[turn], turns.symm⟩

/-- A finish of the active turn. -/
theorem Sound.finished (sound : Sound s) {app : AppId} {active : ActiveTurn} (found : (s.apps app).active = some active)
    (turns : t.turns = s.turns) (ended : t.ended = active.cancel :: s.ended) (workers : t.workers = s.workers)
    (apps : t.apps = Function.update s.apps app { s.apps app with active := none }) (calls : t.calls = s.calls) :
    Sound t := by
  obtain ⟨turn, records⟩ := sound.recorded app active found
  have elsewhere : ∀ other, other ≠ app → t.apps other = s.apps other := by
    intro other different
    rw [apps, Function.update_of_ne different]
  have here : t.apps app = { s.apps app with active := none } := by rw [apps, Function.update_self]
  have worker : ∀ other, (t.apps other).worker = (s.apps other).worker := by
    intro other
    by_cases same : other = app
    · rw [same, here]
    · rw [elsewhere other same]
  constructor
  · intro other active' found'
    by_cases same : other = app
    · subst same
      rw [here] at found'
      cases found'
    · rw [elsewhere other same] at found'
      obtain ⟨turn', records'⟩ := sound.recorded other active' found'
      refine ⟨turn', ⟨?_, ?_⟩, ?_, records'.app, records'.id, records'.lane⟩
      · rw [turns]
        exact records'.unfinished.1
      · rw [ended]
        intro member
        rcases List.mem_cons.mp member with channel | earlier
        · have equal := records'.unfinished.1
          rw [channel, records.unfinished.1] at equal
          cases equal
          exact same (records'.app.symm.trans records.app)
        · exact records'.unfinished.2 earlier
      · rw [worker]
        exact records'.worker
  · rintro c other ⟨listed, going⟩
    rw [turns] at listed
    rw [ended] at going
    obtain ⟨active', held, channel⟩ := sound.active c other ⟨listed, fun earlier => going (List.mem_cons_of_mem _ earlier)⟩
    have different : other.app ≠ app := by
      intro same
      rw [same, found] at held
      cases held
      exact going (channel ▸ List.mem_cons_self)
    rw [elsewhere _ different]
    exact ⟨active', held, channel⟩
  · intro other worker' held
    rw [worker] at held
    rw [workers]
    exact sound.fresh other worker' held
  · intro left right worker' held beside
    rw [worker] at held beside
    exact sound.apart left right worker' held beside
  · intro c member
    rw [ended] at member
    rw [turns]
    rcases List.mem_cons.mp member with rfl | earlier
    · exact (List.getElem?_eq_some_iff.mp records.unfinished.1).1
    · exact sound.ended c earlier
  · intro n call held
    rw [calls] at held
    exact (sound.fair n call held).of_turns (turns ▸ List.prefix_refl _)

/-! ## What each operation does -/

theorem setApp_self (app : AppId) (state : AppState) (s : AgentSystem) : (s.setApp app state).apps app = state :=
  Function.update_self ..

theorem setApp_other {other : AppId} (different : other ≠ app) (state : AppState) (s : AgentSystem) :
    (s.setApp app state).apps other = s.apps other :=
  Function.update_of_ne different ..

/-- A finish clears the active turn if it has the id, and does nothing else. -/
theorem finish_cases (turnId : String) (state : AppState) :
    (∃ active, state.active = some active ∧ active.id = turnId ∧ state.finish turnId = { state with active := none } ∧
      state.cancel turnId = some active.cancel) ∨
    (state.finish turnId = state ∧ state.cancel turnId = none) := by
  unfold AppState.finish AppState.cancel
  cases found : state.active with
  | none => exact .inr ⟨rfl, rfl⟩
  | some active =>
    by_cases same : active.id = turnId
    · exact .inl ⟨active, rfl, same, by simp [same], by simp [same]⟩
    · exact .inr ⟨by simp [same], by simp [same]⟩

theorem look_preempt {lane : AgentLane} (looked : state.look lane = .preempt c) :
    ∃ active, state.active = some active ∧ active.cancel = c ∧ lane = .interactive ∧ active.lane ≠ .interactive := by
  unfold AppState.look at looked
  cases found : state.active with
  | none =>
    rw [found] at looked
    cases looked
  | some active =>
    rw [found] at looked
    by_cases gives : lane = .interactive ∧ active.lane ≠ .interactive
    · simp only [gives, ne_eq, not_false_eq_true, and_self, if_true] at looked
      cases looked
      exact ⟨active, rfl, rfl, gives⟩
    · simp only [gives, if_false] at looked
      cases looked

/-- A reload keeps the active turn, and takes a worker only where none is active. -/
theorem reloadProfile_cases (profile : Option AgentProfile) (state : AppState) :
    (state.reloadProfile profile).1.active = state.active ∧
      ((state.reloadProfile profile).1.worker = state.worker ∧ (state.reloadProfile profile).2 = [] ∨
        state.active = none ∧ (state.reloadProfile profile).1.worker = none ∧
          (state.reloadProfile profile).2 = state.retireCalls) := by
  unfold AppState.reloadProfile
  cases found : state.active with
  | some active => exact ⟨found, .inl ⟨rfl, rfl⟩⟩
  | none =>
    simp only [Option.isSome_none]
    by_cases checked : (profile.isSome && profile == state.profile) = true
    · simp only [checked, if_true, Bool.false_eq_true, if_false]
      exact ⟨found, .inl (by simp)⟩
    · simp only [checked, Bool.false_eq_true, if_false]
      exact ⟨found, .inr (by simp [AppState.retire])⟩

/-- The ways in which an authorization may end. -/
inductive Authorizes (identity : ClientIdentity) (token : String) (state : AppState) : Bool × AppState → Prop where
  | refused : Authorizes identity token state (false, state)
  | known (bound : (state.principals identity.principal).generation = identity.generation)
      (same : (state.principals identity.principal).clientToken = token) : Authorizes identity token state (true, state)
  | binds (newer : (state.principals identity.principal).generation < identity.generation)
      (quiet : ∀ active, state.active = some active → active.principal ≠ identity.principal) :
      Authorizes identity token state
        (true, { state with
          principals := Function.update state.principals identity.principal ⟨identity.generation, token⟩ })

theorem authorize_authorizes (identity : ClientIdentity) (token : String) (state : AppState) :
    Authorizes identity token state (state.authorize identity token) := by
  unfold AppState.authorize
  simp only
  by_cases older : identity.generation < (state.principals identity.principal).generation
  · rw [if_pos older]
    exact .refused
  · rw [if_neg older]
    by_cases bound : (state.principals identity.principal).generation = identity.generation
    · rw [if_pos bound]
      by_cases same : (state.principals identity.principal).clientToken = token
      · rw [beq_iff_eq.mpr same]
        exact .known bound same
      · rw [beq_eq_false_iff_ne.mpr same]
        exact .refused
    · rw [if_neg bound]
      by_cases active : (state.active.any fun turn => turn.principal == identity.principal) = true
      · rw [if_pos active]
        exact .refused
      · rw [if_neg active]
        refine .binds (by omega) ?_
        intro turn found
        rw [found] at active
        simpa using active

/-! ## Steps of a start -/

theorem Sound.setCall (sound : Sound s) (fair : s.Fair call) (n : Nat) : Sound (s.setCall n call) := by
  refine sound.settle rfl rfl (Nat.le_refl _) (fun _ => ⟨rfl, .inl rfl⟩) ?_
  intro m other found
  unfold AgentSystem.setCall at found
  by_cases same : m = n
  · simp only [same, Function.update_self] at found
    cases found
    exact fair
  · simp only [Function.update_of_ne same] at found
    exact sound.fair m other found

theorem Sound.raise (sound : Sound s) (raised : List Channel) : Sound { s with raised } :=
  sound.settle rfl rfl (Nat.le_refl _) (fun _ => ⟨rfl, .inl rfl⟩) sound.fair

/-- The active turn of another lane gives way to the user's call. -/
theorem Sound.gives (sound : Sound s) {active : ActiveTurn} (found : (s.apps call.request.app).active = some active)
    (asks : call.request.lane = .interactive) (yields : active.lane ≠ .interactive) : s.GivesWay call active.cancel := by
  obtain ⟨turn, records⟩ := sound.recorded _ active found
  exact ⟨turn, records.unfinished.1, records.app, records.lane ▸ yields, asks⟩

theorem AgentSystem.Fair.stage (fair : s.Fair call) {stage : StartStage} (silent : ∀ c, stage ≠ .signalling c) :
    s.Fair { call with stage } :=
  ⟨fair.found, fun c signals => absurd signals (silent c)⟩

theorem AgentSystem.Fair.find (fair : s.Fair call) (gives : s.GivesWay call c) {stage : StartStage}
    (signals : ∀ d, stage = .signalling d → d = c) : s.Fair { call with stage, found := c :: call.found } := by
  refine ⟨?_, ?_⟩
  · intro d member
    rcases List.mem_cons.mp member with rfl | earlier
    · exact gives
    · exact fair.found d earlier
  · intro d signalling
    rw [signals d signalling]
    exact List.mem_cons_self

/-- Where a claim begins a turn: where none is active, with the worker that is there or a
    fresh one. -/
theorem Sound.claimBegan (sound : Sound s) (fair : s.Fair call) (n : Nat) (free : (s.apps call.request.app).active = none)
    (began : claim.result = .began) {before : AppState}
    (occupied : claim.state = before.occupy call.request s.turns.length) (served : before.worker = some worker)
    (source : (s.apps call.request.app).worker = some worker ∨ worker = s.workers) : Sound (s.claimed n call claim) := by
  have turn : (AgentSystem.beganTurn n call.request claim).worker = worker := by
    simp [AgentSystem.beganTurn, occupied, AppState.occupy, served]
  let active : ActiveTurn := ⟨call.request.turnId, call.request.lane, call.request.principal, s.turns.length⟩
  have now : claim.state.active = some active := by rw [occupied, AppState.occupy]
  have kept : claim.state.worker = some worker := by rw [occupied, AppState.occupy, served]
  let after : AgentSystem :=
    { s with
      apps := Function.update s.apps call.request.app claim.state
      workers := s.workers + 1
      turns := s.turns ++ [AgentSystem.beganTurn n call.request claim] }
  have here : after.apps call.request.app = claim.state := Function.update_self ..
  have sound' : Sound after := by
    refine sound.began free rfl rfl (Nat.lt_succ_self _) ?_ (here.symm ▸ now) rfl rfl rfl rfl ?_ (turn.symm ▸ source)
      sound.fair
    · intro other different
      exact Function.update_of_ne different ..
    · rw [here, turn]
      exact kept
  unfold AgentSystem.claimed
  rw [began]
  have silent : ∀ c, StartStage.returned (.ok s.turns.length) ≠ .signalling c := by simp
  exact sound'.setCall (AgentSystem.Fair.of_turns (s := s) (fair.stage silent) ⟨[_], rfl⟩) n

theorem sound_claimed (sound : Sound s) (fair : s.Fair call)
    (claims : Claims call.request s.workers s.turns.length (s.apps call.request.app) claim) (n : Nat) :
    Sound (s.claimed n call claim) := by
  have workers : s.workers ≤ s.workers + 1 := Nat.le_succ _
  have unchanged : Sound { s with
      apps := Function.update s.apps call.request.app (s.apps call.request.app), workers := s.workers + 1 } := by
    rw [Function.update_eq_self]
    exact sound.settle rfl rfl workers (fun _ => ⟨rfl, .inl rfl⟩) sound.fair
  cases claims with
  | again active found asks yields =>
    refine unchanged.setCall (AgentSystem.Fair.of_turns (s := s) ?_ (List.prefix_refl _)) n
    exact fair.find (sound.gives found asks yields) fun _ signals => absurd signals (by simp)
  | busy active found =>
    have silent : ∀ c, StartStage.returned (.error .busy) ≠ .signalling c := by simp
    exact unchanged.setCall (AgentSystem.Fair.of_turns (s := s) (fair.stage silent) (List.prefix_refl _)) n
  | failed free =>
    have silent : ∀ c, StartStage.returned (.error .backendFailed) ≠ .signalling c := by simp
    have retired : Sound { s with
        apps := Function.update s.apps call.request.app (s.apps call.request.app).retire, workers := s.workers + 1 } := by
      refine sound.settle rfl rfl workers ?_ sound.fair
      intro app
      by_cases same : app = call.request.app
      · subst same
        simp only [Function.update_self]
        exact ⟨rfl, .inr ⟨free, rfl⟩⟩
      · simp [Function.update_of_ne same]
    exact retired.setCall (AgentSystem.Fair.of_turns (s := s) (fair.stage silent) (List.prefix_refl _)) n
  | reused worker free kept => exact sound.claimBegan fair n free rfl rfl kept (.inl kept)
  | spawned free => exact sound.claimBegan fair n free rfl rfl rfl (.inr rfl)

theorem sound_advance (sound : Sound s) (fair : s.Fair call) (n : Nat) (answer : Answer) :
    Sound (s.advance n call answer).1 := by
  have going : ∀ stage, (∀ c, stage ≠ .signalling c) → Sound (s.setCall n { call with stage }) :=
    fun stage silent => sound.setCall (fair.stage silent) n
  unfold AgentSystem.advance
  cases stage : call.stage with
  | looking =>
    cases looked : (s.apps call.request.app).look call.request.lane with
    | clear => exact going .claiming (by simp)
    | busy => exact going (.returned (.error .busy)) (by simp)
    | preempt c =>
      obtain ⟨active, found, rfl, asks, yields⟩ := look_preempt looked
      exact sound.setCall (fair.find (sound.gives found asks yields) (by simp)) n
  | signalling c =>
    have raised := sound.raise (c :: s.raised)
    exact raised.setCall (AgentSystem.Fair.of_turns (s := s) (fair.stage (by simp)) (List.prefix_refl _)) n
  | polling =>
    simp only
    by_cases late : answer.timedOut = true
    · rw [if_pos late]
      exact going (.returned (.error .busy)) (by simp)
    · rw [if_neg late]
      by_cases free : (s.apps call.request.app).active.isNone = true
      · rw [if_pos free]
        exact going .claiming (by simp)
      · rw [if_neg free]
        exact sound
  | claiming => exact sound_claimed sound fair (claim_claims answer) n
  | returned result => exact sound

/-! ## What a step of a start changes -/

theorem setCall_calls {call other : StartCall} {m : Nat} (found : (s.setCall n call).calls m = some other) :
    s.calls m = some other ∨ m = n ∧ other = call := by
  unfold AgentSystem.setCall at found
  by_cases same : m = n
  · simp only [same, Function.update_self] at found
    cases found
    exact .inr ⟨same, rfl⟩
  · simp only [Function.update_of_ne same] at found
    exact .inl found

/-- What a step of a start leaves alone, unless it claims. -/
structure Quiet (s : AgentSystem) (call : StartCall) (t : AgentSystem) : Prop where
  apps : t.apps = s.apps
  turns : t.turns = s.turns
  ended : t.ended = s.ended
  raised : t.raised = s.raised ∨ ∃ c, call.stage = .signalling c ∧ t.raised = c :: s.raised
  calls : ∀ m other, t.calls m = some other → s.calls m = some other ∨ ∀ c, other.stage ≠ .returned (.ok c)

theorem Quiet.setCall {call later : StartCall} (quiet : Quiet s call t) (open' : ∀ c, later.stage ≠ .returned (.ok c)) :
    Quiet s call (t.setCall n later) := by
  refine ⟨quiet.apps, quiet.turns, quiet.ended, quiet.raised, ?_⟩
  intro m other found
  rcases setCall_calls found with before | ⟨-, rfl⟩
  · exact quiet.calls m other before
  · exact .inr open'

theorem advance_quiet (waits : call.stage ≠ .claiming) (n : Nat) (answer : Answer) :
    Quiet s call (s.advance n call answer).1 ∧ (s.advance n call answer).2 = [] := by
  have still : Quiet s call s := ⟨rfl, rfl, rfl, .inl rfl, fun _ _ found => .inl found⟩
  unfold AgentSystem.advance
  cases stage : call.stage with
  | looking =>
    cases looked : (s.apps call.request.app).look call.request.lane with
    | clear => exact ⟨still.setCall (by simp), rfl⟩
    | busy => exact ⟨still.setCall (by simp), rfl⟩
    | preempt c => exact ⟨still.setCall (by simp), rfl⟩
  | signalling c =>
    have raised : Quiet s call { s with raised := c :: s.raised } :=
      ⟨rfl, rfl, rfl, .inr ⟨c, stage, rfl⟩, fun _ _ found => .inl found⟩
    exact ⟨raised.setCall (by simp), rfl⟩
  | polling =>
    simp only
    by_cases late : answer.timedOut = true
    · rw [if_pos late]
      exact ⟨still.setCall (by simp), rfl⟩
    · rw [if_neg late]
      by_cases free : (s.apps call.request.app).active.isNone = true
      · rw [if_pos free]
        exact ⟨still.setCall (by simp), rfl⟩
      · rw [if_neg free]
        exact ⟨still, rfl⟩
  | claiming => exact absurd stage waits
  | returned result => exact ⟨still, rfl⟩

theorem claimed_refused (refused : claim.result ≠ .began) :
    (s.claimed n call claim).turns = s.turns ∧ (s.claimed n call claim).ended = s.ended ∧
      (s.claimed n call claim).raised = s.raised ∧
      ∀ m other, (s.claimed n call claim).calls m = some other → s.calls m = some other ∨
        ∀ c, other.stage ≠ .returned (.ok c) := by
  unfold AgentSystem.claimed
  cases result : claim.result with
  | began => exact absurd result refused
  | again c =>
    refine ⟨rfl, rfl, rfl, ?_⟩
    intro m other found
    exact (setCall_calls found).imp id fun ⟨_, same⟩ => by simp [same]
  | refused code =>
    refine ⟨rfl, rfl, rfl, ?_⟩
    intro m other found
    exact (setCall_calls found).imp id fun ⟨_, same⟩ => by simp [same]

theorem claimed_began (began : claim.result = .began) :
    s.claimed n call claim =
      { s with
        apps := Function.update s.apps call.request.app claim.state
        workers := s.workers + 1
        turns := s.turns ++ [AgentSystem.beganTurn n call.request claim]
        calls := Function.update s.calls n (some { call with stage := .returned (.ok s.turns.length) }) } := by
  unfold AgentSystem.claimed
  rw [began]
  rfl

/-! ## What a step does -/

/-- The ways in which a step may go, and what each asks of the workers. -/
inductive Moves (s : AgentSystem) : Action → AgentSystem → List WorkerCall → Prop where
  | stays (action : Action) : Moves s action s []
  | starts (n : Nat) (request : StartRequest) (available : Bool) :
      Moves s (.start n request available)
        (s.setCall n { request, stage := if available then .looking else .returned (.error .unavailable) }) []
  | waits (n : Nat) (answer : Answer) (call : StartCall) (found : s.calls n = some call) (waits : call.stage ≠ .claiming) :
      Moves s (.proceed n answer) (s.advance n call answer).1 []
  | claims (n : Nat) (answer : Answer) (call : StartCall) (claim : AppState.Claim) (found : s.calls n = some call)
      (claims : Claims call.request s.workers s.turns.length (s.apps call.request.app) claim) :
      Moves s (.proceed n answer) (s.claimed n call claim) claim.calls
  | finishes (app : AppId) (active : ActiveTurn) (found : (s.apps app).active = some active) :
      Moves s (.finish app active.id)
        { s.setApp app { s.apps app with active := none } with ended := active.cancel :: s.ended } []
  | cancels (app : AppId) (active : ActiveTurn) (found : (s.apps app).active = some active) :
      Moves s (.cancel app active.id) { s with raised := active.cancel :: s.raised } []
  | reloads (app : AppId) (profile : Option AgentProfile) :
      Moves s (.reloadProfile app profile) (s.setApp app ((s.apps app).reloadProfile profile).1)
        ((s.apps app).reloadProfile profile).2
  | resets (app : AppId) : Moves s (.newSession app) s (s.apps app).newSession
  | authorizes (identity : ClientIdentity) (token : String) (verdict : Bool × AppState)
      (authorizes : Authorizes identity token (s.apps identity.appId) verdict) :
      Moves s (.authorize identity identity.appId token)
        { s.setApp identity.appId verdict.2 with
          accepted := (if verdict.1 then [⟨identity.appId, identity.principal, identity.generation, token⟩] else []) ++
            s.accepted } []

theorem step_proceed (found : s.calls n = some call) (answer : Answer) :
    s.step (.proceed n answer) = s.advance n call answer := by
  unfold AgentSystem.step
  simp only [found]

theorem step_claiming (stage : call.stage = .claiming) (n : Nat) (answer : Answer) :
    s.advance n call answer = (s.claimed n call (s.claimOf call answer), (s.claimOf call answer).calls) := by
  unfold AgentSystem.advance
  simp only [stage]

theorem moves_step (s : AgentSystem) (action : Action) : Moves s action (s.step action).1 (s.step action).2 := by
  cases action with
  | start n request available =>
    unfold AgentSystem.step
    simp only
    by_cases idle : s.idle n = true
    · rw [if_pos idle]
      exact .starts n request available
    · rw [if_neg idle]
      exact .stays _
  | proceed n answer =>
    cases found : s.calls n with
    | none =>
      unfold AgentSystem.step
      simp only [found]
      exact .stays _
    | some call =>
      rw [step_proceed found]
      by_cases stage : call.stage = .claiming
      · rw [step_claiming stage]
        exact .claims n answer call _ found (claim_claims answer)
      · rw [(advance_quiet stage n answer).2]
        exact .waits n answer call found stage
  | finish app turnId =>
    unfold AgentSystem.step
    rcases finish_cases turnId (s.apps app) with ⟨active, found, rfl, cleared, channel⟩ | ⟨same, channel⟩
    · simp only [cleared, channel]
      exact .finishes app active found
    · simp only [same, channel, AgentSystem.setApp, Function.update_eq_self]
      exact .stays _
  | cancel app turnId =>
    unfold AgentSystem.step
    rcases finish_cases turnId (s.apps app) with ⟨active, found, rfl, cleared, channel⟩ | ⟨same, channel⟩
    · simp only [channel]
      exact .cancels app active found
    · simp only [channel]
      exact .stays _
  | reloadProfile app profile => exact .reloads app profile
  | newSession app => exact .resets app
  | authorize identity app token =>
    unfold AgentSystem.step
    by_cases own : identity.appId = app
    · subst own
      simp only [if_true]
      exact .authorizes identity token _ (authorize_authorizes identity token _)
    · simp only [own, if_false]
      exact .stays _

/-- Every step keeps what holds between the steps. -/
theorem sound_step (sound : Sound s) (moves : Moves s action t calls) : Sound t := by
  cases moves with
  | stays => exact sound
  | starts n request available =>
    refine sound.setCall ⟨by simp, ?_⟩ n
    cases available <;> simp
  | waits n answer call found waits => exact sound_advance sound (sound.fair n call found) n answer
  | claims n answer call claim found claims => exact sound_claimed sound (sound.fair n call found) claims n
  | finishes app active found => exact sound.finished found rfl rfl rfl rfl rfl
  | cancels app active found => exact sound.raise _
  | reloads app profile =>
    obtain ⟨active, worker⟩ := reloadProfile_cases profile (s.apps app)
    refine sound.settle rfl rfl (Nat.le_refl _) ?_ sound.fair
    intro other
    by_cases same : other = app
    · subst same
      rw [setApp_self]
      refine ⟨active, ?_⟩
      rcases worker with ⟨kept, -⟩ | ⟨free, taken, -⟩
      · exact .inl kept
      · exact .inr ⟨free, taken⟩
    · rw [setApp_other same]
      exact ⟨rfl, .inl rfl⟩
  | resets app => exact sound
  | authorizes identity token verdict authorizes =>
    refine sound.settle rfl rfl (Nat.le_refl _) ?_ sound.fair
    intro other
    by_cases same : other = identity.appId
    · subst same
      show ((s.setApp _ verdict.2).apps _).active = _ ∧ (((s.setApp _ verdict.2).apps _).worker = _ ∨ _)
      rw [setApp_self]
      cases authorizes with
      | refused => exact ⟨rfl, .inl rfl⟩
      | known bound same => exact ⟨rfl, .inl rfl⟩
      | binds newer quiet => exact ⟨rfl, .inl rfl⟩
    · show ((s.setApp _ verdict.2).apps _).active = _ ∧ (((s.setApp _ verdict.2).apps _).worker = _ ∨ _)
      rw [setApp_other same]
      exact ⟨rfl, .inl rfl⟩

theorem sound_initial : Sound {} where
  recorded _ _ found := absurd found (by simp)
  active _ _ unfinished := absurd unfinished.1 (by simp)
  fresh _ _ found := absurd found (by simp)
  apart _ _ _ found _ := absurd found (by simp)
  ended _ member := absurd member (by simp)
  fair _ _ found := absurd found (by simp)

theorem sound_next (sound : Sound s) (action : Action) : Sound (s.next action) :=
  sound_step sound (moves_step s action)

theorem sound_run (actions : List Action) : Sound (actions.foldl AgentSystem.next {}) := by
  refine Runs.run_invariant ?_ actions sound_initial
  intro s action sound
  exact sound_next sound action

/-! ## One turn at a time -/

/-- What a step may do to the turns, from `s` to `t` with these calls of the workers. -/
structure Exclusive (s : AgentSystem) (action : Action) (t : AgentSystem) (calls : List WorkerCall) : Prop where
  /-- An application has at most one active turn. -/
  single : ∀ c d turn other, t.Unfinished c turn → t.Unfinished d other → turn.app = other.app → c = d
  /-- A turn begins where none is active, and whatever its call found active on the way was
      not the user's, gave way to a turn of the user's, and is finished. -/
  begins : t.turns = s.turns ∨ ∃ turn, t.turns = s.turns ++ [turn] ∧
    (∀ c other, s.Unfinished c other → other.app ≠ turn.app) ∧
    ∃ call, s.calls turn.caller = some call ∧ call.request.app = turn.app ∧ call.request.lane = turn.lane ∧
      ∀ c ∈ call.found, s.GivesWay call c ∧ c ∈ s.ended
  /-- A start succeeds by beginning a turn. -/
  succeeds : ∀ n call c, t.calls n = some call → call.stage = .returned (.ok c) → s.calls n = some call ∨
    c = s.turns.length ∧ ∃ turn, t.turns = s.turns ++ [turn] ∧ turn.caller = n
  /-- A turn that ends is the one that a finish names. -/
  finishes : ∀ c turn, s.Unfinished c turn → ¬ t.Unfinished c turn → action = .finish turn.app turn.id
  /-- The worker of an active turn is neither shut down nor reset. -/
  undisturbed : ∀ c turn, s.Unfinished c turn ∨ t.Unfinished c turn → ∀ call ∈ calls, ¬ call.Disturbs turn.worker
  /-- Nor is it replaced. -/
  worker : ∀ c turn, t.Unfinished c turn → (t.apps turn.app).worker = some turn.worker
  /-- A turn is told to stop by a cancel that names it, or by a call of the user's that found
      it active and to which it gives way. -/
  signals : ∀ c ∈ t.raised, c ∈ s.raised ∨ (∃ turn, s.Unfinished c turn ∧ action = .cancel turn.app turn.id) ∨
    ∃ n answer call, action = .proceed n answer ∧ s.calls n = some call ∧ call.stage = .signalling c ∧
      c ∈ call.found ∧ s.GivesWay call c

theorem claims_turns (sound : Sound s) (found : s.calls n = some call)
    (claims : Claims call.request s.workers s.turns.length (s.apps call.request.app) claim)
    (began : claim.result = .began) :
    (∀ c other, s.Unfinished c other → other.app ≠ call.request.app) ∧
      ∀ c ∈ call.found, s.GivesWay call c ∧ c ∈ s.ended := by
  have free : (s.apps call.request.app).active = none := by
    cases claims with
    | again active found asks yields => cases began
    | busy active found => cases began
    | failed free => cases began
    | reused worker free kept => exact free
    | spawned free => exact free
  have alone : ∀ c other, s.Unfinished c other → other.app ≠ call.request.app := by
    intro c other unfinished same
    obtain ⟨active, held, -⟩ := sound.active c other unfinished
    rw [same, free] at held
    cases held
  refine ⟨alone, ?_⟩
  intro c member
  have gives := (sound.fair n call found).found c member
  refine ⟨gives, ?_⟩
  obtain ⟨turn, listed, app, -⟩ := gives
  by_contra going
  exact alone c turn ⟨listed, going⟩ app

/-- The worker of an application without an active turn serves no active turn. -/
theorem Sound.free_worker (sound : Sound s) (free : (s.apps app).active = none)
    (served : (s.apps app).worker = some worker) (unfinished : s.Unfinished c turn) : worker ≠ turn.worker := by
  rintro rfl
  obtain ⟨active, held, -, records⟩ := sound.records unfinished
  have here := sound.apart app turn.app turn.worker served records.worker
  rw [← here, free] at held
  cases held

theorem retireCalls_mem {call : WorkerCall} (member : call ∈ state.retireCalls) :
    ∃ worker, state.worker = some worker ∧ call = .shutdown worker := by
  unfold AppState.retireCalls at member
  obtain ⟨worker, served, rfl⟩ := List.mem_map.mp member
  exact ⟨worker, Option.mem_toList.mp served, rfl⟩

theorem newSession_mem {call : WorkerCall} (member : call ∈ state.newSession) :
    state.active = none ∧ ∃ worker, state.worker = some worker ∧ call = .newSession worker := by
  unfold AppState.newSession at member
  cases active : state.active with
  | some turn => simp [active] at member
  | none =>
    simp only [active, Option.isSome_none, Bool.false_eq_true, if_false] at member
    obtain ⟨worker, served, rfl⟩ := List.mem_map.mp member
    exact ⟨rfl, worker, Option.mem_toList.mp served, rfl⟩

theorem exclusive_begins (sound : Sound s) (moves : Moves s action t calls) :
    t.turns = s.turns ∨ ∃ turn, t.turns = s.turns ++ [turn] ∧
      (∀ c other, s.Unfinished c other → other.app ≠ turn.app) ∧
      ∃ call, s.calls turn.caller = some call ∧ call.request.app = turn.app ∧ call.request.lane = turn.lane ∧
        ∀ c ∈ call.found, s.GivesWay call c ∧ c ∈ s.ended := by
  cases moves with
  | claims n answer call claim found claims =>
    by_cases began : claim.result = .began
    · right
      obtain ⟨alone, gave⟩ := claims_turns sound found claims began
      rw [claimed_began began]
      exact ⟨AgentSystem.beganTurn n call.request claim, rfl, alone, call, found, rfl, rfl, gave⟩
    · exact .inl (claimed_refused began).1
  | waits n answer call found waits => exact .inl (advance_quiet waits n answer).1.turns
  | _ => exact .inl rfl

theorem exclusive_succeeds (moves : Moves s action t calls) (found : t.calls n = some call)
    (stage : call.stage = .returned (.ok c)) :
    s.calls n = some call ∨ c = s.turns.length ∧ ∃ turn, t.turns = s.turns ++ [turn] ∧ turn.caller = n := by
  cases moves with
  | claims m answer other claim held claims =>
    by_cases began : claim.result = .began
    · rw [claimed_began began] at found ⊢
      by_cases same : n = m
      · subst same
        simp only [Function.update_self] at found
        cases found
        cases stage
        exact .inr ⟨rfl, AgentSystem.beganTurn n other.request claim, rfl, rfl⟩
      · simp only [Function.update_of_ne same] at found
        exact .inl found
    · rcases (claimed_refused began).2.2.2 n call found with before | never
      · exact .inl before
      · exact absurd stage (never c)
  | waits m answer other held waits =>
    rcases (advance_quiet waits m answer).1.calls n call found with before | never
    · exact .inl before
    · exact absurd stage (never c)
  | starts m request available =>
    rcases setCall_calls found with before | ⟨-, rfl⟩
    · exact .inl before
    · cases available <;> cases stage
  | _ => exact .inl found

theorem exclusive_finishes (sound : Sound s) (moves : Moves s action t calls) (unfinished : s.Unfinished c turn)
    (ends : ¬ t.Unfinished c turn) : action = .finish turn.app turn.id := by
  have stays : t.ended ≠ s.ended := by
    intro same
    refine ends ⟨?_, same ▸ unfinished.2⟩
    rcases exclusive_begins sound moves with turns | ⟨_, turns, -⟩
    · rw [turns]
      exact unfinished.1
    · rw [turns, List.getElem?_append_left (List.getElem?_eq_some_iff.mp unfinished.1).1]
      exact unfinished.1
  cases moves with
  | claims n answer call claim found claims =>
    by_cases began : claim.result = .began
    · rw [claimed_began began] at stays
      exact absurd rfl stays
    · exact absurd (claimed_refused began).2.1 stays
  | waits n answer call found waits => exact absurd (advance_quiet waits n answer).1.ended stays
  | finishes app active found =>
    obtain ⟨record, records⟩ := sound.recorded app active found
    have channel : c = active.cancel := by
      by_contra other
      refine ends ⟨unfinished.1, ?_⟩
      intro member
      rcases List.mem_cons.mp member with same | earlier
      · exact other same
      · exact unfinished.2 earlier
    have same := records.unfinished.1
    rw [← channel, unfinished.1] at same
    cases same
    rw [records.app, records.id]
  | _ => exact absurd rfl stays

theorem moves_ended (moves : Moves s action t calls) : ∀ d ∈ s.ended, d ∈ t.ended := by
  intro d member
  cases moves with
  | claims n answer call claim found claims =>
    by_cases began : claim.result = .began
    · rw [claimed_began began]
      exact member
    · rw [(claimed_refused began).2.1]
      exact member
  | waits n answer call found waits =>
    rw [(advance_quiet waits n answer).1.ended]
    exact member
  | finishes app active found => exact List.mem_cons_of_mem _ member
  | _ => exact member

/-- An unfinished turn was so before, or it has just begun. -/
theorem moves_unfinished (sound : Sound s) (moves : Moves s action t calls) (unfinished : t.Unfinished c turn) :
    s.Unfinished c turn ∨ c = s.turns.length ∧ t.turns = s.turns ++ [turn] := by
  have going : c ∉ s.ended := fun member => unfinished.2 (moves_ended moves c member)
  have listed := unfinished.1
  rcases exclusive_begins sound moves with turns | ⟨begun, turns, -⟩
  · rw [turns] at listed
    exact .inl ⟨listed, going⟩
  · rw [turns] at listed
    by_cases below : c < s.turns.length
    · rw [List.getElem?_append_left below] at listed
      exact .inl ⟨listed, going⟩
    · have within := (List.getElem?_eq_some_iff.mp listed).1
      rw [List.length_append, List.length_singleton] at within
      have last : c = s.turns.length := Nat.le_antisymm (Nat.le_of_lt_succ within) (Nat.not_lt.mp below)
      subst last
      rw [List.getElem?_concat_length] at listed
      cases listed
      exact .inr ⟨rfl, turns⟩

theorem claims_undisturbed (sound : Sound s) {request : StartRequest}
    (claims : Claims request s.workers s.turns.length (s.apps request.app) claim)
    (serves : (∃ c turn, s.Unfinished c turn ∧ turn.worker = worker) ∨
      claim.result = .began ∧ claim.state.worker = some worker) : ∀ call ∈ claim.calls, ¬ call.Disturbs worker := by
  -- a worker that is shut down served the application that had no active turn
  have retired : (s.apps request.app).active = none →
      (∃ c turn, s.Unfinished c turn ∧ turn.worker = worker) ∨ worker = s.workers →
      ∀ call ∈ (s.apps request.app).retireCalls, ¬ call.Disturbs worker := by
    intro free serves call member disturbs
    obtain ⟨other, served, rfl⟩ := retireCalls_mem member
    have same : other = worker := disturbs
    subst same
    rcases serves with ⟨c, turn, unfinished, rfl⟩ | rfl
    · exact sound.free_worker free served unfinished rfl
    · exact absurd (sound.fresh _ _ served) (Nat.lt_irrefl _)
  cases claims with
  | again active found asks yields => simp
  | busy active found => simp
  | reused worker free kept => simp
  | failed free =>
    refine retired free (.inl ?_)
    rcases serves with unfinished | ⟨began, -⟩
    · exact unfinished
    · cases began
  | spawned free =>
    intro call member
    rcases List.mem_append.mp member with shut | last
    · refine retired free ?_ call shut
      rcases serves with unfinished | ⟨-, served⟩
      · exact .inl unfinished
      · exact .inr (Option.some.inj served).symm
    · rw [List.mem_singleton.mp last]
      exact id

/-- The turn that begins has a worker. -/
theorem claims_served {request : StartRequest} (claims : Claims request fresh c state claim)
    (began : claim.result = .began) : claim.state.worker = some (claim.state.worker.getD 0) := by
  cases claims with
  | again active found asks yields => cases began
  | busy active found => cases began
  | failed free => cases began
  | reused worker free kept => simp [AppState.occupy, kept]
  | spawned free => simp [AppState.occupy]

theorem exclusive_undisturbed (sound : Sound s) (moves : Moves s action t calls)
    (unfinished : s.Unfinished c turn ∨ t.Unfinished c turn) : ∀ call ∈ calls, ¬ call.Disturbs turn.worker := by
  have before : s.Unfinished c turn ∨ c = s.turns.length ∧ t.turns = s.turns ++ [turn] := by
    rcases unfinished with before | after
    · exact .inl before
    · exact moves_unfinished sound moves after
  cases moves with
  | claims n answer call claim found claims =>
    refine claims_undisturbed sound claims ?_
    rcases before with before | ⟨-, turns⟩
    · exact .inl ⟨c, turn, before, rfl⟩
    · by_cases began : claim.result = .began
      · rw [claimed_began began] at turns
        cases List.append_cancel_left turns
        exact .inr ⟨began, claims_served claims began⟩
      · rw [(claimed_refused began).1] at turns
        simp at turns
  | reloads app profile =>
    rcases before with before | ⟨-, turns⟩
    · rcases (reloadProfile_cases profile (s.apps app)).2 with ⟨-, calls⟩ | ⟨free, -, calls⟩
      · rw [calls]
        simp
      · rw [calls]
        intro call member
        obtain ⟨worker, served, rfl⟩ := retireCalls_mem member
        exact sound.free_worker free served before
    · have turns : s.turns = s.turns ++ [turn] := turns
      simp at turns
  | resets app =>
    rcases before with before | ⟨-, turns⟩
    · intro call member
      obtain ⟨free, worker, served, rfl⟩ := newSession_mem member
      exact sound.free_worker free served before
    · simp at turns
  | _ => simp

theorem exclusive_signals (sound : Sound s) (moves : Moves s action t calls) (raised : c ∈ t.raised) :
    c ∈ s.raised ∨ (∃ turn, s.Unfinished c turn ∧ action = .cancel turn.app turn.id) ∨
      ∃ n answer call, action = .proceed n answer ∧ s.calls n = some call ∧ call.stage = .signalling c ∧
        c ∈ call.found ∧ s.GivesWay call c := by
  cases moves with
  | claims n answer call claim found claims =>
    by_cases began : claim.result = .began
    · rw [claimed_began began] at raised
      exact .inl raised
    · rw [(claimed_refused began).2.2.1] at raised
      exact .inl raised
  | waits n answer call found waits =>
    rcases (advance_quiet waits n answer).1.raised with same | ⟨d, stage, more⟩
    · rw [same] at raised
      exact .inl raised
    · rw [more] at raised
      rcases List.mem_cons.mp raised with rfl | earlier
      · have fair := sound.fair n call found
        have member := fair.signals c stage
        exact .inr (.inr ⟨n, answer, call, rfl, found, stage, member, fair.found c member⟩)
      · exact .inl earlier
  | cancels app active found =>
    rcases List.mem_cons.mp raised with rfl | earlier
    · obtain ⟨turn, records⟩ := sound.recorded app active found
      exact .inr (.inl ⟨turn, records.unfinished, by rw [records.app, records.id]⟩)
    · exact .inl earlier
  | _ => exact .inl raised

/-- In every run of starts, finishes, cancels, reloads and session resets, in any order
    and with the steps of any number of starts among them, the turns exclude each other. -/
theorem turns_exclusive (actions : List Action) (action : Action) :
    let s := actions.foldl AgentSystem.next {}
    Exclusive s action (s.next action) (s.workerCalls action) := by
  intro s
  have sound : Sound s := sound_run actions
  have moves : Moves s action (s.next action) (s.workerCalls action) := moves_step s action
  have after : Sound (s.next action) := sound_next sound action
  exact {
    single := fun _ _ _ _ unfinished beside same => after.single unfinished beside same
    begins := exclusive_begins sound moves
    succeeds := fun _ _ _ found stage => exclusive_succeeds moves found stage
    finishes := fun _ _ unfinished ends => exclusive_finishes sound moves unfinished ends
    undisturbed := fun _ _ unfinished => exclusive_undisturbed sound moves unfinished
    worker := fun _ _ unfinished => by
      obtain ⟨active, -, -, records⟩ := after.records unfinished
      exact records.worker
    signals := fun _ raised => exclusive_signals sound moves raised }

end Remagic.Agent
