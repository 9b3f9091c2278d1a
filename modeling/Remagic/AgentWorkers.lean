import Remagic.AgentTurns

/-!
# Workers that stop

A worker takes commands from its queue until a turn or a session reset ends badly or
it is told to shut down; then it kills its process, and only then does its queue
close. The end of a turn is announced before that. A start that claims the turn in
between keeps the worker, whose queue is still open, and the new turn's command is
dropped with the queue. Fewer commands than the queue can hold are ever in it, so a
send never waits.
-/

namespace Remagic.Agent.Workers
open Runs

/-- Why a worker leaves its loop. -/
inductive Cause where
  | turn
  | session
  | shutdown
  deriving DecidableEq

inductive WorkerCommand where
  | turn (channel : Channel)
  | newSession
  | shutdown
  deriving DecidableEq

/-- Where a worker's loop stands. -/
inductive Phase where
  | waiting
  | running (channel : Channel)
  | resetting
  | leaving (cause : Cause)
  | closed (cause : Cause)
  deriving DecidableEq

structure Worker where
  phase : Phase := .waiting
  commands : List WorkerCommand := []

/-- How far a turn's task is: it has not sent its command, waits for the turn's end, was
    told of it, or found that the worker exited. -/
inductive TaskStage where
  | unsent
  | queued
  | completed
  | exited
  deriving DecidableEq

/-- The agent's state with its workers and the tasks of its turns. A session reset
    holds the lock for as long as it waits for its worker. -/
structure Service where
  agent : AgentSystem := {}
  workers : WorkerHandle → Worker := fun _ => {}
  tasks : Channel → TaskStage := fun _ => .unsent
  lock : Option WorkerHandle := none

inductive Event where
  | act (action : Action)
  | send (channel : Channel)
  | receive (worker : WorkerHandle)
  | turnEnds (worker : WorkerHandle) (keepRunning : Bool)
  | sessionEnds (worker : WorkerHandle) (success : Bool)
  | close (worker : WorkerHandle)
  | finish (channel : Channel)

namespace Worker

/-- `is_closed`: the queue's other end is gone. -/
def isClosed (worker : Worker) : Bool :=
  match worker.phase with
  | .closed _ => true
  | _ => false

def push (command : WorkerCommand) (worker : Worker) : Worker :=
  if worker.isClosed then worker else { worker with commands := worker.commands ++ [command] }

/-- `recv`, and what its command begins. -/
def receive (worker : Worker) : Worker :=
  match worker.phase, worker.commands with
  | .waiting, .turn channel :: rest => { phase := .running channel, commands := rest }
  | .waiting, .newSession :: rest => { phase := .resetting, commands := rest }
  | .waiting, .shutdown :: rest => { phase := .leaving .shutdown, commands := rest }
  | _, _ => worker

/-- What follows a command: the loop goes on, or it is left. -/
def after (keepRunning : Bool) (cause : Cause) (worker : Worker) : Worker :=
  { worker with phase := if keepRunning then .waiting else .leaving cause }

/-- The worker stopped because a turn ended badly, whether its queue is closed by now or not. -/
def Dying (worker : Worker) : Prop := worker.phase = .leaving .turn ∨ worker.phase = .closed .turn

end Worker

namespace Service

def setWorker (handle : WorkerHandle) (worker : Worker) (s : Service) : Service :=
  { s with workers := Function.update s.workers handle worker }

def setTask (channel : Channel) (task : TaskStage) (s : Service) : Service :=
  { s with tasks := Function.update s.tasks channel task }

@[simp] theorem setWorker_tasks (handle : WorkerHandle) (worker : Worker) (s : Service) :
    (s.setWorker handle worker).tasks = s.tasks := rfl

@[simp] theorem setWorker_self (handle : WorkerHandle) (worker : Worker) (s : Service) :
    (s.setWorker handle worker).workers handle = worker := Function.update_self ..

theorem setWorker_other {handle other : WorkerHandle} (different : other ≠ handle) (worker : Worker) (s : Service) :
    (s.setWorker handle worker).workers other = s.workers other := Function.update_of_ne different ..

@[simp] theorem setTask_workers (channel : Channel) (task : TaskStage) (s : Service) :
    (s.setTask channel task).workers = s.workers := rfl

@[simp] theorem setTask_self (channel : Channel) (task : TaskStage) (s : Service) :
    (s.setTask channel task).tasks channel = task := Function.update_self ..

theorem setTask_other {channel other : Channel} (different : other ≠ channel) (task : TaskStage) (s : Service) :
    (s.setTask channel task).tasks other = s.tasks other := Function.update_of_ne different ..

/-- What a call asks of a worker. A new worker waits with an empty queue. -/
def call (s : Service) : WorkerCall → Service
  | .shutdown handle => s.setWorker handle ((s.workers handle).push .shutdown)
  | .spawn _ => s
  | .newSession handle =>
    { s.setWorker handle ((s.workers handle).push .newSession) with
      lock := if (s.workers handle).isClosed then s.lock else some handle }

/-- The worker of the application that a start asks for has exited. -/
def workerClosed (n : Nat) (s : Service) : Bool :=
  (s.agent.calls n).any fun call => (s.agent.apps call.request.app).worker.any fun handle => (s.workers handle).isClosed

/-- Whether a worker has exited is not for the world to say. -/
def told (s : Service) : Action → Action
  | .proceed n answer => .proceed n { answer with closed := s.workerClosed n }
  | action => action

def act (s : Service) (action : Action) : Service :=
  (s.agent.workerCalls (s.told action)).foldl call { s with agent := s.agent.next (s.told action) }

/-- `WorkerHandle::turn`, up to where its command is in the queue. -/
def send (channel : Channel) (turn : Turn) (s : Service) : Service :=
  if (s.workers turn.worker).isClosed then s.setTask channel .exited
  else (s.setWorker turn.worker ((s.workers turn.worker).push (.turn channel))).setTask channel .queued

/-- The queue closes, with the commands that are still in it. -/
def close (handle : WorkerHandle) (cause : Cause) (s : Service) : Service :=
  { s.setWorker handle { phase := .closed cause } with
    tasks := fun channel => if .turn channel ∈ (s.workers handle).commands then .exited else s.tasks channel
    lock := if s.lock = some handle then none else s.lock }

def next (s : Service) : Event → Service
  | .act action =>
    match action with
    -- only a turn's own task finishes it
    | .finish _ _ => s
    | action => if s.lock.isNone then s.act action else s
  | .send channel =>
    match s.agent.turns[channel]?, s.tasks channel with
    | some turn, .unsent => s.send channel turn
    | _, _ => s
  | .receive handle => s.setWorker handle (s.workers handle).receive
  | .turnEnds handle keepRunning =>
    match (s.workers handle).phase with
    | .running channel => (s.setWorker handle ((s.workers handle).after keepRunning .turn)).setTask channel .completed
    | _ => s
  | .sessionEnds handle success =>
    match (s.workers handle).phase with
    | .resetting =>
      { s.setWorker handle ((s.workers handle).after success .session) with
        lock := if s.lock = some handle then none else s.lock }
    | _ => s
  | .close handle =>
    match (s.workers handle).phase with
    | .leaving cause => s.close handle cause
    | _ => s
  | .finish channel =>
    match s.agent.turns[channel]? with
    | some turn =>
      if s.lock.isNone ∧ (s.tasks channel = .completed ∨ s.tasks channel = .exited) ∧ channel ∉ s.agent.ended then
        { s with agent := s.agent.next (.finish turn.app turn.id) }
      else s
    | none => s

/-- No turn that still has its command to be taken has a worker that a bad turn stopped,
    and none was refused by one. -/
def Served (s : Service) : Prop :=
  ∀ channel turn, s.agent.turns[channel]? = some turn → s.tasks channel ≠ .completed → ¬ (s.workers turn.worker).Dying

/-- A start claims the turn while its worker has left its loop after a turn, with its queue
    still open, and would keep it. -/
def Hazard (s : Service) : Event → Prop
  | .act (.proceed n _) => s.lock = none ∧ ∃ call worker, s.agent.calls n = some call ∧ call.stage = .claiming ∧
      (s.agent.apps call.request.app).active = none ∧ (s.agent.apps call.request.app).worker = some worker ∧
      (s.workers worker).phase = .leaving .turn ∧ (s.agent.apps call.request.app).workerChanged call.request false = false
  | _ => False

end Service

/-! ## What the agent's steps do to the workers -/

section
variable {s t : AgentSystem} {action : Action} {calls : List WorkerCall} {turn : Turn} {n : Nat}
  {request : StartRequest}

theorem advance_workers {call : StartCall} (waits : call.stage ≠ .claiming) (answer : Answer) :
    (s.advance n call answer).1.workers = s.workers := by
  unfold AgentSystem.advance
  cases stage : call.stage with
  | looking => cases (s.apps call.request.app).look call.request.lane <;> rfl
  | signalling c => rfl
  | polling =>
    simp only
    split_ifs <;> rfl
  | claiming => exact absurd stage waits
  | returned result => rfl

theorem moves_workers (moves : Moves s action t calls) : s.workers ≤ t.workers := by
  cases moves with
  | waits n answer call found waits => exact Nat.le_of_eq (advance_workers waits answer).symm
  | claims n answer call claim found claims =>
    unfold AgentSystem.claimed
    cases claim.result <;> exact Nat.le_succ _
  | _ => exact Nat.le_refl _

/-- A call disturbs only a worker that there is. -/
theorem moves_disturbs (sound : Sound s) (moves : Moves s action t calls) {call : WorkerCall} (member : call ∈ calls)
    {worker : WorkerHandle} (disturbs : call.Disturbs worker) : worker < s.workers := by
  have retired : ∀ app, call ∈ (s.apps app).retireCalls → worker < s.workers := by
    intro app member
    obtain ⟨other, served, rfl⟩ := retireCalls_mem member
    exact disturbs ▸ sound.fresh app other served
  cases moves with
  | claims n answer start claim found claims =>
    cases claims with
    | again | busy | reused => cases member
    | failed free => exact retired _ member
    | spawned free =>
      rcases List.mem_append.mp member with shut | last
      · exact retired _ shut
      · rw [List.mem_singleton.mp last] at disturbs
        exact disturbs.elim
  | reloads app profile =>
    rcases (reloadProfile_cases profile (s.apps app)).2 with ⟨-, none⟩ | ⟨-, -, taken⟩
    · rw [none] at member
      cases member
    · exact retired app (taken ▸ member)
  | resets app =>
    obtain ⟨-, other, served, rfl⟩ := newSession_mem member
    exact disturbs ▸ sound.fresh app other served
  | _ => cases member

/-- Only a finish ends turns. -/
theorem moves_kept_ended (moves : Moves s action t calls) (going : ∀ app turnId, action ≠ .finish app turnId) :
    t.ended = s.ended := by
  cases moves with
  | claims n answer call claim found claims =>
    by_cases began : claim.result = .began
    · rw [claimed_began began]
    · exact (claimed_refused began).2.1
  | waits n answer call found waits => exact (advance_quiet waits n answer).1.ended
  | finishes app active found => exact absurd rfl (going app active.id)
  | _ => rfl

/-- Only a start begins turns. -/
theorem moves_turns (moves : Moves s action t calls) (other : ∀ n answer, action ≠ .proceed n answer) :
    t.turns = s.turns := by
  cases moves with
  | claims n answer => exact absurd rfl (other n answer)
  | waits n answer => exact absurd rfl (other n answer)
  | _ => rfl

/-- The claim keeps the application's worker. -/
def Keeps (request : StartRequest) (closed : Bool) (state : AppState) (worker : WorkerHandle) : Prop :=
  state.active = none ∧ state.worker = some worker ∧ state.workerChanged request closed = false

/-- The claim does not keep a worker that has exited. -/
theorem Keeps.opened {closed : Bool} {state : AppState} {worker : WorkerHandle}
    (keeps : Keeps request closed state worker) : closed = false ∧ Keeps request false state worker := by
  obtain ⟨free, served, same⟩ := keeps
  simp only [AppState.workerChanged, served, Option.isSome_some, Bool.true_and, Bool.or_eq_false_iff] at same
  exact ⟨same.2, free, served, by simp [AppState.workerChanged, same.1.1, same.1.2]⟩

theorem claim_worker {answer : Answer} {fresh : WorkerHandle} {c : Channel} {state : AppState}
    (began : (state.claim request answer fresh c).result = .began) :
    (state.claim request answer fresh c).state.worker = some fresh ∨
      ∃ worker, (state.claim request answer fresh c).state.worker = some worker ∧ Keeps request answer.closed state worker := by
  unfold AppState.claim at began ⊢
  cases found : state.active with
  | some active =>
    simp only [found] at began
    split at began <;> cases began
  | none =>
    simp only [found] at began
    cases changed : state.workerChanged request answer.closed with
    | true =>
      simp only [changed, if_true, AppState.retire, AppState.engage] at began ⊢
      cases spawns : answer.spawns with
      | true => exact .inl rfl
      | false =>
        rw [spawns] at began
        cases began
    | false =>
      simp only [changed, Bool.false_eq_true, if_false, AppState.engage] at began ⊢
      cases kept : state.worker with
      | some worker => exact .inr ⟨worker, kept, found, kept, changed⟩
      | none =>
        simp only [kept] at began
        cases spawns : answer.spawns with
        | true => exact .inl rfl
        | false =>
          rw [spawns] at began
          cases began

theorem claim_keeps {answer : Answer} {fresh : WorkerHandle} {c : Channel} {state : AppState} {worker : WorkerHandle}
    (keeps : Keeps request answer.closed state worker) :
    (state.claim request answer fresh c).result = .began ∧
      (state.claim request answer fresh c).state.worker = some worker := by
  obtain ⟨free, served, same⟩ := keeps
  unfold AppState.claim
  simp only [free, same, Bool.false_eq_true, if_false, AppState.engage, served]
  exact ⟨trivial, served⟩

theorem append_singleton_ne (turns : List Turn) (turn : Turn) : turns ≠ turns ++ [turn] := by simp

/-- A turn begins with a new worker, or with the one that its claim keeps. -/
theorem next_begins (begins : (s.next action).turns = s.turns ++ [turn]) :
    ∃ n answer call, action = .proceed n answer ∧ s.calls n = some call ∧ call.stage = .claiming ∧
      (turn.worker = s.workers ∨ Keeps call.request answer.closed (s.apps call.request.app) turn.worker) := by
  have moves : Moves s action (s.next action) _ := moves_step s action
  cases action with
  | proceed n answer =>
    cases found : s.calls n with
    | none =>
      simp only [AgentSystem.next, AgentSystem.step, found] at begins
      exact absurd begins (append_singleton_ne s.turns turn)
    | some call =>
      rw [AgentSystem.next, step_proceed found] at begins
      by_cases stage : call.stage = .claiming
      · refine ⟨n, answer, call, rfl, found, stage, ?_⟩
        rw [step_claiming stage] at begins
        by_cases began : (s.claimOf call answer).result = .began
        · simp only [claimed_began began] at begins
          cases List.append_cancel_left begins
          rcases claim_worker began with new | ⟨worker, kept, keeps⟩
          · exact .inl (by simp [AgentSystem.beganTurn, AgentSystem.claimOf, new])
          · refine .inr ?_
            simpa [AgentSystem.beganTurn, AgentSystem.claimOf, kept] using keeps
        · rw [(claimed_refused began).1] at begins
          exact absurd begins (append_singleton_ne s.turns turn)
      · rw [(advance_quiet stage n answer).1.turns] at begins
        exact absurd begins (append_singleton_ne s.turns turn)
  | _ =>
    have same := moves_turns moves (by simp)
    exact absurd (same.symm.trans begins) (append_singleton_ne s.turns turn)

/-- A claim that keeps a worker begins a turn with it. -/
theorem next_keeps {call : StartCall} {answer : Answer} {worker : WorkerHandle} (found : s.calls n = some call)
    (stage : call.stage = .claiming) (keeps : Keeps call.request answer.closed (s.apps call.request.app) worker) :
    ∃ turn, (s.next (.proceed n answer)).turns = s.turns ++ [turn] ∧ turn.worker = worker := by
  obtain ⟨began, served⟩ : (s.claimOf call answer).result = .began ∧
      (s.claimOf call answer).state.worker = some worker := claim_keeps keeps
  refine ⟨AgentSystem.beganTurn n call.request (s.claimOf call answer), ?_, ?_⟩
  · rw [AgentSystem.next, step_proceed found, step_claiming stage, claimed_began began]
  · simp [AgentSystem.beganTurn, served]

end

/-! ## The turns that a worker holds -/

def WorkerCommand.channel : WorkerCommand → Option Channel
  | .turn channel => some channel
  | _ => none

namespace Worker
variable {worker : Worker}

/-- The turn that the worker runs, and those whose commands wait in its queue. -/
def holds (worker : Worker) : List Channel :=
  (match worker.phase with
    | .running channel => [channel]
    | _ => []) ++ worker.commands.filterMap WorkerCommand.channel

theorem push_phase (command : WorkerCommand) : (worker.push command).phase = worker.phase := by
  unfold push
  split <;> rfl

theorem push_holds (command : WorkerCommand) (opened : worker.isClosed = false) :
    (worker.push command).holds = worker.holds ++ command.channel.toList := by
  simp only [push, opened, Bool.false_eq_true, if_false, holds, List.filterMap_append, List.append_assoc]
  cases command <;> rfl

/-- Taking a command changes no turn that the worker holds. -/
theorem receive_holds : worker.receive.holds = worker.holds := by
  obtain ⟨phase, commands⟩ := worker
  cases phase with
  | waiting =>
    cases commands with
    | nil => rfl
    | cons command rest => cases command <;> rfl
  | _ => rfl

theorem receive_isClosed : worker.receive.isClosed = worker.isClosed := by
  obtain ⟨phase, commands⟩ := worker
  cases phase with
  | waiting =>
    cases commands with
    | nil => rfl
    | cons command rest => cases command <;> rfl
  | _ => rfl

theorem receive_dying (dying : worker.receive.Dying) : worker.Dying := by
  obtain ⟨phase, commands⟩ := worker
  cases phase with
  | waiting =>
    cases commands with
    | nil => exact dying
    | cons command rest =>
      cases command <;> rcases dying with none | none <;> cases none
  | _ => exact dying

theorem isClosed_of_phase {other : Worker} (same : worker.phase = other.phase) : worker.isClosed = other.isClosed := by
  unfold isClosed
  rw [same]

theorem dying_of_phase {other : Worker} (same : worker.phase = other.phase) : worker.Dying ↔ other.Dying := by
  unfold Dying
  rw [same]

/-- A worker that runs a turn holds it first. -/
theorem holds_running {channel : Channel} (running : worker.phase = .running channel) :
    worker.holds = channel :: worker.commands.filterMap WorkerCommand.channel := by
  unfold holds
  rw [running]
  rfl

theorem after_holds (keepRunning : Bool) (cause : Cause) :
    (worker.after keepRunning cause).holds = worker.commands.filterMap WorkerCommand.channel := by
  unfold holds after
  cases keepRunning <;> rfl

theorem mem_commands {channel : Channel} (member : .turn channel ∈ worker.commands) : channel ∈ worker.holds :=
  List.mem_append_right _ (List.mem_filterMap.mpr ⟨_, member, rfl⟩)

end Worker

/-! ## What holds between the steps -/

namespace Service
variable {s t : Service} {c d : Channel} {turn other : Turn} {handle : WorkerHandle}

structure Kept (s : Service) : Prop where
  sound : Sound s.agent
  /-- A turn that is finished was told of its end before. -/
  unfinished : ∀ channel ∈ s.agent.ended, s.tasks channel = .completed ∨ s.tasks channel = .exited
  started : ∀ channel, s.tasks channel ≠ .unsent → channel < s.agent.turns.length
  /-- A turn's command is with its own worker. -/
  held : ∀ worker, ∀ channel ∈ (s.workers worker).holds,
    s.tasks channel = .queued ∧ ∃ turn, s.agent.turns[channel]? = some turn ∧ turn.worker = worker
  once : ∀ worker, (s.workers worker).holds.Nodup
  exited : ∀ channel turn, s.agent.turns[channel]? = some turn → s.tasks channel = .exited →
    (s.workers turn.worker).isClosed = true
  fresh : ∀ worker, s.agent.workers ≤ worker → s.workers worker = {}

theorem kept_initial : Kept {} where
  sound := sound_initial
  unfinished _ member := absurd member (by simp)
  started _ task := absurd rfl task
  held _ _ member := absurd member (by simp [Worker.holds])
  once _ := by simp [Worker.holds]
  exited _ _ listed := absurd listed (by simp)
  fresh _ _ := rfl

/-- A turn that still waits is not finished. -/
theorem Kept.waits (kept : s.Kept) (listed : s.agent.turns[c]? = some turn)
    (task : s.tasks c = .unsent ∨ s.tasks c = .queued) : s.agent.Unfinished c turn := by
  refine ⟨listed, ?_⟩
  intro ended
  rcases kept.unfinished c ended with other | other
  · rcases task with task | task <;> rw [other] at task <;> cases task
  · rcases task with task | task <;> rw [other] at task <;> cases task

/-- A worker has one turn at most that still waits. -/
theorem Kept.single (kept : s.Kept) (listed : s.agent.turns[c]? = some turn)
    (task : s.tasks c = .unsent ∨ s.tasks c = .queued) (beside : s.agent.turns[d]? = some other)
    (also : s.tasks d = .unsent ∨ s.tasks d = .queued) (same : turn.worker = other.worker) : c = d := by
  have here := kept.waits listed task
  have there := kept.waits beside also
  obtain ⟨_, -, -, records⟩ := kept.sound.records here
  obtain ⟨_, -, -, others⟩ := kept.sound.records there
  exact kept.sound.single here there (kept.sound.apart _ _ _ records.worker (same ▸ others.worker))

/-- The worker of a turn that still waits was spawned. -/
theorem Kept.spawned (kept : s.Kept) (listed : s.agent.turns[c]? = some turn)
    (task : s.tasks c = .unsent ∨ s.tasks c = .queued) : turn.worker < s.agent.workers := by
  obtain ⟨_, -, -, records⟩ := kept.sound.records (kept.waits listed task)
  exact kept.sound.fresh _ _ records.worker

theorem Kept.relock (kept : s.Kept) (lock : Option WorkerHandle) : Kept { s with lock } :=
  ⟨kept.sound, kept.unfinished, kept.started, kept.held, kept.once, kept.exited, kept.fresh⟩

/-- Another worker under the handle: the turns that it holds are there, and it is still closed if it was. -/
theorem Kept.setWorker (kept : s.Kept) {worker : Worker} (spawned : handle < s.agent.workers ∨ worker = {})
    (held : ∀ channel ∈ worker.holds,
      s.tasks channel = .queued ∧ ∃ turn, s.agent.turns[channel]? = some turn ∧ turn.worker = handle)
    (once : worker.holds.Nodup) (closed : (s.workers handle).isClosed = true → worker.isClosed = true) :
    Kept (s.setWorker handle worker) := by
  refine { kept with held := ?_, once := ?_, exited := ?_, fresh := ?_ }
  · intro other channel member
    by_cases same : other = handle
    · subst same
      exact held channel (by simpa using member)
    · rw [setWorker_other same] at member
      exact kept.held other channel member
  · intro other
    by_cases same : other = handle
    · subst same
      simpa using once
    · rw [setWorker_other same]
      exact kept.once other
  · intro channel turn listed exits
    have before := kept.exited channel turn listed exits
    by_cases same : turn.worker = handle
    · rw [same, setWorker_self]
      exact closed (same ▸ before)
    · rw [setWorker_other same]
      exact before
  · intro other above
    by_cases same : other = handle
    · subst same
      rw [setWorker_self]
      exact spawned.resolve_left (Nat.not_lt.mpr above)
    · rw [setWorker_other same]
      exact kept.fresh other above

/-- A turn whose command is with no worker goes on. -/
theorem Kept.setTask (kept : s.Kept) {task : TaskStage} (listed : s.agent.turns[c]? = some turn)
    (apart : ∀ worker, c ∉ (s.workers worker).holds) (going : c ∈ s.agent.ended → task = .completed ∨ task = .exited)
    (exits : task = .exited → (s.workers turn.worker).isClosed = true) : Kept (s.setTask c task) := by
  refine { kept with unfinished := ?_, started := ?_, held := ?_, exited := ?_ }
  · intro channel member
    by_cases same : channel = c
    · subst same
      rw [setTask_self]
      exact going member
    · rw [setTask_other same]
      exact kept.unfinished channel member
  · intro channel sent
    by_cases same : channel = c
    · subst same
      exact (List.getElem?_eq_some_iff.mp listed).1
    · rw [setTask_other same] at sent
      exact kept.started channel sent
  · intro worker channel member
    have same : channel ≠ c := fun same => apart worker (same ▸ member)
    rw [setTask_other same]
    exact kept.held worker channel member
  · intro channel other there exited
    by_cases same : channel = c
    · subst same
      rw [setTask_self] at exited
      cases listed.symm.trans there
      exact exits exited
    · rw [setTask_other same] at exited
      exact kept.exited channel other there exited

/-! ### Commands -/

/-- A command that brings no turn. -/
theorem Kept.push (kept : s.Kept) (spawned : handle < s.agent.workers) {command : WorkerCommand}
    (quiet : command.channel = none) : Kept (s.setWorker handle ((s.workers handle).push command)) := by
  have same : ((s.workers handle).push command).holds = (s.workers handle).holds := by
    cases closed : (s.workers handle).isClosed with
    | true => rw [Worker.push, if_pos closed]
    | false => rw [Worker.push_holds command closed, quiet, Option.toList_none, List.append_nil]
  refine kept.setWorker (.inl spawned) ?_ ?_ ?_
  · rw [same]
    exact kept.held handle
  · rw [same]
    exact kept.once handle
  · rw [Worker.isClosed_of_phase (Worker.push_phase command)]
    exact id

theorem Kept.unheld (kept : s.Kept) (task : s.tasks c ≠ .queued) (worker : WorkerHandle) : c ∉ (s.workers worker).holds :=
  fun member => task (kept.held worker c member).1

theorem kept_send (kept : s.Kept) (listed : s.agent.turns[c]? = some turn) (task : s.tasks c = .unsent) :
    Kept (s.send c turn) := by
  have unheld := kept.unheld (c := c) (by simp [task])
  have going : c ∉ s.agent.ended := (kept.waits listed (.inl task)).2
  unfold send
  by_cases closed : (s.workers turn.worker).isClosed = true
  · rw [if_pos closed]
    exact kept.setTask listed unheld (fun member => absurd member going) fun _ => closed
  · rw [if_neg closed]
    have opened : (s.workers turn.worker).isClosed = false := by simpa using closed
    have holds := Worker.push_holds (.turn c) opened
    have queued : Kept (s.setTask c .queued) :=
      kept.setTask listed unheld (fun member => absurd member going) fun exits => by cases exits
    have pushed : Kept ((s.setTask c .queued).setWorker turn.worker ((s.workers turn.worker).push (.turn c))) := by
      refine queued.setWorker (.inl (kept.spawned listed (.inl task))) ?_ ?_ ?_
      · rw [holds]
        intro channel member
        rcases List.mem_append.mp member with earlier | last
        · exact queued.held turn.worker channel earlier
        · obtain rfl : channel = c := by simpa [WorkerCommand.channel] using last
          exact ⟨setTask_self .., turn, listed, rfl⟩
      · rw [holds]
        have fresh : c ∉ (s.workers turn.worker).holds := unheld turn.worker
        exact (List.perm_append_singleton c _).nodup_iff.mpr (List.nodup_cons.mpr ⟨fresh, kept.once turn.worker⟩)
      · exact fun was => absurd was closed
    exact pushed

theorem kept_receive (kept : s.Kept) (handle : WorkerHandle) :
    Kept (s.setWorker handle (s.workers handle).receive) := by
  refine kept.setWorker ?_ ?_ ?_ ?_
  · by_cases spawned : handle < s.agent.workers
    · exact .inl spawned
    · rw [kept.fresh handle (Nat.not_lt.mp spawned)]
      exact .inr rfl
  · rw [Worker.receive_holds]
    exact kept.held handle
  · rw [Worker.receive_holds]
    exact kept.once handle
  · rw [Worker.receive_isClosed]
    exact id

theorem Kept.running (kept : s.Kept) (running : (s.workers handle).phase = .running c) :
    s.tasks c = .queued ∧ (∃ turn, s.agent.turns[c]? = some turn ∧ turn.worker = handle) ∧
      c ∉ (s.workers handle).commands.filterMap WorkerCommand.channel := by
  have holds := Worker.holds_running running
  have once := kept.once handle
  obtain ⟨queued, listed⟩ := kept.held handle c (holds ▸ List.mem_cons_self)
  rw [holds] at once
  exact ⟨queued, listed, (List.nodup_cons.mp once).1⟩

/-- A worker with a phase of its own was spawned. -/
theorem Kept.busy (kept : s.Kept) (busy : (s.workers handle).phase ≠ .waiting) : handle < s.agent.workers := by
  by_contra above
  rw [kept.fresh handle (Nat.not_lt.mp above)] at busy
  exact busy rfl

/-- What a worker has left after a command. -/
theorem Kept.after (kept : s.Kept) (busy : (s.workers handle).phase ≠ .waiting)
    (opened : (s.workers handle).isClosed = false) (keepRunning : Bool) (cause : Cause) :
    Kept (s.setWorker handle ((s.workers handle).after keepRunning cause)) := by
  have rest : ((s.workers handle).after keepRunning cause).holds <:+ (s.workers handle).holds := by
    rw [Worker.after_holds]
    exact List.suffix_append ..
  refine kept.setWorker (.inl (kept.busy busy)) ?_ ?_ ?_
  · exact fun channel member => kept.held handle channel (rest.subset member)
  · exact (kept.once handle).sublist rest.sublist
  · exact fun was => absurd was (by simp [opened])

theorem kept_turnEnds (kept : s.Kept) (running : (s.workers handle).phase = .running c) (keepRunning : Bool) :
    Kept ((s.setWorker handle ((s.workers handle).after keepRunning .turn)).setTask c .completed) := by
  obtain ⟨queued, ⟨turn, listed, mine⟩, gone⟩ := kept.running running
  have opened : (s.workers handle).isClosed = false := by simp [Worker.isClosed, running]
  have ended := kept.after (by simp [running]) opened keepRunning .turn
  refine ended.setTask listed ?_ (fun _ => .inl rfl) fun exits => by cases exits
  intro worker member
  by_cases same : worker = handle
  · subst same
    rw [setWorker_self, Worker.after_holds] at member
    exact gone member
  · rw [setWorker_other same] at member
    obtain ⟨-, other, there, theirs⟩ := kept.held worker c member
    cases listed.symm.trans there
    exact same (theirs.symm.trans mine)

/-- What the queue held is told that the worker exited. -/
theorem kept_close (kept : s.Kept) {cause : Cause} (leaving : (s.workers handle).phase = .leaving cause) :
    Kept (s.close handle cause) := by
  have dropped : ∀ channel, .turn channel ∈ (s.workers handle).commands →
      s.tasks channel = .queued ∧ ∃ turn, s.agent.turns[channel]? = some turn ∧ turn.worker = handle :=
    fun channel member => kept.held handle channel (Worker.mem_commands member)
  have shut : Kept (s.setWorker handle { phase := .closed cause }) := by
    refine kept.setWorker (.inl (kept.busy (by simp [leaving]))) ?_ ?_ fun _ => rfl
    · intro channel none
      simp [Worker.holds] at none
    · simp [Worker.holds]
  unfold close
  refine ⟨shut.sound, ?_, ?_, ?_, shut.once, ?_, shut.fresh⟩
  · intro channel member
    dsimp only
    split
    · exact .inr rfl
    · exact kept.unfinished channel member
  · intro channel sent
    dsimp only at sent
    split at sent
    · rename_i inside
      exact kept.started channel (by simp [(dropped channel inside).1])
    · exact kept.started channel sent
  · intro worker channel member
    obtain ⟨queued, turn, listed, mine⟩ := shut.held worker channel member
    refine ⟨?_, turn, listed, mine⟩
    dsimp only
    split
    · rename_i inside
      obtain ⟨-, other, there, theirs⟩ := dropped channel inside
      cases listed.symm.trans there
      -- the closed worker holds nothing
      rw [← mine, theirs] at member
      simp [Worker.holds] at member
    · exact queued
  · intro channel turn listed exits
    dsimp only at exits
    split at exits
    · rename_i inside
      obtain ⟨-, other, there, theirs⟩ := dropped channel inside
      cases listed.symm.trans there
      show ((s.setWorker handle { phase := .closed cause }).workers turn.worker).isClosed = true
      rw [theirs, setWorker_self]
      rfl
    · exact shut.exited channel turn listed exits

/-! ### The agent's steps -/

section
variable {agent : AgentSystem} {action : Action} {calls : List WorkerCall}

theorem moves_listed (sound : Sound s.agent) (moves : Moves s.agent action agent calls)
    (listed : s.agent.turns[c]? = some turn) : agent.turns[c]? = some turn := by
  rcases exclusive_begins sound moves with turns | ⟨_, turns, -⟩
  · rw [turns]
    exact listed
  · rw [turns, List.getElem?_append_left (List.getElem?_eq_some_iff.mp listed).1]
    exact listed

/-- A turn that is listed was so before, or it has just begun. -/
theorem moves_listed_before (sound : Sound s.agent) (moves : Moves s.agent action agent calls)
    (listed : agent.turns[c]? = some turn) :
    s.agent.turns[c]? = some turn ∨ c = s.agent.turns.length ∧ agent.turns = s.agent.turns ++ [turn] := by
  rcases exclusive_begins sound moves with turns | ⟨begun, turns, -⟩
  · exact .inl (turns ▸ listed)
  · rw [turns] at listed
    rcases Nat.lt_or_ge c s.agent.turns.length with below | above
    · rw [List.getElem?_append_left below] at listed
      exact .inl listed
    · have within := (List.getElem?_eq_some_iff.mp listed).1
      rw [List.length_append, List.length_singleton] at within
      obtain rfl : c = s.agent.turns.length := Nat.le_antisymm (Nat.le_of_lt_succ within) above
      rw [List.getElem?_concat_length] at listed
      cases listed
      exact .inr ⟨rfl, turns⟩

theorem Kept.moves (kept : s.Kept) (moves : Moves s.agent action agent calls)
    (ended : ∀ channel ∈ agent.ended,
      channel ∈ s.agent.ended ∨ s.tasks channel = .completed ∨ s.tasks channel = .exited) :
    Kept { s with agent } := by
  refine ⟨sound_step kept.sound moves, ?_, ?_, ?_, kept.once, ?_, ?_⟩
  · intro channel member
    exact (ended channel member).elim (kept.unfinished channel) id
  · intro channel sent
    have below := kept.started channel sent
    have listed := moves_listed kept.sound moves (List.getElem?_eq_getElem below)
    exact (List.getElem?_eq_some_iff.mp listed).1
  · intro worker channel member
    obtain ⟨queued, turn, listed, mine⟩ := kept.held worker channel member
    exact ⟨queued, turn, moves_listed kept.sound moves listed, mine⟩
  · intro channel turn listed exits
    rcases moves_listed_before kept.sound moves listed with before | ⟨rfl, -⟩
    · exact kept.exited channel turn before exits
    · have sent : s.tasks s.agent.turns.length ≠ .unsent := fun unsent => by cases unsent.symm.trans exits
      exact absurd (kept.started _ sent) (Nat.lt_irrefl _)
  · exact fun worker above => kept.fresh worker (Nat.le_trans (moves_workers moves) above)

theorem kept_call (kept : s.Kept) {call : WorkerCall} (spawned : ∀ worker, call.Disturbs worker → worker < s.agent.workers) :
    Kept (s.call call) := by
  cases call with
  | shutdown worker => exact kept.push (spawned worker rfl) rfl
  | spawn worker => exact kept
  | newSession worker => exact (kept.push (spawned worker rfl) rfl).relock _

theorem call_agent (call : WorkerCall) : (s.call call).agent = s.agent := by
  cases call <;> rfl

theorem call_tasks (call : WorkerCall) : (s.call call).tasks = s.tasks := by
  cases call <;> rfl

theorem setWorker_push_phase (command : WorkerCommand) (worker : WorkerHandle) :
    ((s.setWorker handle ((s.workers handle).push command)).workers worker).phase = (s.workers worker).phase := by
  by_cases same : worker = handle
  · subst same
    rw [setWorker_self, Worker.push_phase]
  · rw [setWorker_other same]

theorem call_phase (call : WorkerCall) (worker : WorkerHandle) :
    ((s.call call).workers worker).phase = (s.workers worker).phase := by
  cases call with
  | shutdown other => exact setWorker_push_phase .shutdown worker
  | spawn other => rfl
  | newSession other => exact setWorker_push_phase .newSession worker

theorem kept_calls (kept : s.Kept) (spawned : ∀ call ∈ calls, ∀ worker, call.Disturbs worker → worker < s.agent.workers) :
    Kept (calls.foldl call s) := by
  induction calls generalizing s with
  | nil => exact kept
  | cons first rest ih =>
    refine ih (kept_call kept (spawned first List.mem_cons_self)) ?_
    rw [call_agent]
    exact fun one member => spawned one (List.mem_cons_of_mem _ member)

/-- What is asked of the workers leaves their phases, the turns and their tasks alone. -/
theorem calls_same (calls : List WorkerCall) (s : Service) : (calls.foldl call s).agent = s.agent ∧
    (calls.foldl call s).tasks = s.tasks ∧
    ∀ worker, ((calls.foldl call s).workers worker).phase = (s.workers worker).phase := by
  induction calls generalizing s with
  | nil => exact ⟨rfl, rfl, fun _ => rfl⟩
  | cons first rest ih =>
    obtain ⟨agent, tasks, phase⟩ := ih (s.call first)
    exact ⟨agent.trans (call_agent first), tasks.trans (call_tasks first),
      fun worker => (phase worker).trans (call_phase first worker)⟩

theorem told_finish (going : ∀ app turnId, action ≠ .finish app turnId) (app : AppId) (turnId : String) :
    s.told action ≠ .finish app turnId := by
  cases action with
  | proceed => exact fun same => by cases same
  | _ => exact going app turnId

theorem kept_act (kept : s.Kept) (going : ∀ app turnId, action ≠ .finish app turnId) : Kept (s.act action) := by
  have moves : Moves s.agent (s.told action) (s.agent.next (s.told action)) _ := moves_step s.agent (s.told action)
  have same := moves_kept_ended moves (told_finish going)
  have stepped := kept.moves moves fun channel member => .inl (same ▸ member)
  refine kept_calls stepped ?_
  intro call member worker disturbs
  exact Nat.lt_of_lt_of_le (moves_disturbs kept.sound moves member disturbs) (moves_workers moves)

theorem kept_finish (kept : s.Kept) (listed : s.agent.turns[c]? = some turn)
    (told : s.tasks c = .completed ∨ s.tasks c = .exited) (going : c ∉ s.agent.ended) :
    Kept { s with agent := s.agent.next (.finish turn.app turn.id) } := by
  obtain ⟨active, found, rfl, records⟩ := kept.sound.records ⟨listed, going⟩
  refine kept.moves (moves_step s.agent (.finish turn.app turn.id)) ?_
  intro channel member
  rcases List.mem_append.mp member with cleared | earlier
  · obtain ⟨one, taken, rfl⟩ := Option.map_eq_some_iff.mp (Option.mem_toList.mp cleared)
    obtain rfl : active = one := by
      have held := (Option.filter_eq_some_iff.mp taken).1
      exact Option.some.inj (found.symm.trans held)
    exact .inr told
  · exact .inl earlier

end

/-- The ways in which a step may go. -/
inductive Goes (s : Service) : Event → Service → Prop where
  | stays (event : Event) (quiet : ¬ s.Hazard event) : Goes s event s
  | acts (action : Action) (going : ∀ app turnId, action ≠ .finish app turnId) (free : s.lock = none) :
      Goes s (.act action) (s.act action)
  | sends (c : Channel) (turn : Turn) (listed : s.agent.turns[c]? = some turn) (task : s.tasks c = .unsent) :
      Goes s (.send c) (s.send c turn)
  | receives (handle : WorkerHandle) : Goes s (.receive handle) (s.setWorker handle (s.workers handle).receive)
  | turnEnds (handle : WorkerHandle) (keepRunning : Bool) (c : Channel) (running : (s.workers handle).phase = .running c) :
      Goes s (.turnEnds handle keepRunning)
        ((s.setWorker handle ((s.workers handle).after keepRunning .turn)).setTask c .completed)
  | sessionEnds (handle : WorkerHandle) (success : Bool) (resetting : (s.workers handle).phase = .resetting) :
      Goes s (.sessionEnds handle success)
        { s.setWorker handle ((s.workers handle).after success .session) with
          lock := if s.lock = some handle then none else s.lock }
  | closes (handle : WorkerHandle) (cause : Cause) (leaving : (s.workers handle).phase = .leaving cause) :
      Goes s (.close handle) (s.close handle cause)
  | finishes (c : Channel) (turn : Turn) (listed : s.agent.turns[c]? = some turn)
      (told : s.tasks c = .completed ∨ s.tasks c = .exited) (going : c ∉ s.agent.ended) :
      Goes s (.finish c) { s with agent := s.agent.next (.finish turn.app turn.id) }

theorem goes_next (event : Event) : Goes s event (s.next event) := by
  cases event with
  | act action =>
    by_cases finish : ∃ app turnId, action = .finish app turnId
    · obtain ⟨app, turnId, rfl⟩ := finish
      exact .stays _ id
    · have going : ∀ app turnId, action ≠ .finish app turnId := fun app turnId same => finish ⟨app, turnId, same⟩
      have stepped : s.next (.act action) = if s.lock.isNone then s.act action else s := by
        cases action with
        | finish app turnId => exact absurd rfl (going app turnId)
        | _ => rfl
      rw [stepped]
      cases lock : s.lock with
      | none => exact .acts action going lock
      | some handle =>
        refine .stays _ ?_
        cases action with
        | proceed n answer => simp [Hazard, lock]
        | _ => exact id
  | send c =>
    simp only [next]
    cases listed : s.agent.turns[c]? with
    | none => exact .stays _ id
    | some turn =>
      cases task : s.tasks c with
      | unsent => exact .sends c turn listed task
      | _ => exact .stays _ id
  | receive handle => exact .receives handle
  | turnEnds handle keepRunning =>
    simp only [next]
    cases phase : (s.workers handle).phase with
    | running c => exact .turnEnds handle keepRunning c phase
    | _ => exact .stays _ id
  | sessionEnds handle success =>
    simp only [next]
    cases phase : (s.workers handle).phase with
    | resetting => exact .sessionEnds handle success phase
    | _ => exact .stays _ id
  | close handle =>
    simp only [next]
    cases phase : (s.workers handle).phase with
    | leaving cause => exact .closes handle cause phase
    | _ => exact .stays _ id
  | finish c =>
    simp only [next]
    cases listed : s.agent.turns[c]? with
    | none => exact .stays _ id
    | some turn =>
      simp only
      split
      · rename_i ready
        exact .finishes c turn listed ready.2.1 ready.2.2
      · exact .stays _ id

theorem next_kept (kept : s.Kept) (event : Event) : Kept (s.next event) := by
  have goes : Goes s event (s.next event) := goes_next event
  generalize s.next event = after at goes ⊢
  cases goes with
  | stays quiet => exact kept
  | acts action going free => exact kept_act kept going
  | sends c turn listed task => exact kept_send kept listed task
  | receives handle => exact kept_receive kept handle
  | turnEnds handle keepRunning c running => exact kept_turnEnds kept running keepRunning
  | sessionEnds handle success resetting =>
    exact (kept.after (by simp [resetting]) (by simp [Worker.isClosed, resetting]) success .session).relock _
  | closes handle cause leaving => exact kept_close kept leaving
  | finishes c turn listed told going => exact kept_finish kept listed told going

/-! ## Turns and dying workers -/

theorem Served.of (served : s.Served) (turns : t.agent.turns = s.agent.turns)
    (tasks : ∀ channel, t.tasks channel ≠ .completed → s.tasks channel ≠ .completed)
    (dying : ∀ worker, (t.workers worker).Dying → (s.workers worker).Dying) : Served t := by
  intro channel turn listed task dies
  exact served channel turn (turns ▸ listed) (tasks channel task) (dying turn.worker dies)

/-- A worker may only begin to die under no turn that waits. -/
theorem Served.setWorker (served : s.Served) {worker : Worker}
    (dying : worker.Dying → (s.workers handle).Dying) : Served (s.setWorker handle worker) := by
  refine served.of rfl (fun _ => id) ?_
  intro other dies
  by_cases same : other = handle
  · subst same
    rw [setWorker_self] at dies
    exact dying dies
  · rw [setWorker_other same] at dies
    exact dies

theorem served_send (served : s.Served) (task : s.tasks c = .unsent) : Served (s.send c turn) := by
  have waiting : ∀ task channel, (s.setTask c task).tasks channel ≠ .completed → s.tasks channel ≠ .completed := by
    intro _ channel other
    by_cases same : channel = c
    · rw [same, task]
      simp
    · rwa [setTask_other same] at other
  unfold send
  split
  · exact served.of rfl (waiting .exited) fun _ => id
  · have phase : ((s.workers turn.worker).push (.turn c)).phase = (s.workers turn.worker).phase := Worker.push_phase _
    have pushed := served.setWorker (Worker.dying_of_phase phase).mp
    exact pushed.of rfl (waiting .queued) fun _ => id

/-- A turn that ends badly is the only one that its worker has. -/
theorem served_turnEnds (kept : s.Kept) (served : s.Served) (running : (s.workers handle).phase = .running c)
    (keepRunning : Bool) :
    Served ((s.setWorker handle ((s.workers handle).after keepRunning .turn)).setTask c .completed) := by
  obtain ⟨queued, ⟨turn, listed, mine⟩, -⟩ := kept.running running
  intro channel other there task dies
  by_cases own : channel = c
  · rw [own, setTask_self] at task
    exact task rfl
  · rw [setTask_other own] at task
    rw [setTask_workers] at dies
    by_cases same : other.worker = handle
    · -- it is not another turn's worker
      cases waits : s.tasks channel with
      | unsent => exact own (kept.single there (.inl waits) listed (.inr queued) (same.trans mine.symm))
      | queued => exact own (kept.single there (.inr waits) listed (.inr queued) (same.trans mine.symm))
      | completed => exact task waits
      | exited =>
        have closed := kept.exited channel other there waits
        rw [same, Worker.isClosed, running] at closed
        cases closed
    · rw [setWorker_other same] at dies
      exact served channel other there task dies

theorem served_close (kept : s.Kept) (served : s.Served) {cause : Cause}
    (leaving : (s.workers handle).phase = .leaving cause) : Served (s.close handle cause) := by
  have shut : Served (s.setWorker handle { phase := .closed cause }) := by
    refine served.setWorker ?_
    rintro (same | same) <;> cases same
    exact .inl leaving
  refine shut.of rfl ?_ fun _ => id
  intro channel task
  by_cases inside : .turn channel ∈ (s.workers handle).commands
  · have queued := (kept.held handle channel (Worker.mem_commands inside)).1
    show s.tasks channel ≠ .completed
    rw [queued]
    simp
  · simpa [close, inside] using task

/-- Whether a claim keeps a worker that a bad turn stopped decides whether its turn is served. -/
theorem served_act (kept : s.Kept) (served : s.Served) {action : Action}
    (going : ∀ app turnId, action ≠ .finish app turnId) (free : s.lock = none) :
    Served (s.act action) ↔ ¬ s.Hazard (.act action) := by
  have moves : Moves s.agent (s.told action) (s.agent.next (s.told action)) _ := moves_step s.agent (s.told action)
  obtain ⟨agent, tasks, phase⟩ := calls_same (s.agent.workerCalls (s.told action))
    { s with agent := s.agent.next (s.told action) }
  have agent : (s.act action).agent = s.agent.next (s.told action) := agent
  have tasks : (s.act action).tasks = s.tasks := tasks
  have dying : ∀ worker, ((s.act action).workers worker).Dying ↔ (s.workers worker).Dying :=
    fun worker => Worker.dying_of_phase (phase worker)
  constructor
  · intro after hazard
    cases action with
    | proceed n answer =>
      obtain ⟨-, call, worker, found, stage, idle, mine, leaving, same⟩ := hazard
      have opened : s.workerClosed n = false := by
        simp [workerClosed, found, mine, Worker.isClosed, leaving]
      have keeps : Keeps call.request (s.workerClosed n) (s.agent.apps call.request.app) worker :=
        ⟨idle, mine, opened ▸ same⟩
      obtain ⟨turn, turns, rfl⟩ : ∃ turn, (s.agent.next (s.told (.proceed n answer))).turns = s.agent.turns ++ [turn] ∧
          turn.worker = worker := next_keeps found stage keeps
      have listed : (s.act (.proceed n answer)).agent.turns[s.agent.turns.length]? = some turn := by
        rw [agent]
        exact turns ▸ List.getElem?_concat_length
      have task : (s.act (.proceed n answer)).tasks s.agent.turns.length ≠ .completed := by
        intro completed
        rw [tasks] at completed
        exact absurd (kept.started _ (by simp [completed])) (Nat.lt_irrefl _)
      exact after _ turn listed task ((dying turn.worker).mpr (.inl leaving))
    | _ => exact hazard
  · intro safe channel turn listed task dying'
    rw [agent] at listed
    rw [tasks] at task
    have dies := (dying turn.worker).mp dying'
    rcases moves_listed_before kept.sound moves listed with before | ⟨-, begins⟩
    · exact served channel turn before task dies
    · obtain ⟨n, answer, call, named, found, stage, new | keeps⟩ := next_begins begins
      · rw [new, kept.fresh _ (Nat.le_refl _)] at dies
        rcases dies with none | none <;> cases none
      · cases action with
        | proceed m given =>
          obtain ⟨rfl, rfl⟩ := Action.proceed.inj named
          obtain ⟨opened, idle, mine, same⟩ := keeps.opened
          rcases dies with leaving | closed
          · exact safe ⟨free, call, turn.worker, found, stage, idle, mine, leaving, same⟩
          · simp [workerClosed, found, mine, Worker.isClosed, closed] at opened
        | _ => cases named

theorem next_served (kept : s.Kept) (served : s.Served) (event : Event) :
    Served (s.next event) ↔ ¬ s.Hazard event := by
  have goes : Goes s event (s.next event) := goes_next event
  generalize s.next event = after at goes ⊢
  cases goes with
  | stays _ quiet => exact iff_of_true served quiet
  | acts action going free => exact served_act kept served going free
  | sends c turn listed task => exact iff_of_true (served_send served task) id
  | receives handle => exact iff_of_true (served.setWorker Worker.receive_dying) id
  | turnEnds handle keepRunning c running => exact iff_of_true (served_turnEnds kept served running keepRunning) id
  | sessionEnds handle success resetting =>
    refine iff_of_true (Served.of (s := s.setWorker handle _) ?_ rfl (fun _ => id) fun _ => id) id
    refine served.setWorker ?_
    intro dies
    cases success <;> rcases dies with none | none <;> cases none
  | closes handle cause leaving => exact iff_of_true (served_close kept served leaving) id
  | finishes c turn listed told going =>
    refine iff_of_true (served.of ?_ (fun _ => id) fun _ => id) id
    exact moves_turns (moves_step s.agent (.finish turn.app turn.id)) (by simp)

theorem served_initial : Served {} := by
  intro c turn listed
  exact absurd listed (by simp)

/-- In whatever order starts, turns, workers and queues take their steps: no turn has a worker
    that a bad turn stopped, unless a start claims it before that worker's queue is closed. -/
theorem turns_served_iff (events : List Event) :
    Along next (fun s event => (s.next event).Served) {} events ↔ Along next (fun s event => ¬ s.Hazard event) {} events :=
  along_congr (fun s : Service => s.Kept ∧ s.Served) (fun _ event stands served => ⟨next_kept stands.1 event, served⟩)
    (fun _ event stands => next_served stands.1 stands.2 event) events
    ⟨kept_initial, served_initial⟩

namespace Sample

def notebook : AppId := ⟨"notebook", by decide⟩

def ask (requestId : String) : StartRequest :=
  { app := notebook, requestId, profile := ⟨"openai", "gpt", "off", false⟩, lane := .interactive, principal := "notebook" }

/-- A turn ends badly, and another is started before its worker has closed the queue. -/
def hurried : List Event :=
  [.act (.start 0 (ask "1") true), .act (.proceed 0 {}), .act (.proceed 0 {}), .send 0, .receive 0, .turnEnds 0 false,
    .finish 0, .act (.start 1 (ask "2") true), .act (.proceed 1 {}), .act (.proceed 1 {}), .close 0, .send 1]

end Sample

open Sample in
/-- The second turn is given the first one's worker, and fails with it. -/
theorem turn_unserved :
    let s := hurried.foldl next {}
    s.agent.turns.map Turn.worker = [0, 0] ∧ s.tasks 0 = .completed ∧ (s.workers 0).phase = .closed .turn ∧
      s.tasks 1 = .exited ∧ ¬ s.Served := by
  refine ⟨by decide, by decide, by decide, by decide, ?_⟩
  intro served
  exact served 1 _ rfl (by decide) (.inr (by decide))

end Service

end Remagic.Agent.Workers
