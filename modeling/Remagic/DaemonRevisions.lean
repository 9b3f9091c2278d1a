import Remagic.DaemonLoop

/-!
# The revision of the state

A control client may name the revision that it has seen, and its request is refused once
the revision is another one. The revision counts the transitions of the domain, and the
check is made when the request arrives.
-/

namespace Remagic.Daemon
open Supervisor
open Programs (Program)

/-! ## What an operation does to the revision -/

def SharedDaemon.revision (s : SharedDaemon) : Nat := s.state.sequence

/-- `self.sequence.wrapping_add(1)`. -/
def revisionAfter (revision : Nat) : Nat := (revision + 1) % (u64Max + 1)

/-- The domain and its revision stay, or the revision is the next one. -/
def Renumbered (s t : SharedDaemon) : Prop :=
  t.domain = s.domain ∧ t.revision = s.revision ∨ t.revision = revisionAfter s.revision

theorem Renumbered.of_state {s t : SharedDaemon} (same : t.state = s.state) : Renumbered s t := by
  left
  unfold SharedDaemon.domain SharedDaemon.revision
  rw [same]
  exact ⟨rfl, rfl⟩

theorem ManagerState.apply_sequence {s t : ManagerState} {transition : Transition} (applied : s.apply transition = some t) :
    t.sequence = revisionAfter s.sequence := by
  obtain ⟨domain, -, rfl⟩ := Option.map_eq_some_iff.mp applied
  rfl

namespace SharedDaemon
variable {s : SharedDaemon}

theorem apply_renumbered (transition : Transition) : Renumbered s (s.apply transition).2 := by
  unfold apply
  cases applied : s.state.apply transition with
  | none => exact .of_state rfl
  | some state => exact .inr (ManagerState.apply_sequence applied)

theorem beginPark_renumbered (id : AppId) (returningSystem : Bool) : Renumbered s (s.beginPark id returningSystem).2 := by
  unfold beginPark
  split
  · exact apply_renumbered _
  · exact .of_state rfl

theorem finishPark_renumbered (id : AppId) : Renumbered s (s.finishPark id).2 := by
  unfold finishPark
  split
  · exact apply_renumbered _
  · split <;> exact .of_state rfl

theorem appParked_renumbered (id : AppId) : Renumbered s (s.appParked id).2 := by
  unfold appParked
  split
  · exact apply_renumbered _
  · exact .of_state rfl

theorem appReady_renumbered (id : AppId) (answer : Answer) : Renumbered s (s.appReady id answer).2 := by
  unfold appReady
  split
  · rw [marked_snd]
    exact apply_renumbered _
  · exact .of_state rfl

/-- To forget the last application is no change of the domain. -/
theorem clearClosedLastApp_revision (id : AppId) :
    (s.clearClosedLastApp id).domain = s.domain ∧ (s.clearClosedLastApp id).revision = s.revision := by
  unfold clearClosedLastApp
  split <;> exact ⟨rfl, rfl⟩

theorem closed_renumbered (id : AppId) (wasForeground : Bool) : Renumbered s (s.closed id wasForeground).2 := by
  unfold closed
  split
  · have moved := apply_renumbered (s := s) (.appExited id)
    split
    next after applied =>
      rw [applied] at moved
      obtain ⟨domain, revision⟩ := clearClosedLastApp_revision (s := after) id
      unfold Renumbered
      simp only
      rw [domain, revision]
      exact moved
    next => exact moved
  · exact .inl (clearClosedLastApp_revision id)

theorem stopped_renumbered (id : AppId) : Renumbered s (s.stopped id).2 := by
  unfold stopped
  split
  · exact apply_renumbered _
  · split <;> exact .of_state rfl

theorem commitReady_renumbered (id : AppId) (answer : Answer) : Renumbered s (s.commitReady id answer).2 := by
  have moved := apply_renumbered (s := s) (.appReady id)
  unfold commitReady
  split
  next after applied =>
    rw [applied] at moved
    rw [marked_snd]
    exact moved
  next => exact moved

end SharedDaemon

/-- `restore_system` takes the domain over. -/
def Op.restores {β : Type} : Op β → Bool
  | .beginRestore => true
  | _ => false

/-- The kinds of operations that may change the domain. -/
def Kind.moves : Kind → Bool
  | .domain | .grant | .ready => true
  | _ => false

/-- Whatever changes the domain counts it, but for `restore_system`. -/
theorem Op.renumbered {β : Type} (op : Op β) (me : Nat) (answer : Answer) (s : SharedDaemon)
    (counted : op.restores = true → s.domain = .restoringSystem) : Renumbered s (op.exec me answer s).2 := by
  by_cases moves : op.kind.moves = true
  · cases op with
    | apply transition => exact SharedDaemon.apply_renumbered transition
    | beginRestore => exact .inl ⟨(counted rfl).symm, rfl⟩
    | beginPark id returningSystem => exact SharedDaemon.beginPark_renumbered id returningSystem
    | finishPark id => exact SharedDaemon.finishPark_renumbered id
    | appParked id => exact SharedDaemon.appParked_renumbered id
    | appReady id => exact SharedDaemon.appReady_renumbered id answer
    | closed id wasForeground => exact SharedDaemon.closed_renumbered id wasForeground
    | stopped id => exact SharedDaemon.stopped_renumbered id
    | commitReady id => exact SharedDaemon.commitReady_renumbered id answer
    | acquire lock => cases lock <;> cases moves
    | release lock failed => cases lock <;> cases moves
    | edit change => cases change <;> cases moves
    | call made => rcases made.kind_cases with kind | kind | kind <;> simp [Op.kind, kind, Kind.moves] at moves
    | _ => cases moves
  · refine .of_state ((op.frame me answer s).state ?_ ?_ ?_)
    all_goals
      intro kind
      rw [kind] at moves
      exact moves rfl

/-! ## Control requests -/

/-- What a control request asks for, where it is to change something. -/
inductive ControlIntent where
  | event (event : Event)
  | package (request : PackageRequest)
  /-- `SetIdleSuspend` and `SetBacklight`, which the client's task carries out itself. -/
  | setting
  deriving DecidableEq

structure ControlRequest where
  expectedStateRevision : Option Nat
  intent : ControlIntent
  deriving DecidableEq

/-- The daemon with the requests of its control clients. -/
structure Control where
  machine : Machine
  /-- The requests that `control_v2` has found no conflict in, by their clients. -/
  admitted : Nat → Option ControlRequest := fun _ => none
  /-- The revisions that events are for, by the numbers of their requests. -/
  revisions : Nat → Option Nat := fun _ => none
  /-- The revisions that tasks are for which have yet to begin. -/
  awaited : Nat → Option Nat := fun _ => none

inductive Move where
  | step (step : Step)
  /-- A client's request arrives. -/
  | request (client : Nat) (request : ControlRequest)
  /-- The client's task goes on with it. -/
  | proceed (client : Nat)

namespace Control

def domain (c : Control) : DomainState := c.machine.shared.domain

def revision (c : Control) : Nat := c.machine.shared.revision

/-- The check of `control_v2`. -/
def receive (client : Nat) (request : ControlRequest) (c : Control) : Control :=
  if (c.admitted client).isNone ∧ request.expectedStateRevision.all (· = c.revision) then
    { c with admitted := Function.update c.admitted client (some request) }
  else c

def proceed (client : Nat) (c : Control) : Control :=
  match c.admitted client with
  | some ⟨expected, .event event⟩ =>
    { c with
      machine := c.machine.next (.create event true)
      admitted := Function.update c.admitted client none
      revisions := Function.update c.revisions c.machine.shared.requests expected }
  | some ⟨expected, .package request⟩ =>
    { c with
      machine := c.machine.next (.spawn client (.package request))
      admitted := Function.update c.admitted client none
      awaited := Function.update c.awaited client expected }
  | some ⟨_, .setting⟩ => { c with admitted := Function.update c.admitted client none }
  | none => c

/-- The task has an operation to perform, and may. -/
def able (task : Nat) (c : Control) : Bool :=
  match c.machine.tasks task with
  | some (_, .perform op _) => op.ready task c.machine.shared
  | _ => false

/-- Whether the task is there for an event that is cancelled. -/
def cancelled (task : Nat) (c : Control) : Bool :=
  match c.machine.tasks task with
  | some (.serving queued, _) => c.machine.shared.fences queued.request = .cancelled
  | _ => false

/-- What is awaited of a task after the step. -/
def awaitedAfter (c : Control) : Step → Nat → Option Nat
  | .serve =>
    match c.machine.tasks loopTask, c.machine.shared.queue with
    | none, queued :: _ => Function.update c.awaited loopTask (c.revisions queued.request)
    | _, _ => c.awaited
  | .perform task _ => if c.able task then Function.update c.awaited task none else c.awaited
  | .spawn task _ | .finish task | .abandon task => Function.update c.awaited task none
  | _ => c.awaited

def next (c : Control) : Move → Control
  | .step step => { c with machine := c.machine.next step, awaited := c.awaitedAfter step }
  | .request client request => c.receive client request
  | .proceed client => c.proceed client

/-- The revision that the request is for whose effect the move begins. -/
def begins (c : Control) : Move → Option Nat
  | .step (.perform task _) => if c.able task && !c.cancelled task then c.awaited task else none
  | .proceed client =>
    match c.admitted client with
    | some ⟨expected, .setting⟩ => expected
    | _ => none
  | _ => none

end Control

/-! ## The runs in which the revision tells -/

/-- `restore_system` takes the domain over from a restore only, and the revisions do not
    wrap around. -/
def Program.counted {α : Type} : Program Op α → SharedDaemon → Prop
  | .perform op _, s => (op.restores = true → s.domain = .restoringSystem) ∧ (op.kind.moves = true → s.revision < u64Max)
  | .done _, _ => True

def Task.counted : Option Task → SharedDaemon → Prop
  | some (_, program), s => Program.counted program s
  | none, _ => True

def Machine.counted (m : Machine) : Step → Prop
  | .perform task _ => Task.counted (m.tasks task) m.shared
  | _ => True

/-- The domain changes only along with the revision, and a request begins at the
    revision that it is for. -/
def Control.counted (c : Control) (move : Move) : Prop :=
  (match move with
    | .step step => c.machine.counted step
    | _ => True) ∧
    ∀ revision ∈ c.begins move, c.revision = revision

instance Program.counted.decide {α : Type} : ∀ (program : Program Op α) (s : SharedDaemon), Decidable (Program.counted program s)
  | .perform op _, s =>
    inferInstanceAs
      (Decidable ((op.restores = true → s.domain = .restoringSystem) ∧ (op.kind.moves = true → s.revision < u64Max)))
  | .done _, _ => isTrue trivial

instance Task.counted.decide : ∀ (doing : Option Task) (s : SharedDaemon), Decidable (Task.counted doing s)
  | some (_, program), s => Program.counted.decide program s
  | none, _ => isTrue trivial

instance Machine.counted.decide (m : Machine) : ∀ step, Decidable (m.counted step)
  | .perform task _ => inferInstanceAs (Decidable (Task.counted (m.tasks task) m.shared))
  | .create .. | .enqueue _ | .giveUp _ | .fire _ | .serve | .spawn .. | .finish _ | .abandon _ | .unitExits _ | .displayExits
  | .homeCommits _ => isTrue trivial

instance Control.counted.decide (c : Control) : ∀ move, Decidable (c.counted move)
  | .step step => inferInstanceAs (Decidable (c.machine.counted step ∧ ∀ revision ∈ c.begins (.step step), c.revision = revision))
  | .request client request =>
    inferInstanceAs (Decidable (True ∧ ∀ revision ∈ c.begins (.request client request), c.revision = revision))
  | .proceed client => inferInstanceAs (Decidable (True ∧ ∀ revision ∈ c.begins (.proceed client), c.revision = revision))

/-- The revision grows with each change of the domain. -/
def Grown (s t : SharedDaemon) : Prop := s.revision ≤ t.revision ∧ (t.revision = s.revision → t.domain = s.domain)

namespace Grown

theorem refl (s : SharedDaemon) : Grown s s := ⟨Nat.le_refl _, fun _ => rfl⟩

theorem trans {s t u : SharedDaemon} (first : Grown s t) (second : Grown t u) : Grown s u := by
  obtain ⟨below, same⟩ := first
  obtain ⟨below', same'⟩ := second
  refine ⟨by omega, fun equal => ?_⟩
  rw [same' (by omega), same (by omega)]

theorem of_state {s t : SharedDaemon} (same : t.state = s.state) : Grown s t := by
  unfold Grown SharedDaemon.domain SharedDaemon.revision
  rw [same]
  exact ⟨Nat.le_refl _, fun _ => rfl⟩

theorem of_renumbered {s t : SharedDaemon} (renumbered : Renumbered s t) (room : s.revision < u64Max) : Grown s t := by
  rcases renumbered with ⟨domain, revision⟩ | next
  · exact ⟨by omega, fun _ => domain⟩
  · have grown : t.revision = s.revision + 1 := by
      rw [next]
      exact Nat.mod_eq_of_lt (by omega)
    exact ⟨by omega, fun equal => by omega⟩

end Grown

theorem Op.grown {β : Type} (op : Op β) (me : Nat) (answer : Answer) (s : SharedDaemon)
    (counted : op.restores = true → s.domain = .restoringSystem) (room : op.kind.moves = true → s.revision < u64Max) :
    Grown s (op.exec me answer s).2 := by
  by_cases moves : op.kind.moves = true
  · exact .of_renumbered (op.renumbered me answer s counted) (room moves)
  · refine .of_state ((op.frame me answer s).state ?_ ?_ ?_)
    all_goals
      intro kind
      rw [kind] at moves
      exact moves rfl

theorem Program.grown {α : Type} {program : Program Op α} {s : SharedDaemon} (counted : Program.counted program s) (me : Nat)
    (answer : Answer) : Grown s (program.advance (operations me) answer s).2 := by
  cases program with
  | done result => exact .refl s
  | perform op next =>
    unfold Programs.Program.advance
    simp only
    by_cases able : (operations me).ready op s = true
    · rw [if_pos able]
      exact op.grown me answer s counted.1 counted.2
    · rw [if_neg able]
      exact .refl s

/-- One step of the machine. -/
theorem Machine.grown {m : Machine} {step : Step} (counted : m.counted step) : Grown m.shared (m.next step).shared := by
  unfold Machine.next
  by_cases failed : m.failed = true
  · rw [if_pos failed]
    exact .refl _
  · rw [if_neg failed]
    cases step with
    | perform task answer =>
      simp only [Machine.perform]
      simp only [Machine.counted] at counted
      cases there : m.tasks task with
      | none => exact .refl _
      | some doing =>
        rw [there] at counted
        exact Program.grown counted task answer
    | create event cancellable =>
      simp only
      split <;> exact .of_state rfl
    | enqueue request =>
      refine .of_state ?_
      simp only [SharedDaemon.enqueue]
      repeat' split
      all_goals rfl
    | giveUp request =>
      simp only
      split
      · exact .of_state rfl
      · exact .refl _
    | fire index =>
      refine .of_state ?_
      simp only [SharedDaemon.fire]
      repeat' split
      all_goals rfl
    | serve =>
      simp only [Machine.serve]
      split
      · exact .of_state rfl
      · exact .refl _
    | spawn task role =>
      simp only [Machine.spawn]
      repeat' split
      all_goals exact .refl _
    | finish task =>
      simp only [Machine.finish]
      split
      · exact .of_state rfl
      · exact .refl _
    | abandon task =>
      simp only [Machine.abandon]
      split
      · exact .of_state rfl
      · exact .refl _
    | unitExits id => exact .of_state rfl
    | displayExits => exact .of_state rfl
    | homeCommits sequence => exact .of_state rfl

namespace Control
variable {c : Control}

theorem grown {move : Move} (counted : c.counted move) : Grown c.machine.shared (c.next move).machine.shared := by
  cases move with
  | step step => exact Machine.grown counted.1
  | request client request =>
    simp only [next, receive]
    split <;> exact .refl _
  | proceed client =>
    simp only [next, proceed]
    split
    · exact Machine.grown trivial
    · exact Machine.grown trivial
    · exact .refl _
    · exact .refl _

theorem run_grown {moves : List Move} (along : Runs.Along next counted c moves) :
    Grown c.machine.shared (moves.foldl next c).machine.shared :=
  Runs.Along.invariant (fun after => Grown c.machine.shared after.machine.shared)
    (fun _ _ before counted => before.trans (grown counted)) (.refl _) along

/-- Between two states of one revision there is one domain. -/
theorem between {first second : List Move} (along : Runs.Along next counted c (first ++ second))
    (same : ((first ++ second).foldl next c).revision = c.revision) : (first.foldl next c).domain = c.domain := by
  obtain ⟨before, after⟩ := Runs.along_append.mp along
  obtain ⟨below, unchanged⟩ := run_grown before
  obtain ⟨below', -⟩ := run_grown after
  rw [List.foldl_append] at same
  refine unchanged ?_
  unfold revision at same
  omega

end Control

/-- The daemon when it begins to serve clients. -/
def Control.boot (manifests : List AppManifest) (sessions : Table AppSession) : Control :=
  { machine := .boot manifests sessions }

/-- Along a run that counts each change of the domain, states of one revision are of one
    domain, as are those between them, and a request that begins at the revision it is
    for begins before any change of the domain that its client saw. -/
theorem revision_fences (manifests : List AppManifest) (sessions : Table AppSession) (before after : List Move)
    (along : Runs.Along Control.next Control.counted (Control.boot manifests sessions) (before ++ after)) :
    let seen := before.foldl Control.next (Control.boot manifests sessions)
    let now := after.foldl Control.next seen
    (now.revision = seen.revision → ∀ first second, after = first ++ second → (first.foldl Control.next seen).domain = seen.domain) ∧
      ∀ move revision, now.counted move → now.begins move = some revision → seen.revision = revision →
        ∀ first second, after = first ++ second → (first.foldl Control.next seen).domain = seen.domain := by
  intro seen now
  have later := (Runs.along_append.mp along).2
  have same : now.revision = seen.revision → ∀ first second, after = first ++ second →
      (first.foldl Control.next seen).domain = seen.domain := by
    intro equal first second split
    subst split
    exact Control.between later equal
  refine ⟨same, fun move revision counted begins saw => same ?_⟩
  rw [saw]
  exact counted.2 revision begins

/-- The event loop goes on, and everything succeeds. -/
def goOn (steps : Nat) : List Move := List.replicate steps (.step (.perform loopTask {}))

def takeUp (request : Nat) : List Move := [.step (.enqueue request), .step .serve]

/-- A turn of the event loop in which everything succeeds. -/
def turn (request : Nat) : List Move := takeUp request ++ goOn 25 ++ [.step (.finish loopTask)]

/-- A client that has seen the revision asks for the event. -/
def clientAsks (client revision : Nat) (event : Event) : List Move := [.request client ⟨some revision, .event event⟩, .proceed client]

theorem revision_fences_manager :
    let seen := (Move.step (.create .openManager true) :: turn 0).foldl Control.next (Control.boot [] fun _ => none)
    seen.domain = .manager ∧ seen.revision = 2 ∧
      ((clientAsks 1 2 .returnSystem ++ takeUp 1).foldl Control.next seen).domain = seen.domain :=
  ⟨by decide +kernel, by decide +kernel,
    (revision_fences [] (fun _ => none) (.step (.create .openManager true) :: turn 0) (clientAsks 1 2 .returnSystem ++ takeUp 1)
      (by decide +kernel)).2 (.step (.perform loopTask {})) 2 (by decide +kernel) (by decide +kernel) (by decide +kernel)
      _ [] (List.append_nil _).symm⟩

/-- A long press of the power key takes the manager's domain over at the same revision.
    The request of a client that saw the manager then begins after the manager is gone. -/
theorem restore_keeps_revision :
    let seen := (Move.step (.create .openManager true) :: turn 0).foldl Control.next (Control.boot [] fun _ => none)
    let restoring := (Move.step (.create .longPower false) :: clientAsks 1 2 .openManager ++ takeUp 1 ++ goOn 4).foldl Control.next seen
    let begun := (goOn 25 ++ .step (.finish loopTask) :: takeUp 2).foldl Control.next restoring
    seen.revision = 2 ∧ seen.domain = .manager ∧ restoring.revision = 2 ∧ restoring.domain = .restoringSystem ∧
      begun.begins (.step (.perform loopTask {})) = some 2 ∧ begun.domain = .system := by
  decide +kernel

end Remagic.Daemon
