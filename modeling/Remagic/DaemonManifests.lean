import Remagic.DaemonPackages
import Remagic.DaemonReloads

/-!
# The manifests in memory

Requests on packages change what is on disk, and reload under the package lock; the event
loop reloads beside them without it. A bundle is prepared after what is pending on disk has
been recovered, so a request may change the manifests there and then fail. As long as no
reload puts older manifests in the place of newer ones, and no request goes that was the
last one to reload, the manifests in memory are those on disk whenever nothing of the kind
is under way.
-/

namespace Remagic.Daemon
open Supervisor
open Programs (Program)
open Snapshots.Shelf (put_self put_of_ne)

/-! ## The daemon beside what is on disk -/

structure Filing where
  machine : Machine
  shelf : Shelf
  /-- The requests on packages, until their operations are over. -/
  requests : List Nat := []
  /-- The edition that the request has left on disk. -/
  left : Nat → Nat := fun _ => 0
  /-- The latest edition left by a request that has succeeded. -/
  acknowledged : Nat := 0

inductive Happening where
  | step (step : Step)
  /-- The request changes the manifests on disk: its operation on the package does, or the
      recovery of what is pending for any application, before a bundle is prepared. -/
  | change (task : Nat) (manifests : List AppManifest)
  /-- The operation on a package returns whose client was dropped in the meantime. -/
  | returned (task : Nat)

def Role.packages : Role → Bool
  | .package _ => true
  | .serving _ | .inputMode .. | .runnerExit .. | .handoff .. => false

namespace Filing

def shelved (f : Filing) : Shelved := ⟨f.machine.shared, f.shelf⟩

def memory (f : Filing) : List AppManifest := f.machine.shared.manifests

/-- The task prepares a bundle, or its operation on a package is under way. -/
def operating (task : Nat) (f : Filing) : Bool :=
  match f.machine.tasks task with
  | some (_, .perform op _) => op.errand = .prepare ∨ op.errand = .package
  | some (_, .done _) | none => false

/-- An operation goes on whose client was dropped. -/
def orphaned (task : Nat) (f : Filing) : Bool := (f.machine.tasks task).isNone && f.requests.contains task

/-- What becomes of what is on disk with the operation that the task performs, if it may. -/
def shelvePerform (task : Nat) (answer : Answer) (f : Filing) : Shelf :=
  match f.machine.tasks task with
  | some (_, .perform op _) => if op.ready task f.machine.shared then op.shelve task answer f.shelf else f.shelf
  | _ => f.shelf

/-- The task is over. -/
def close (task : Nat) (f : Filing) : Filing :=
  { f with
    shelf := f.shelf.put task .idle
    requests := f.requests.filter fun other => other ≠ task
    left := Function.update f.left task 0 }

def finish (task : Nat) (f : Filing) : Filing :=
  match f.machine.tasks task with
  | some (role, .done outcome) =>
    { f.close task with
      machine := f.machine.next (.finish task)
      acknowledged := if role.packages && outcome.answered.isOk then max f.acknowledged (f.left task) else f.acknowledged }
  | _ => f

def abandon (task : Nat) (f : Filing) : Filing :=
  if task ≠ loopTask ∧ (f.machine.tasks task).isSome then
    { f.close task with
      machine := f.machine.next (.abandon task)
      requests := if f.operating task then f.requests else (f.close task).requests }
  else f

def spawn (task : Nat) (role : Role) (f : Filing) : Filing :=
  if f.requests.contains task then f
  else
    { f with
      machine := f.machine.next (.spawn task role)
      requests := if role.packages ∧ task ≠ loopTask ∧ (f.machine.tasks task).isNone then task :: f.requests else f.requests }

/-- Every `load_all` returns what is on disk. -/
def next (f : Filing) : Happening → Filing
  | .step step =>
    if f.machine.failed then f
    else match step with
      | .perform task answer =>
        { f with
          machine := f.machine.next (.perform task { answer with manifests := f.shelf.latest })
          shelf := f.shelvePerform task { answer with manifests := f.shelf.latest } }
      | .spawn task role => f.spawn task role
      | .finish task => f.finish task
      | .abandon task => f.abandon task
      | _ => { f with machine := f.machine.next step }
  | .change task manifests =>
    if f.operating task then
      { f with
        shelf := f.shelf.change manifests f.memory
        left := Function.update f.left task (f.shelf.edition + 1) }
    else if f.orphaned task then { f with shelf := f.shelf.change manifests f.memory }
    else f
  | .returned task => if f.orphaned task then { f with requests := f.requests.filter fun other => other ≠ task } else f

def boot (manifests : List AppManifest) (sessions : Table AppSession) : Filing :=
  { machine := .boot manifests sessions, shelf := { editions := fun _ => manifests } }

/-- No request on a package and no reload is under way. -/
def quiet (f : Filing) : Prop := f.requests = [] ∧ (f.shelf.readers loopTask).reading = false

/-- The task is a request on a package that has not read what is on disk. -/
def owes (task : Nat) (f : Filing) : Bool :=
  match f.machine.tasks task with
  | some (role, _) => role.packages && (f.shelf.readers task = .idle || f.shelf.readers task = .owed)
  | none => false

/-- The task has yet to put into memory what is on disk. -/
def due (task : Nat) (f : Filing) : Bool :=
  f.owes task || match f.shelf.readers task with
    | .read edition _ => edition = f.shelf.edition
    | .idle | .owed | .published _ => false

/-- The manifests in memory are those on disk, or another task has yet to make them so. -/
def spares (task : Nat) (f : Filing) : Prop :=
  f.memory = f.shelf.latest ∨ ∃ other ∈ loopTask :: f.requests, other ≠ task ∧ f.due other = true

/-- What the task has read is on disk, or was not read before what is in memory. -/
def ahead (task : Nat) (f : Filing) : Prop :=
  match f.shelf.readers task with
  | .read edition manifests => manifests = f.shelf.latest ∨ f.shelf.shown ≤ edition
  | .idle | .owed | .published _ => True

end Filing

/-- No older manifests take the place of newer ones. -/
def Task.inTurn (task : Nat) (f : Filing) : Option Task → Prop
  | some (_, .perform op _) => op.errand = .manifests → f.ahead task
  | some (_, .done _) | none => True

def Task.loads (answer : Answer) : Option Task → Prop
  | some (_, .perform op _) => op.errand = .load → answer.ok = true
  | some (_, .done _) | none => True

namespace Filing

/-- Every `load_all` succeeds. -/
def loads (f : Filing) : Happening → Prop
  | .step (.perform task answer) => Task.loads answer (f.machine.tasks task)
  | _ => True

/-- The steps that take the reloads in their turn. -/
def inTurn (f : Filing) : Happening → Prop
  | .step (.perform task _) => Task.inTurn task f (f.machine.tasks task)
  -- whoever goes without a reload leaves what is on disk in memory, or someone to reload it
  | .step (.finish task) => f.due task = true → f.spares task
  | .step (.abandon task) => task ≠ loopTask → f.due task = true → f.spares task
  | .change task manifests =>
    f.orphaned task = true → manifests = f.memory ∨ ∃ other ∈ f.requests, f.owes other = true
  | _ => True

instance spares.decide (task : Nat) (f : Filing) : Decidable (f.spares task) := by
  unfold spares
  infer_instance

instance ahead.decide (task : Nat) (f : Filing) : Decidable (f.ahead task) := by
  unfold ahead
  cases f.shelf.readers task <;> infer_instance

instance quiet.decide (f : Filing) : Decidable f.quiet :=
  inferInstanceAs (Decidable (f.requests = [] ∧ (f.shelf.readers loopTask).reading = false))

end Filing

instance Task.inTurn.decide (task : Nat) (f : Filing) : ∀ doing, Decidable (Task.inTurn task f doing)
  | some (_, .perform op _) => inferInstanceAs (Decidable (op.errand = .manifests → f.ahead task))
  | some (_, .done _) => isTrue trivial
  | none => isTrue trivial

instance Task.loads.decide (answer : Answer) : ∀ doing, Decidable (Task.loads answer doing)
  | some (_, .perform op _) => inferInstanceAs (Decidable (op.errand = .load → answer.ok = true))
  | some (_, .done _) => isTrue trivial
  | none => isTrue trivial

namespace Filing

instance loads.decide (f : Filing) : ∀ happening, Decidable (f.loads happening)
  | .step (.perform task answer) => Task.loads.decide answer (f.machine.tasks task)
  | .step (.create ..) | .step (.enqueue _) | .step (.giveUp _) | .step (.fire _) | .step .serve | .step (.spawn ..)
  | .step (.finish _) | .step (.abandon _) | .step (.unitExits _) | .step .displayExits | .step (.homeCommits _)
  | .change .. | .returned _ => isTrue trivial

instance inTurn.decide (f : Filing) : ∀ happening, Decidable (f.inTurn happening)
  | .step (.perform task _) => Task.inTurn.decide task f (f.machine.tasks task)
  | .step (.finish task) => inferInstanceAs (Decidable (f.due task = true → f.spares task))
  | .step (.abandon task) => inferInstanceAs (Decidable (task ≠ loopTask → f.due task = true → f.spares task))
  | .change task manifests => inferInstanceAs
    (Decidable (f.orphaned task = true → manifests = f.memory ∨ ∃ other ∈ f.requests, f.owes other = true))
  | .step (.create ..) | .step (.enqueue _) | .step (.giveUp _) | .step (.fire _) | .step .serve | .step (.spawn ..)
  | .step (.unitExits _) | .step .displayExits | .step (.homeCommits _) | .returned _ => isTrue trivial

/-! ## What holds all along -/

structure Sound (f : Filing) : Prop where
  kept : reloadDiscipline.Kept f.machine.tasks f.shelved
  idle : ∀ task, f.machine.tasks task = none → f.shelf.readers task = .idle
  placed : ∀ task role program, f.machine.tasks task = some (role, program) →
    (role.runs .package = true → task ∈ f.requests) ∧ (role.runs .load = true → task ∈ loopTask :: f.requests)
  owed : ∀ task, f.shelf.readers task = .owed → task ∈ f.requests
  reading : ∀ task edition manifests, f.shelf.readers task = .read edition manifests → task ∈ loopTask :: f.requests
  holds : f.shelf.Holds f.memory f.left f.acknowledged
  current : f.shelf.shown = f.shelf.edition ∨ ∃ task, f.due task = true

end Filing

theorem Op.operation_ready {β : Type} {op : Op β} (operation : op.errand = .prepare ∨ op.errand = .package) (me : Nat) (s : SharedDaemon) :
    op.ready me s = true := by
  cases op with
  | call made => rfl
  | acquire lock => cases lock <;> rcases operation with errand | errand <;> cases errand
  | edit change => cases change <;> rcases operation with errand | errand <;> cases errand
  | readModes look => rcases operation with errand | errand <;> cases errand
  | setPendingMode token mode => rcases operation with errand | errand <;> cases errand
  | _ => rfl

theorem Role.packages_runs (role : Role) : role.runs .package = role.packages := by
  cases role <;> rfl

variable {role : Role}

namespace Filing
variable {f g : Filing} {task : Nat} {answer : Answer}

theorem due_kept (due : f.due task = true) (tasks : g.machine.tasks task = f.machine.tasks task)
    (reader : g.shelf.readers task = f.shelf.readers task) (edition : g.shelf.edition = f.shelf.edition) : g.due task = true := by
  have same : g.due task = f.due task := by simp [Filing.due, owes, tasks, reader, edition]
  exact same.trans due

/-- What the task answers for with the operation. -/
theorem Sound.answers {β : Type} {op : Op β} {next : β → Program Op Outcome} (sound : f.Sound)
    (there : f.machine.tasks task = some (role, .perform op next)) (able : op.ready task f.machine.shared = true) (answer : Answer)
    (loads : op.errand = .load → answer.ok = true ∧ answer.manifests = f.shelf.latest) :
    op.allowed (f.shelf.readers task) ∧ role.runs op.errand = true ∧
      (next (op.exec task answer f.machine.shared).1).Meets (shelving task) (reloadContract task role)
        (fun outcome => At task role (role.leaves outcome)) ⟨(op.exec task answer f.machine.shared).2, op.shelve task answer f.shelf⟩ := by
  obtain ⟨⟨allowed, runs⟩, rest⟩ := sound.kept task role _ there f.shelved rfl able answer loads
  exact ⟨allowed, runs, rest⟩

/-- An operation is one of a request, which has not read the manifests yet. -/
theorem Sound.operates (sound : f.Sound) (operating : f.operating task = true) :
    f.owes task = true ∧ f.shelf.readers task = .idle := by
  unfold Filing.operating at operating
  cases there : f.machine.tasks task with
  | none => simp [there] at operating
  | some doing =>
    obtain ⟨role, program⟩ := doing
    cases program with
    | done outcome => simp [there] at operating
    | perform op next =>
      simp only [there, decide_eq_true_eq] at operating
      obtain ⟨allowed, runs, -⟩ := sound.answers there (Op.operation_ready operating task f.machine.shared) {}
        fun load => by
          rcases operating with prepare | package
          · rw [prepare] at load
            cases load
          · rw [package] at load
            cases load
      have packages : role.packages = true := by
        cases role with
        | package request => rfl
        | _ => rcases operating with prepare | package <;> simp_all [Role.runs]
      have idle : f.shelf.readers task = .idle := by
        cases reader : f.shelf.readers task with
        | idle => rfl
        | owed =>
          rw [reader] at allowed
          have load : op.errand = .load := allowed
          simp [load] at operating
        | read edition manifests =>
          rw [reader] at allowed
          simp [Op.publishes_errand allowed] at operating
        | published edition =>
          rw [reader] at allowed
          exact absurd operating (not_or.mpr ⟨allowed.2.2.1, allowed.2.2.2⟩)
      exact ⟨by simp [Filing.owes, there, packages, idle], idle⟩

theorem Sound.owes_known (sound : f.Sound) (owes : f.owes task = true) : task ∈ f.requests := by
  unfold Filing.owes at owes
  cases there : f.machine.tasks task with
  | none => simp [there] at owes
  | some doing =>
    obtain ⟨role, program⟩ := doing
    simp only [there, Bool.and_eq_true] at owes
    exact (sound.placed task role program there).1 (role.packages_runs.trans owes.1)

theorem Sound.due_known (sound : f.Sound) (due : f.due task = true) : task ∈ loopTask :: f.requests := by
  rcases (Bool.or_eq_true _ _).mp due with owes | reads
  · exact List.mem_cons_of_mem _ (sound.owes_known owes)
  · cases reader : f.shelf.readers task with
    | read edition manifests => exact sound.reading task edition manifests reader
    | _ => simp [reader] at reads

/-- With nothing under way, the manifests in memory are those on disk. -/
theorem Sound.settled (sound : f.Sound) (quiet : f.quiet) : f.memory = f.shelf.latest := by
  refine sound.holds.latest_of (sound.current.resolve_right ?_)
  rintro ⟨task, due⟩
  obtain ⟨none, unread⟩ := quiet
  have known := sound.due_known due
  rw [none] at known
  have loop : task = loopTask := List.mem_singleton.mp known
  subst loop
  rcases (Bool.or_eq_true _ _).mp due with owes | reads
  · have request := sound.owes_known owes
    rw [none] at request
    cases request
  · cases reader : f.shelf.readers loopTask with
    | read edition manifests => simp [reader, Snapshots.Reader.reading] at unread
    | _ => simp [reader] at reads

/-- Where others are spared by what a task leaves undone, someone is still to do it. -/
theorem Sound.spared (sound : f.Sound) (spares : f.spares task) :
    f.shelf.shown = f.shelf.edition ∨ ∃ other, other ≠ task ∧ f.due other = true := by
  rcases spares with latest | ⟨other, -, apart, due⟩
  · exact .inl (sound.holds.latest latest)
  · exact .inr ⟨other, apart, due⟩

/-! ### Beside the tasks -/

theorem Sound.world {machine : Machine} (sound : f.Sound) (tasks : machine.tasks = f.machine.tasks)
    (manifests : machine.shared.manifests = f.memory) : ({ f with machine } : Filing).Sound := by
  refine ⟨?_, ?_, ?_, sound.owed, sound.reading, ?_, ?_⟩
  · show reloadDiscipline.Kept machine.tasks ⟨machine.shared, f.shelf⟩
    rw [tasks]
    exact sound.kept.disturb fun _ _ => rfl
  · intro other gone
    exact sound.idle other (tasks ▸ gone)
  · intro other role program there
    exact sound.placed other role program (tasks ▸ there)
  · show f.shelf.Holds machine.shared.manifests f.left f.acknowledged
    rw [manifests]
    exact sound.holds
  · refine sound.current.imp_right ?_
    rintro ⟨other, due⟩
    exact ⟨other, due_kept due (congrFun tasks other) rfl rfl⟩

/-- A task begins. -/
theorem Sound.begins {requests : List Nat} (sound : f.Sound) (gone : f.machine.tasks task = none)
    (more : ∀ other ∈ f.requests, other ∈ requests)
    (own : (role.runs .package = true → task ∈ requests) ∧ (role.runs .load = true → task ∈ loopTask :: requests)) :
    ({ f with machine := f.machine.put task (some (role, role.program)), requests } : Filing).Sound := by
  have known : ∀ other ∈ loopTask :: f.requests, other ∈ loopTask :: requests := by
    intro other there
    rcases List.mem_cons.mp there with loop | request
    · exact List.mem_cons.mpr (.inl loop)
    · exact List.mem_cons_of_mem _ (more other request)
  refine ⟨?_, ?_, ?_, fun other owed => more other (sound.owed other owed),
    fun other edition manifests read => known other (sound.reading other edition manifests read), sound.holds, ?_⟩
  · exact sound.kept.put (role.reloads f.shelved (sound.idle task gone))
  · intro other none
    refine sound.idle other ?_
    by_cases same : other = task
    · exact same ▸ gone
    · exact (Function.update_of_ne same _ _).symm.trans none
  · intro other role' program there
    by_cases same : other = task
    · subst same
      cases (Function.update_self ..).symm.trans there
      exact own
    · obtain ⟨package, load⟩ := sound.placed other role' program ((Function.update_of_ne same _ _).symm.trans there)
      exact ⟨fun runs => more other (package runs), fun runs => known other (load runs)⟩
  · refine sound.current.imp_right ?_
    rintro ⟨other, due⟩
    refine ⟨other, ?_⟩
    have apart : other ≠ task := by
      rintro rfl
      simp [Filing.due, owes, gone, sound.idle other gone] at due
    exact due_kept due (Function.update_of_ne apart _ _) rfl rfl

/-- A task is over, which has nothing left to do, or which others spare. -/
theorem Sound.closes {machine : Machine} {requests : List Nat} {acknowledged : Nat} (sound : f.Sound)
    (tasks : machine.tasks = Function.update f.machine.tasks task none) (manifests : machine.shared.manifests = f.memory)
    (others : ∀ other ∈ f.requests, other ≠ task → other ∈ requests) (reached : acknowledged ≤ f.shelf.shown)
    (spared : f.due task = true → f.spares task) :
    ({ f.close task with machine, requests, acknowledged } : Filing).Sound := by
  have apart {other : Nat} {doing : Task} (there : machine.tasks other = some doing) : other ≠ task := by
    rintro rfl
    rw [tasks, Function.update_self] at there
    cases there
  have busy {other : Nat} {reader : Reload} (there : (f.shelf.put task .idle).readers other = reader) (busy : reader ≠ .idle) :
      other ≠ task ∧ f.shelf.readers other = reader := by
    by_cases same : other = task
    · subst same
      exact absurd (there.symm.trans put_self) busy
    · exact ⟨same, (put_of_ne same).symm.trans there⟩
  have known {other : Nat} (different : other ≠ task) (there : other ∈ loopTask :: f.requests) : other ∈ loopTask :: requests := by
    rcases List.mem_cons.mp there with loop | request
    · exact List.mem_cons.mpr (.inl loop)
    · exact List.mem_cons_of_mem _ (others other request different)
  refine ⟨?_, ?_, ?_, ?_, ?_, ?_, ?_⟩
  · show reloadDiscipline.Kept machine.tasks ⟨machine.shared, f.shelf.put task .idle⟩
    intro other role program there
    have different := apart there
    rw [tasks, Function.update_of_ne different] at there
    exact (sound.kept other role program there).relied (put_of_ne different)
  · intro other gone
    by_cases same : other = task
    · subst same
      exact put_self
    · refine (put_of_ne same).trans (sound.idle other ?_)
      have none : machine.tasks other = none := gone
      rwa [tasks, Function.update_of_ne same] at none
  · intro other role program there
    have different := apart there
    have before : machine.tasks other = some (role, program) := there
    rw [tasks, Function.update_of_ne different] at before
    obtain ⟨package, load⟩ := sound.placed other role program before
    exact ⟨fun runs => others other (package runs) different, fun runs => known different (load runs)⟩
  · intro other owed
    obtain ⟨different, before⟩ := busy owed (by simp)
    exact others other (sound.owed other before) different
  · intro other edition read there
    obtain ⟨different, before⟩ := busy there (by simp)
    exact known different (sound.reading other edition read before)
  · show (f.shelf.put task .idle).Holds machine.shared.manifests (Function.update f.left task 0) acknowledged
    rw [manifests]
    have left : f.shelf.Holds f.memory (Function.update f.left task 0) acknowledged := by
      have below : ∀ other, Function.update f.left task 0 other ≤ f.left other := by
        intro other
        by_cases same : other = task
        · subst same
          rw [Function.update_self]
          exact Nat.zero_le _
        · exact Nat.le_of_eq (Function.update_of_ne same _ _)
      refine ⟨sound.holds.shown, sound.holds.copy, sound.holds.latest, ?_, ?_, ?_, reached⟩
      · intro other edition copy read
        obtain ⟨bounded, same, own⟩ := sound.holds.read other edition copy read
        exact ⟨bounded, same, Nat.le_trans (below other) own⟩
      · intro other edition published
        obtain ⟨own, shown⟩ := sound.holds.published other edition published
        exact ⟨Nat.le_trans (below other) own, shown⟩
      · exact fun other => Nat.le_trans (below other) (sound.holds.left other)
    exact left.put (fun edition copy read => by cases read) fun edition published => by cases published
  · have still : f.shelf.shown = f.shelf.edition ∨ ∃ other, other ≠ task ∧ f.due other = true := by
      rcases sound.current with current | ⟨other, due⟩
      · exact .inl current
      · by_cases same : other = task
        · subst same
          exact sound.spared (spared due)
        · exact .inr ⟨other, same, due⟩
    refine still.imp_right ?_
    rintro ⟨other, different, due⟩
    refine ⟨other, due_kept due ?_ (put_of_ne different) rfl⟩
    show machine.tasks other = f.machine.tasks other
    rw [tasks, Function.update_of_ne different]

end Filing

/-! ### A task goes on -/

section
variable {me : Nat} {β : Type} {op : Op β} {answer : Answer} {manifests : List AppManifest}

theorem Op.exec_publishes (publishes : op.publishes = some manifests) (s : SharedDaemon) :
    (op.exec me answer s).2.manifests = manifests := by
  cases op with
  | edit change =>
    cases change <;> cases publishes
    rfl
  | _ => cases publishes

theorem Op.shelve_publishes (publishes : op.publishes = some manifests) (shelf : Shelf) :
    op.shelve me answer shelf = shelf.publish me manifests := by
  cases op with
  | edit change =>
    cases change <;> cases publishes
    rfl
  | _ => cases publishes

/-- The manifests in memory are replaced by publishing others alone. -/
theorem Op.publishes_of (errand : op.errand = .manifests) : ∃ manifests, op.publishes = some manifests := by
  cases op with
  | edit change => cases change <;> first | exact ⟨_, rfl⟩ | cases errand
  | acquire lock => cases lock <;> cases errand
  | release lock failed => cases lock <;> cases errand
  | ask question => cases question <;> cases errand
  | apply transition => cases transition <;> cases errand
  | post event epoch => cases event <;> cases errand
  | send event => cases event <;> cases errand
  | call made => cases made <;> first | cases errand | cases ‹ServiceUnit› <;> cases errand
  | _ => cases errand

theorem Op.shelve_load (load : op.errand = .load) (ok : answer.ok = true) (shelf : Shelf) :
    op.shelve me answer shelf = shelf.read me := by
  cases op with
  | call made =>
    cases made <;> first
      | exact if_pos ok
      | cases load
      | cases ‹ServiceUnit› <;> cases load
  | acquire lock => cases lock <;> cases load
  | release lock failed => cases lock <;> cases load
  | edit change => cases change <;> cases load
  | ask question => cases question <;> cases load
  | apply transition => cases transition <;> cases load
  | post event epoch => cases event <;> cases load
  | send event => cases event <;> cases load
  | _ => cases load

/-- With anything else, a task that has not read the manifests has yet to. -/
theorem Op.shelve_unread (load : op.errand ≠ .load) (manifests : op.errand ≠ .manifests) (shelf : Shelf) :
    op.shelve me answer shelf = shelf ∨
      op.errand = .package ∧ op.shelve me answer shelf = shelf.put me .owed := by
  cases op with
  | edit change => cases change <;> first | exact .inl rfl | exact absurd rfl manifests
  | call made =>
    cases made <;> first
      | exact .inl rfl
      | exact absurd rfl load
      | (simp only [Op.shelve]; split <;> first | exact .inl rfl | exact .inr ⟨rfl, rfl⟩)
  | _ => exact .inl rfl

end

namespace Filing
variable {f : Filing} {task : Nat} {answer : Answer} {β : Type} {op : Op β}

/-- What the operation leaves of the manifests and of what is left to do. -/
structure Leaves (task : Nat) (role : Role) (shelf : Shelf) (memory : List AppManifest) (f : Filing) : Prop where
  holds : shelf.Holds memory f.left f.acknowledged
  edition : shelf.edition = f.shelf.edition
  owed : shelf.readers task = .owed → task ∈ f.requests
  reading : ∀ edition manifests, shelf.readers task = .read edition manifests → task ∈ loopTask :: f.requests
  current : shelf.shown = shelf.edition ∨ (role.packages = true ∧ (shelf.readers task = .idle ∨ shelf.readers task = .owed)) ∨
    (∃ manifests, shelf.readers task = .read shelf.edition manifests) ∨ ∃ other, other ≠ task ∧ f.due other = true

/-- Whoever has nothing to do with what is due now leaves it to others. -/
theorem Sound.still (sound : f.Sound) (idle : f.due task = false) :
    f.shelf.shown = f.shelf.edition ∨ ∃ other, other ≠ task ∧ f.due other = true := by
  refine sound.current.imp_right ?_
  rintro ⟨other, due⟩
  refine ⟨other, ?_, due⟩
  rintro rfl
  rw [idle] at due
  cases due

theorem Sound.publishes {edition : Nat} {manifests : List AppManifest} (sound : f.Sound)
    (there : f.shelf.readers task = .read edition manifests)
    (ahead : manifests = f.shelf.latest ∨ f.shelf.shown ≤ edition) :
    f.Leaves task role (f.shelf.publish task manifests) manifests := by
  have published : f.shelf.publish task manifests = { f.shelf.put task (.published edition) with
      shown := if manifests = f.shelf.latest then f.shelf.edition else edition } := by
    unfold Snapshots.Shelf.publish
    rw [there]
  have reader : (f.shelf.publish task manifests).readers task = .published edition := by
    rw [published]
    exact put_self
  refine ⟨sound.holds.publishes there ahead, by rw [published]; rfl, ?_, ?_, ?_⟩
  · intro owed
    rw [reader] at owed
    cases owed
  · intro other copy read
    rw [reader] at read
    cases read
  · by_cases latest : manifests = f.shelf.latest
    · refine .inl ?_
      rw [published]
      exact if_pos latest
    · -- an edition that is not the latest is published where the latest is not shown yet
      obtain ⟨bounded, same, -⟩ := sound.holds.read task edition manifests there
      have behind : edition ≠ f.shelf.edition := by
        rintro rfl
        exact latest same
      have read : f.owes task = false := by
        unfold Filing.owes
        split <;> simp [there]
      have notDue : f.due task = false := by
        simp [Filing.due, read, there, behind]
      rcases sound.still notDue with current | others
      · have shown := ahead.resolve_left latest
        omega
      · exact .inr (.inr (.inr others))

/-- An operation with which the task reads nothing and puts nothing into memory. -/
theorem Sound.unread {next : β → Program Op Outcome} (sound : f.Sound)
    (there : f.machine.tasks task = some (role, .perform op next)) (load : op.errand ≠ .load)
    (manifests : op.errand ≠ .manifests) (allowed : op.allowed (f.shelf.readers task))
    (runs : role.runs op.errand = true) : f.Leaves task role (op.shelve task answer f.shelf) f.memory := by
  have unread : op.shelve task answer f.shelf = f.shelf ∨
      op.errand = .package ∧ op.shelve task answer f.shelf = f.shelf.put task .owed := Op.shelve_unread load manifests f.shelf
  rcases unread with same | ⟨package, owed⟩
  · rw [same]
    refine ⟨sound.holds, rfl, sound.owed task, sound.reading task, ?_⟩
    by_cases due : f.due task = true
    · cases reader : f.shelf.readers task with
      | idle =>
        have owes : f.owes task = true := by simpa [Filing.due, reader] using due
        have packages : role.packages = true := by
          simp only [Filing.owes, there, Bool.and_eq_true] at owes
          exact owes.1
        exact .inr (.inl ⟨packages, .inl rfl⟩)
      | owed =>
        rw [reader] at allowed
        exact absurd allowed load
      | read edition copy =>
        rw [reader] at allowed
        exact absurd (Op.publishes_errand allowed) manifests
      | published edition =>
        have read : f.owes task = false := by simp [Filing.owes, there, reader]
        simp [Filing.due, read, reader] at due
    · rcases sound.still (by simpa using due) with current | others
      · exact .inl current
      · exact .inr (.inr (.inr others))
  · rw [package] at runs
    rw [owed]
    have holds : (f.shelf.put task .owed).Holds f.memory f.left f.acknowledged := by
      refine sound.holds.put ?_ ?_
      · intro edition copy read
        cases read
      · intro edition published
        cases published
    refine ⟨holds, rfl, fun _ => (sound.placed task role _ there).1 runs, fun edition copy read => ?_, ?_⟩
    · cases (put_self.symm.trans read : Snapshots.Reader.owed = .read edition copy)
    · exact .inr (.inl ⟨role.packages_runs.symm.trans runs, .inr put_self⟩)

theorem Sound.advance {next : β → Program Op Outcome} (sound : f.Sound)
    (there : f.machine.tasks task = some (role, .perform op next)) (able : op.ready task f.machine.shared = true)
    (loads : op.errand = .load → answer.ok = true) (latest : answer.manifests = f.shelf.latest)
    (turn : op.errand = .manifests → f.ahead task) :
    f.Leaves task role (op.shelve task answer f.shelf) (op.exec task answer f.machine.shared).2.manifests := by
  obtain ⟨allowed, runs, -⟩ := sound.answers there able answer fun load => ⟨loads load, latest⟩
  by_cases manifests : op.errand = .manifests
  · obtain ⟨copy, publishes⟩ := Op.publishes_of manifests
    cases reader : f.shelf.readers task with
    | read edition read =>
      rw [reader] at allowed
      cases publishes.symm.trans allowed
      rw [Op.exec_publishes publishes, Op.shelve_publishes publishes]
      have ahead := turn manifests
      unfold Filing.ahead at ahead
      rw [reader] at ahead
      exact sound.publishes reader ahead
    | idle =>
      rw [reader] at allowed
      exact absurd manifests allowed
    | owed =>
      rw [reader] at allowed
      have loading : op.errand = .load := allowed
      rw [manifests] at loading
      cases loading
    | published edition =>
      rw [reader] at allowed
      exact absurd manifests allowed.1
  · rw [op.exec_manifests manifests]
    by_cases load : op.errand = .load
    · rw [Op.shelve_load load (loads load)]
      refine ⟨sound.holds.reads task, rfl, fun owed => ?_, fun edition copy _ => ?_, .inr (.inr (.inl ⟨_, put_self⟩))⟩
      · cases (put_self.symm.trans owed : Snapshots.Reader.read f.shelf.edition f.shelf.latest = .owed)
      · rw [load] at runs
        exact (sound.placed task role _ there).2 runs
    · exact sound.unread there load manifests allowed runs

theorem Sound.perform (sound : f.Sound) (loads : Task.loads answer (f.machine.tasks task))
    (turn : Task.inTurn task f (f.machine.tasks task)) (latest : answer.manifests = f.shelf.latest) :
    ({ f with machine := f.machine.perform task answer, shelf := f.shelvePerform task answer } : Filing).Sound := by
  by_cases goes : ∃ role, ∃ β, ∃ op : Op β, ∃ next, f.machine.tasks task = some (role, .perform op next) ∧
      op.ready task f.machine.shared = true
  · obtain ⟨role, β, op, next, there, able⟩ := goes
    rw [there] at loads turn
    have advanced := congrArg Lookout.machine (@Lookout.perform_ready { machine := f.machine } task answer role β op next there able)
    have machine : f.machine.perform task answer = _ := advanced
    have shelved : f.shelvePerform task answer = op.shelve task answer f.shelf := by simp [Filing.shelvePerform, there, able]
    have leaves := sound.advance there able loads latest turn
    obtain ⟨-, -, meets⟩ := sound.answers there able answer fun load => ⟨loads load, latest⟩
    rw [machine, shelved]
    have other {i : Nat} (apart : i ≠ task) : (op.shelve task answer f.shelf).readers i = f.shelf.readers i :=
      op.shelve_of_ne apart answer f.shelf
    refine ⟨?_, ?_, ?_, ?_, ?_, leaves.holds, ?_⟩
    · intro i role' program goes
      by_cases same : i = task
      · subst same
        cases (Function.update_self ..).symm.trans goes
        exact meets
      · have before : f.machine.tasks i = some (role', program) := (Function.update_of_ne same _ _).symm.trans goes
        exact (sound.kept i role' program before).relied (other same)
    · intro i gone
      have apart : i ≠ task := by
        rintro rfl
        cases (Function.update_self ..).symm.trans gone
      exact (other apart).trans (sound.idle i ((Function.update_of_ne apart _ _).symm.trans gone))
    · intro i role' program goes
      by_cases same : i = task
      · subst same
        cases (Function.update_self ..).symm.trans goes
        exact sound.placed i role _ there
      · exact sound.placed i role' program ((Function.update_of_ne same _ _).symm.trans goes)
    · intro i owed
      by_cases same : i = task
      · subst same
        exact leaves.owed owed
      · exact sound.owed i ((other same).symm.trans owed)
    · intro i edition manifests read
      by_cases same : i = task
      · subst same
        exact leaves.reading edition manifests read
      · exact sound.reading i edition manifests ((other same).symm.trans read)
    · rcases leaves.current with current | ⟨packages, unread⟩ | ⟨manifests, read⟩ | ⟨i, apart, due⟩
      · exact .inl current
      · refine .inr ⟨task, (Bool.or_eq_true _ _).mpr (.inl ?_)⟩
        simp [Filing.owes, packages, unread]
      · exact .inr ⟨task, by simp [Filing.due, read]⟩
      · exact .inr ⟨i, due_kept due (Function.update_of_ne apart _ _) (other apart) leaves.edition⟩
  · have still (role : Role) (β : Type) (op : Op β) (next : β → Program Op Outcome)
        (there : f.machine.tasks task = some (role, .perform op next)) : op.ready task f.machine.shared = false := by
      by_contra able
      exact goes ⟨role, β, op, next, there, by simpa using able⟩
    have idle := congrArg Lookout.machine (@Lookout.perform_idle { machine := f.machine } task answer still)
    have machine : f.machine.perform task answer = f.machine := idle
    have shelved : f.shelvePerform task answer = f.shelf := by
      unfold Filing.shelvePerform
      split
      next role β op next there => rw [if_neg (by simp [still role β op next there])]
      next => rfl
    rw [machine, shelved]
    exact sound

end Filing

/-! ### What is on disk changes -/

namespace Filing
variable {f : Filing} {task : Nat}

theorem Sound.changes (sound : f.Sound) (operating : f.operating task = true) (manifests : List AppManifest) :
    ({ f with
      shelf := f.shelf.change manifests f.memory
      left := Function.update f.left task (f.shelf.edition + 1) } : Filing).Sound := by
  refine ⟨sound.kept.disturb fun _ _ => rfl, sound.idle, sound.placed, sound.owed, sound.reading, ?_, .inr ⟨task, ?_⟩⟩
  · refine sound.holds.changes manifests fun i => ?_
    by_cases same : i = task
    · subst same
      exact .inr ⟨Function.update_self .., .inl (sound.operates operating).2⟩
    · exact .inl (Function.update_of_ne same _ _)
  · have still : Filing.owes task { f with
        shelf := f.shelf.change manifests f.memory
        left := Function.update f.left task (f.shelf.edition + 1) } = true := (sound.operates operating).1
    simp [Filing.due, still]

/-- No one gets to a reload for the operation whose client was dropped. -/
theorem Sound.orphanChanges (sound : f.Sound) (manifests : List AppManifest)
    (spared : manifests = f.memory ∨ ∃ other ∈ f.requests, f.owes other = true) :
    ({ f with shelf := f.shelf.change manifests f.memory } : Filing).Sound := by
  refine ⟨sound.kept.disturb fun _ _ => rfl, sound.idle, sound.placed, sound.owed, sound.reading,
    sound.holds.changes manifests fun _ => .inl rfl, ?_⟩
  rcases spared with same | ⟨other, -, owes⟩
  · exact .inl (if_pos same.symm)
  · have still : Filing.owes other { f with shelf := f.shelf.change manifests f.memory } = true := owes
    exact .inr ⟨other, by simp [Filing.due, still]⟩

theorem Sound.returns (sound : f.Sound) (orphaned : f.orphaned task = true) :
    ({ f with requests := f.requests.filter fun other => other ≠ task } : Filing).Sound := by
  have gone : f.machine.tasks task = none := by
    have both := (Bool.and_eq_true _ _).mp orphaned
    exact Option.isNone_iff_eq_none.mp both.1
  have stays {other : Nat} (apart : other ≠ task) (there : other ∈ f.requests) :
      other ∈ f.requests.filter fun other => other ≠ task := List.mem_filter.mpr ⟨there, by simpa using apart⟩
  have known {other : Nat} (apart : other ≠ task) (there : other ∈ loopTask :: f.requests) :
      other ∈ loopTask :: f.requests.filter fun other => other ≠ task := by
    rcases List.mem_cons.mp there with loop | request
    · exact List.mem_cons.mpr (.inl loop)
    · exact List.mem_cons_of_mem _ (stays apart request)
  have busy {other : Nat} (busy : f.shelf.readers other ≠ .idle) : other ≠ task := by
    rintro rfl
    exact busy (sound.idle other gone)
  refine ⟨sound.kept, sound.idle, ?_, ?_, ?_, sound.holds, ?_⟩
  · intro other role program there
    have apart : other ≠ task := by
      rintro rfl
      rw [gone] at there
      cases there
    obtain ⟨package, load⟩ := sound.placed other role program there
    exact ⟨fun runs => stays apart (package runs), fun runs => known apart (load runs)⟩
  · exact fun other owed => stays (busy (by rw [owed]; simp)) (sound.owed other owed)
  · exact fun other edition manifests read => known (busy (by rw [read]; simp)) (sound.reading other edition manifests read)
  · refine sound.current.imp_right ?_
    rintro ⟨other, due⟩
    exact ⟨other, due_kept due rfl rfl rfl⟩

/-! ### Along every run -/

theorem Sound.finishes (sound : f.Sound) (alive : f.machine.failed = false) (spared : f.due task = true → f.spares task) :
    (f.finish task).Sound := by
  unfold Filing.finish
  cases there : f.machine.tasks task with
  | none => exact sound
  | some doing =>
    obtain ⟨role, program⟩ := doing
    cases program with
    | perform op next => exact sound
    | done outcome =>
      obtain ⟨-, succeeds⟩ : role.leaves outcome (f.shelf.readers task) := sound.kept task role _ there f.shelved rfl
      refine sound.closes (by simp [Machine.next, alive, Machine.finish, there, Machine.put])
        (by simp [Machine.next, alive, Machine.finish, there, Machine.put, Filing.memory]) ?_ ?_ spared
      · exact fun other request apart => List.mem_filter.mpr ⟨request, by simpa using apart⟩
      · split
        next acknowledged =>
          obtain ⟨packages, ok⟩ := (Bool.and_eq_true _ _).mp acknowledged
          obtain ⟨request, rfl⟩ : ∃ request, role = .package request := by
            cases role <;> first | exact ⟨_, rfl⟩ | cases packages
          obtain ⟨edition, published⟩ := succeeds request rfl ok
          obtain ⟨own, shown⟩ := sound.holds.published task edition published
          exact Nat.max_le.mpr ⟨sound.holds.acknowledged, Nat.le_trans own shown⟩
        next => exact sound.holds.acknowledged

theorem Sound.abandons (sound : f.Sound) (alive : f.machine.failed = false)
    (spared : task ≠ loopTask → f.due task = true → f.spares task) : (f.abandon task).Sound := by
  unfold Filing.abandon
  split
  next goes =>
    have machine : f.machine.next (.abandon task) = { f.machine with shared := f.machine.shared.dropLocks task }.put task none := by
      simp [Machine.next, alive, Machine.abandon, goes]
    refine sound.closes (by rw [machine]; rfl) (by rw [machine]; rfl) ?_ sound.holds.acknowledged (spared goes.1)
    intro other request apart
    split
    · exact request
    · exact List.mem_filter.mpr ⟨request, by simpa using apart⟩
  next => exact sound

theorem Sound.spawns (sound : f.Sound) (alive : f.machine.failed = false) : (f.spawn task role).Sound := by
  unfold Filing.spawn
  have goes : f.machine.next (.spawn task role) = f.machine.spawn task role := by simp [Machine.next, alive]
  rw [goes]
  split
  next => exact sound
  next =>
    by_cases serving : ∃ queued, role = .serving queued
    · obtain ⟨queued, rfl⟩ := serving
      exact sound
    · have apart : f.machine.spawn task role = if task ≠ loopTask ∧ (f.machine.tasks task).isNone = true
          then f.machine.put task (some (role, role.program)) else f.machine := by
        cases role <;> first | rfl | exact absurd ⟨_, rfl⟩ serving
      rw [apart]
      by_cases begins : task ≠ loopTask ∧ (f.machine.tasks task).isNone = true
      · have gone : f.machine.tasks task = none := Option.isNone_iff_eq_none.mp begins.2
        rw [if_pos begins]
        by_cases packages : role.packages = true
        · rw [if_pos ⟨packages, begins⟩]
          refine sound.begins gone (fun other there => List.mem_cons_of_mem _ there) ⟨fun _ => ?_, fun _ => ?_⟩
          · exact List.mem_cons_self ..
          · exact List.mem_cons_of_mem _ (List.mem_cons_self ..)
        · rw [if_neg fun all => packages all.1]
          refine sound.begins gone (fun other there => there) ⟨fun runs => ?_, fun runs => ?_⟩
          all_goals
            cases role with
            | serving queued => exact absurd ⟨queued, rfl⟩ serving
            | package request => exact absurd rfl packages
            | _ => cases runs
      · rw [if_neg begins, if_neg fun all => begins all.2]
        exact sound

theorem Sound.serves (sound : f.Sound) (alive : f.machine.failed = false) :
    ({ f with machine := f.machine.next .serve } : Filing).Sound := by
  have goes : f.machine.next .serve = f.machine.serve := by simp [Machine.next, alive]
  rw [goes]
  unfold Machine.serve
  split
  next queued rest idle there =>
    have taken : ({ f with machine := { f.machine with shared := { f.machine.shared with queue := rest } } } : Filing).Sound :=
      sound.world rfl rfl
    exact taken.begins idle (fun other there => there) ⟨fun runs => (by cases runs), fun _ => List.mem_cons_self ..⟩
  next => exact sound

/-- One step in its turn. -/
theorem Sound.next {happening : Happening} (sound : f.Sound) (loads : f.loads happening) (turn : f.inTurn happening) :
    (f.next happening).Sound := by
  cases happening with
  | change task manifests =>
    simp only [Filing.next]
    split
    next operating => exact sound.changes operating manifests
    next =>
      split
      next orphaned => exact sound.orphanChanges manifests (turn orphaned)
      next => exact sound
  | returned task =>
    simp only [Filing.next]
    split
    next orphaned => exact sound.returns orphaned
    next => exact sound
  | step step =>
    by_cases failed : f.machine.failed = true
    · simp only [Filing.next, failed, if_true]
      exact sound
    · have alive : f.machine.failed = false := by simpa using failed
      by_cases beside : step.beside = true
      · obtain ⟨tasks, same⟩ := f.machine.next_beside beside
        have goes : f.next (.step step) = { f with machine := f.machine.next step } := by
          simp only [Filing.next, alive, Bool.false_eq_true, if_false]
          cases step <;> first | rfl | cases beside
        rw [goes]
        exact sound.world tasks same.manifests
      · simp only [Filing.next, alive, Bool.false_eq_true, if_false]
        cases step with
        | perform task answer =>
          have goes : f.machine.next (.perform task { answer with manifests := f.shelf.latest }) =
              f.machine.perform task { answer with manifests := f.shelf.latest } := by simp [Machine.next, alive]
          simp only
          rw [goes]
          have loads' : Task.loads { answer with manifests := f.shelf.latest } (f.machine.tasks task) := by
            have told : Task.loads answer (f.machine.tasks task) := loads
            unfold Task.loads at told ⊢
            split at told <;> exact told
          exact sound.perform loads' turn rfl
        | spawn task role => exact sound.spawns alive
        | finish task => exact sound.finishes alive turn
        | abandon task => exact sound.abandons alive turn
        | serve => exact sound.serves alive
        | _ => exact absurd rfl beside

theorem Sound.boot (manifests : List AppManifest) (sessions : Table AppSession) : (Filing.boot manifests sessions).Sound where
  kept _ _ _ there := nomatch there
  idle _ _ := rfl
  placed _ _ _ there := nomatch there
  owed _ owed := nomatch owed
  reading _ _ _ read := nomatch read
  holds :=
    { shown := Nat.le_refl _
      copy := rfl
      latest := fun _ => rfl
      read := fun _ _ _ read => (nomatch read)
      published := fun _ _ published => (nomatch published)
      left := fun _ => Nat.le_refl _
      acknowledged := Nat.le_refl _ }
  current := .inl rfl

end Filing

/-- Along a run that takes the reloads in their turn, the manifests in memory are those on
    disk whenever no reload and no request on a package is under way. What is in memory is
    at all times an edition that every request which has succeeded had left, or a later one. -/
theorem manifests_current (manifests : List AppManifest) (sessions : Table AppSession) (happenings : List Happening)
    (loads : Runs.Along Filing.next Filing.loads (Filing.boot manifests sessions) happenings)
    (inTurn : Runs.Along Filing.next Filing.inTurn (Filing.boot manifests sessions) happenings) :
    let f := happenings.foldl Filing.next (Filing.boot manifests sessions)
    (f.quiet → f.memory = f.shelf.latest) ∧
      ∃ edition, f.acknowledged ≤ edition ∧ edition ≤ f.shelf.edition ∧ f.memory = f.shelf.editions edition := by
  intro f
  have sound : f.Sound := (loads.and inTurn).invariant Filing.Sound (fun _ _ holds both => holds.next both.1 both.2)
    (.boot manifests sessions)
  refine ⟨sound.settled, f.shelf.shown, ?_, ?_, ?_⟩
  · exact sound.holds.acknowledged
  · exact sound.holds.shown
  · exact sound.holds.copy


/-- A client's task has the application uninstalled, and nothing of it stays on disk. -/
def Happening.uninstalls (id : AppId) : List Happening :=
  .step (.spawn 1 (.package (.uninstall id))) :: List.replicate 20 (.step (.perform 1 {})) ++ [.change 1 []] ++
    List.replicate 20 (.step (.perform 1 {})) ++ [.step (.finish 1)]

/-- The event loop takes up a reload, and has read what is on disk. -/
def Happening.reads : List Happening :=
  [.step (.create .reloadManifests true), .step (.enqueue 0), .step .serve, .step (.perform loopTask {}),
    .step (.perform loopTask {})]

/-- The event loop gets done with the reload. -/
def Happening.publishes : List Happening := List.replicate 10 (.step (.perform loopTask {})) ++ [.step (.finish loopTask)]

theorem manifests_current_uninstalled :
    let f := (Happening.reads ++ Happening.publishes ++ Happening.uninstalls diary.id).foldl Filing.next
      (Filing.boot [diary] fun _ => none)
    f.memory = f.shelf.latest ∧ f.acknowledged = 1 :=
  ⟨(manifests_current [diary] (fun _ => none) (Happening.reads ++ Happening.publishes ++ Happening.uninstalls diary.id)
    (by decide +kernel) (by decide +kernel)).1 (by decide +kernel), by decide +kernel⟩

/-- While the event loop reloads, the application is uninstalled, and the loop then puts into
    memory again what it has read before. -/
theorem reload_restores_uninstalled :
    let f := (Happening.reads ++ Happening.uninstalls diary.id ++ Happening.publishes).foldl Filing.next
      (Filing.boot [diary] fun _ => none)
    Runs.Along Filing.next Filing.loads (Filing.boot [diary] fun _ => none)
        (Happening.reads ++ Happening.uninstalls diary.id ++ Happening.publishes) ∧
      f.quiet ∧ f.acknowledged = 1 ∧ f.shelf.latest = [] ∧ f.memory = [diary] := by
  decide +kernel

end Remagic.Daemon
