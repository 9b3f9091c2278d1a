import Remagic.DaemonFreezing

/-!
# The daemon and the applications that it froze

The tasks go on side by side, the daemon is interrupted or gone and another one begins,
and some applications are frozen meanwhile.
-/

namespace Remagic.Daemon
open Supervisor
open Programs (Program Discipline)

/-! ## The machine -/

/-- The locks and the frozen applications, of all tasks together. -/
def freezeDiscipline : Discipline Nat Role Op Answer Freezer Outcome where
  meaning := freezing
  contract i _ := ((lockContract i).along Freezer.daemon).and (freezeContract i)
  post i _ _ s := Holding i [] s.daemon ∧ Lively i s
  apart := by
    intro i j _ _ different β op answer s able _ ⟨orderly, careful⟩
    have undisturbed : Undisturbed j s.daemon (op.exec i answer s.daemon).2 := op.undisturbed different able orderly
    refine ⟨undisturbed, undisturbed, fun mine id there => ?_, op.unthawed_of_ne (Ne.symm different) s.unthawed, careful.lively⟩
    refine op.frozen_subset ?_ there
    by_contra freezes
    have held := careful.locked (by simpa using freezes)
    exact different (Option.some.inj (held.symm.trans mine))

/-- A task that has no lock may begin. -/
theorem Role.thaws {me : Nat} {role : Role} {s : Freezer} (wellFormed : role.wellFormed me)
    (free : ∀ lock, s.daemon.locks lock ≠ some me) (lively : s.lively) :
    role.program.Meets (freezing me) (freezeDiscipline.contract me role) (freezeDiscipline.post me role) s := by
  have locks := role.orderly wellFormed s.daemon fun lock => by simp [free lock]
  have lifted : role.program.Meets (freezing me) ((lockContract me).along Freezer.daemon) (fun _ t => Holding me [] t.daemon) s :=
    Program.Meets.along (fun _ _ => rfl) (fun _ _ _ => rfl) locks
  exact lifted.and (role.spares s lively)

structure Frost where
  device : Device
  frozen : List AppId := []
  unthawed : Nat → List AppId := fun _ => []

inductive Frosting where
  | turn (turn : Turn)
  /-- The supervisor finds the unit of the application's process inactive. -/
  | missing (id : AppId) (generation : Nat)
  /-- The signal handler has `ensure_system` stop everything, while the tasks go on. -/
  | interrupt (answer : Answer)
  /-- The daemon is gone, and the next one begins with `ensure_system`. -/
  | restart (answer : Answer) (manifests : List AppManifest) (sessions : Table AppSession) (held : Bool)

/-- No unit of the managed domain is active any more. -/
def SharedDaemon.evicted (s : SharedDaemon) : SharedDaemon := { s with units := fun _ => false, display := {} }

/-- `reserve_synthetic_report`. -/
def SharedDaemon.reserveSynthetic (id : AppId) (generation : Nat) (s : SharedDaemon) : SharedDaemon :=
  if (s.exitReports id).any fun report => report.generation = generation then s
  else s.edit (.exitReport id (some ⟨generation, .synthetic⟩))

namespace Frost

def freezer (f : Frost) : Freezer := ⟨f.device.machine.shared, f.frozen, f.unthawed⟩

/-- What becomes of the frozen applications when the task goes on. -/
def perform (task : Nat) (answer : Answer) (f : Frost) : Frost :=
  match f.device.machine.tasks task with
  | some (_, .perform op _) =>
    if !f.device.machine.failed && op.ready task f.device.machine.shared then
      { f with frozen := op.frozen answer f.device.machine.shared f.frozen, unthawed := op.unthawed task answer f.unthawed }
    else f
  | _ => f

def next (f : Frost) : Frosting → Frost
  | .turn (.step (.perform task answer)) => { f.perform task answer with device := f.device.next (.step (.perform task answer)) }
  | .turn turn => { f with device := f.device.next turn }
  | .missing id generation =>
    if f.device.machine.shared.units id then f
    else
      { f with
        device := { f.device with machine := { f.device.machine with shared := f.device.machine.shared.reserveSynthetic id generation } }
        frozen := leaving id f.frozen }
  | .interrupt answer =>
    if answer.ok then
      { f with
        device := { f.device with machine := { f.device.machine with shared := f.device.machine.shared.evicted } }
        frozen := [] }
    else f
  | .restart answer manifests sessions held =>
    if answer.ok then { device := .boot manifests sessions held }
    else { device := ⟨{ Machine.boot manifests sessions with failed := true }, held⟩, frozen := f.frozen }

def boot (manifests : List AppManifest) (sessions : Table AppSession) (held : Bool) :
    Frost := { device := .boot manifests sessions held }

/-- The condition on the operation that the task is about to perform. -/
def pending (condition : {β : Type} → Op β → Prop) (task : Nat) (f : Frost) : Prop :=
  match f.device.machine.tasks task with
  | some (_, .perform op _) => f.device.machine.failed = false → op.ready task f.device.machine.shared = true → condition op
  | _ => True

/-- What the daemon knows of the applications that are frozen when something happens: a task
    that goes on, or is dropped over what it is at, goes by the policies on record, and nothing
    is frozen when everything is stopped. -/
def mindful (f : Frost) : Frosting → Prop
  | .turn (.step (.perform task _)) | .turn (.step (.abandon task)) => f.pending (fun op => op.mindful task f.freezer) task
  | .turn _ | .missing .. => True
  | .interrupt _ | .restart .. => f.frozen = []

/-- No application that is frozen is told anything or stopped, unless it could not be thawed. -/
def gentle (f : Frost) : Frosting → Prop
  | .turn (.step (.perform task _)) | .turn (.step (.abandon task)) => f.pending (fun op => op.gentle task f.freezer) task
  | .turn _ | .missing .. => True
  | .interrupt _ | .restart .. => f.frozen = []

end Frost

/-! ## What holds all along -/

/-- A task beside the event loop begins, or nothing does. -/
theorem Machine.spawn_cases (m : Machine) (task : Nat) (role : Role) : m.spawn task role = m ∨
    m.tasks task = none ∧ role.wellFormed task ∧ m.spawn task role = m.put task (some (role, role.program)) := by
  cases role with
  | serving queued => exact .inl rfl
  | _ =>
    simp only [Machine.spawn]
    split
    next free => exact .inr ⟨Option.isNone_iff_eq_none.mp free.2, free.1, rfl⟩
    next => exact .inl rfl

/-- The units of the managed domain are stopped from outside. -/
theorem SharedDaemon.Beside.evicted (s : SharedDaemon) : s.Beside s.evicted :=
  ⟨fun _ => Undisturbed.world _ _ _ _ _ (Nat.le_refl _) (fun _ _ => rfl) (fun _ begun => begun) fun _ active => (by cases active),
    rfl, rfl, rfl, fun possible => possible.same rfl rfl rfl⟩

theorem SharedDaemon.Beside.reserveSynthetic (id : AppId) (generation : Nat) (s : SharedDaemon) :
    s.Beside (s.reserveSynthetic id generation) := by
  unfold SharedDaemon.reserveSynthetic
  split
  · exact .refl s
  · refine ⟨fun me => ?_, rfl, rfl, rfl, fun possible => possible.same rfl rfl rfl⟩
    have still := Undisturbed.refl me s
    exact ⟨still.mine, still.moves, still.state, still.sleep, still.generations, still.backgroundExecution, still.foregroundFences,
      still.sessions, still.unmoded, still.settled, still.inputModes, still.units, still.owed, still.fences, still.committing,
      still.launchInterruptEpoch⟩

structure Frost.Thawing (f : Frost) : Prop where
  vigilant : f.device.Vigilant
  kept : freezeDiscipline.Kept f.device.machine.tasks f.freezer
  lively : f.freezer.lively

namespace Frost
variable {f : Frost} {task : Nat} {answer : Answer} {device : Device}

/-- What the task answers for with the operation. -/
theorem Thawing.answers {role : Role} {β : Type} {op : Op β} {next : β → Program Op Outcome} (thawing : f.Thawing)
    (there : f.device.machine.tasks task = some (role, .perform op next)) (able : op.ready task f.device.machine.shared = true)
    (mindful : op.mindful task f.freezer) : op.gentle task f.freezer ∧ ∀ answer, op.Careful task answer f.freezer :=
  have careful : ∀ answer, op.Careful task answer f.freezer := fun answer =>
    (thawing.kept task role _ there f.freezer ((freezeDiscipline.contract task role).refl _) able answer ⟨trivial, mindful⟩).1.2
  ⟨(careful {}).gentle, careful⟩

theorem Thawing.pending (thawing : f.Thawing) (mindful : f.pending (fun op => op.mindful task f.freezer) task) :
    f.pending (fun op => op.gentle task f.freezer) task := by
  unfold Frost.pending at mindful ⊢
  split
  next role β op next there =>
    intro alive able
    rw [there] at mindful
    exact (thawing.answers there able (mindful alive able)).1
  next => trivial

theorem Thawing.perform (thawing : f.Thawing) (alive : f.device.machine.failed = false)
    (mindful : f.pending (fun op => op.mindful task f.freezer) task) :
    ({ f.perform task answer with device := f.device.next (.step (.perform task answer)) } : Frost).Thawing := by
  have vigilant : (f.device.next (.step (.perform task answer))).Vigilant := thawing.vigilant.next
  have goes : f.device.machine.next (.perform task answer) = f.device.machine.perform task answer := by simp [Machine.next, alive]
  by_cases able : ∃ role, ∃ β, ∃ op : Op β, ∃ next, f.device.machine.tasks task = some (role, .perform op next) ∧
      op.ready task f.device.machine.shared = true
  · obtain ⟨role, β, op, next, there, able⟩ := able
    have minded : op.mindful task f.freezer := by
      unfold Frost.pending at mindful
      rw [there] at mindful
      exact mindful alive able
    have told : ∀ {γ : Type} (operation : Op γ) (following : γ → Program Op Outcome),
        Program.perform op next = .perform operation following → (freezeDiscipline.contract task role).told operation answer f.freezer := by
      intro γ operation following same
      cases same
      exact ⟨trivial, minded⟩
    have advanced := thawing.kept.advance there told
    have able' : (freezeDiscipline.meaning task).ready op f.freezer = true := able
    simp only [Programs.Program.advance, able', if_true] at advanced
    have after : f.perform task answer =
        { f with frozen := op.frozen answer f.device.machine.shared f.frozen, unthawed := op.unthawed task answer f.unthawed } := by
      simp [Frost.perform, there, alive, able]
    have machine : (f.device.next (.step (.perform task answer))).machine = _ := goes.trans (Machine.perform_ready there able)
    refine ⟨vigilant, ?_, ?_⟩
    · show freezeDiscipline.Kept (f.device.next _).machine.tasks ⟨(f.device.next _).machine.shared, _, _⟩
      rw [machine, after]
      exact advanced
    · show Freezer.lively ⟨(f.device.next _).machine.shared, _, _⟩
      rw [machine, after]
      exact ((thawing.answers there able minded).2 answer).lively thawing.lively
  · have idle : ∀ role β (op : Op β) next, f.device.machine.tasks task = some (role, .perform op next) →
        op.ready task f.device.machine.shared = false := fun role β op next there => by
      by_contra ready
      exact able ⟨role, β, op, next, there, by simpa using ready⟩
    have machine : (f.device.next (.step (.perform task answer))).machine = f.device.machine := goes.trans (Machine.perform_idle idle)
    have after : f.perform task answer = f := by
      unfold Frost.perform
      split
      next role β op next there => rw [if_neg (by simp [idle role β op next there])]
      next => rfl
    refine ⟨vigilant, ?_, ?_⟩
    · show freezeDiscipline.Kept (f.device.next _).machine.tasks ⟨(f.device.next _).machine.shared, _, _⟩
      rw [machine, after]
      exact thawing.kept
    · show Freezer.lively ⟨(f.device.next _).machine.shared, _, _⟩
      rw [machine, after]
      exact thawing.lively

/-- What happens beside the tasks, where no more is frozen. -/
theorem Thawing.world {g : Frost} (thawing : f.Thawing) (vigilant : g.device.Vigilant)
    (tasks : g.device.machine.tasks = f.device.machine.tasks) (beside : f.device.machine.shared.Beside g.device.machine.shared)
    (fewer : ∀ id ∈ g.frozen, id ∈ f.frozen) (unthawed : g.unthawed = f.unthawed) : g.Thawing := by
  have lively : f.freezer.lively → g.freezer.lively := fun lively id foreground there =>
    lively id ((congrArg ManagerState.domain beside.state).symm.trans foreground) (fewer id there)
  refine ⟨vigilant, ?_, lively thawing.lively⟩
  rw [tasks]
  refine thawing.kept.disturb fun me role => ?_
  exact ⟨beside.undisturbed me, beside.undisturbed me, fun _ => fewer, congrFun unthawed me, lively⟩

/-- A task begins. -/
theorem Thawing.put {role : Role} (thawing : f.Thawing) (vigilant : device.Vigilant)
    (gone : f.device.machine.tasks task = none)
    (machine : device.machine = f.device.machine.put task (some (role, role.program)))
    (wellFormed : role.wellFormed task) : ({ f with device } : Frost).Thawing := by
  have begins := role.thaws (s := f.freezer) wellFormed (thawing.vigilant.idle task gone) thawing.lively
  refine ⟨vigilant, ?_, ?_⟩
  · show freezeDiscipline.Kept device.machine.tasks ⟨device.machine.shared, _, _⟩
    rw [machine]
    exact thawing.kept.put begins
  · show Freezer.lively ⟨device.machine.shared, _, _⟩
    rw [machine]
    exact thawing.lively

/-- A task is no more. -/
theorem Thawing.drop (task : Nat) (thawing : f.Thawing) (vigilant : device.Vigilant)
    (tasks : device.machine.tasks = Function.update f.device.machine.tasks task none)
    (shared : device.machine.shared = f.device.machine.shared.dropLocks task) : ({ f with device } : Frost).Thawing := by
  have lively : f.freezer.lively → Freezer.lively ⟨device.machine.shared, f.frozen, f.unthawed⟩ := by
    rw [shared]
    exact fun lively => lively
  refine ⟨vigilant, ?_, lively thawing.lively⟩
  intro other role program there
  have there' : device.machine.tasks other = some (role, program) := there
  rw [tasks] at there'
  have apart : other ≠ task := by
    rintro rfl
    simp at there'
  rw [Function.update_of_ne apart] at there'
  have dropped : Undisturbed other f.device.machine.shared device.machine.shared := by
    rw [shared]
    exact .dropped apart
  exact (thawing.kept other role program there').relied ⟨dropped, dropped, fun _ _ there => there, rfl, lively⟩

theorem Thawing.finish (task : Nat) (thawing : f.Thawing) (vigilant : device.Vigilant)
    (machine : device.machine = f.device.machine.finish task) : ({ f with device } : Frost).Thawing := by
  have same : device.machine = f.device.machine → ({ f with device } : Frost).Thawing := fun same =>
    thawing.world (g := { f with device }) vigilant (congrArg Machine.tasks same) (same ▸ .refl _) (fun _ there => there) rfl
  cases there : f.device.machine.tasks task with
  | none => exact same (by simp [machine, Machine.finish, there])
  | some doing =>
    obtain ⟨role, program⟩ := doing
    cases program with
    | perform op next => exact same (by simp [machine, Machine.finish, there])
    | done outcome =>
      have ended := (thawing.kept task role _ there f.freezer ((freezeDiscipline.contract task role).refl _)).1
      have free : ∀ lock, f.device.machine.shared.locks lock ≠ some task := fun lock held => List.not_mem_nil ((ended lock).mp held)
      refine thawing.drop task vigilant ?_ ?_
      · simp [machine, Machine.finish, there, Machine.put]
      · rw [Lookout.dropLocks_free free]
        simp [machine, Machine.finish, there, Machine.put]

theorem Thawing.abandon (task : Nat) (thawing : f.Thawing) (vigilant : device.Vigilant)
    (machine : device.machine = f.device.machine.abandon task) : ({ f with device } : Frost).Thawing := by
  by_cases gone : task ≠ loopTask ∧ (f.device.machine.tasks task).isSome
  · exact thawing.drop task vigilant (by simp [machine, Machine.abandon, gone, Machine.put])
      (by simp [machine, Machine.abandon, gone, Machine.put])
  · have same : device.machine = f.device.machine := by
      rw [machine, Machine.abandon, if_neg gone]
    exact thawing.world (g := { f with device }) vigilant (congrArg Machine.tasks same) (same ▸ .refl _) (fun _ there => there) rfl

/-- A turn of the device other than a task's. -/
theorem Thawing.turn {turn : Turn} (thawing : f.Thawing) (other : ∀ task answer, turn ≠ .step (.perform task answer)) :
    ({ f with device := f.device.next turn } : Frost).Thawing := by
  have vigilant : (f.device.next turn).Vigilant := thawing.vigilant.next
  have same : (f.device.next turn).machine = f.device.machine → ({ f with device := f.device.next turn } : Frost).Thawing := fun same =>
    thawing.world (g := { f with device := f.device.next turn }) vigilant (congrArg Machine.tasks same) (same ▸ .refl _)
      (fun _ there => there) rfl
  cases turn with
  | cutOff task =>
    by_cases restoring : f.device.restoring task = true
    · by_cases failed : f.device.machine.failed = true
      · exact same (by simp [Device.next, restoring, Machine.next, failed])
      · exact thawing.abandon task vigilant (by simp [Device.next, restoring, Machine.next, failed])
    · exact same (by simp [Device.next, restoring])
  | step step =>
    have machine : (f.device.next (.step step)).machine = f.device.machine.next step := by
      cases step <;> rfl
    by_cases beside : step.beside = true
    · obtain ⟨tasks, beside⟩ := f.device.machine.next_beside beside
      exact thawing.world (g := { f with device := f.device.next (.step step) }) vigilant ((congrArg Machine.tasks machine).trans tasks)
        (by rw [show _ = _ from machine]; exact beside) (fun _ there => there) rfl
    by_cases failed : f.device.machine.failed = true
    · exact same (machine.trans (by simp [Machine.next, failed]))
    have alive : f.device.machine.failed = false := by simpa using failed
    cases step with
    | perform task answer => exact absurd rfl (other task answer)
    | finish task => exact thawing.finish task vigilant (machine.trans (by simp [Machine.next, alive]))
    | abandon task => exact thawing.abandon task vigilant (machine.trans (by simp [Machine.next, alive]))
    | spawn task role =>
      have goes : f.device.machine.next (.spawn task role) = f.device.machine.spawn task role := by simp [Machine.next, alive]
      rcases f.device.machine.spawn_cases task role with still | ⟨gone, wellFormed, begun⟩
      · exact same (machine.trans (goes.trans still))
      · exact thawing.put vigilant gone (machine.trans (goes.trans begun)) wellFormed
    | serve =>
      have goes : f.device.machine.next .serve = f.device.machine.serve := by simp [Machine.next, alive]
      cases idle : f.device.machine.tasks loopTask with
      | some doing => exact same (machine.trans (goes.trans (by simp [Machine.serve, idle])))
      | none =>
        cases queue : f.device.machine.shared.queue with
        | nil => exact same (machine.trans (goes.trans (by simp [Machine.serve, idle, queue])))
        | cons queued rest =>
          have taken : ({ f with device := { f.device with machine :=
              { f.device.machine with shared := { f.device.machine.shared with queue := rest } } } } : Frost).Thawing :=
            thawing.world (thawing.vigilant.world rfl (.taken queue)) rfl (.taken queue) (fun _ there => there) rfl
          have wellFormed : queued.event.wellFormed := thawing.vigilant.possible.queue queued (by
            rw [queue]
            exact List.mem_cons_self ..)
          have begun : Role.wellFormed loopTask (.serving queued) := ⟨rfl, wellFormed⟩
          exact taken.put vigilant idle (machine.trans (goes.trans (by simp [Machine.serve, idle, queue, Role.program]))) begun
    | _ => exact absurd rfl beside

theorem Thawing.boot {manifests : List AppManifest} {sessions : Table AppSession} {held : Bool} :
    (Frost.boot manifests sessions held).Thawing where
  vigilant := .boot
  kept _ _ _ there := nomatch there
  lively _ foreground := nomatch foreground

theorem next_turn {turn : Turn} (other : ∀ task answer, turn ≠ .step (.perform task answer)) :
    f.next (.turn turn) = { f with device := f.device.next turn } := by
  cases turn with
  | cutOff task => rfl
  | step step =>
    cases step with
    | perform task answer => exact absurd rfl (other task answer)
    | _ => rfl

/-- One step of those that know of the frozen applications. -/
theorem Thawing.next {frosting : Frosting} (thawing : f.Thawing) (mindful : f.mindful frosting) :
    (f.next frosting).Thawing := by
  cases frosting with
  | turn turn =>
    by_cases performs : ∃ task answer, turn = .step (.perform task answer)
    · obtain ⟨task, answer, rfl⟩ := performs
      by_cases failed : f.device.machine.failed = true
      · have after : f.perform task answer = f := by
          unfold Frost.perform
          split
          next => rw [if_neg (by simp [failed])]
          next => rfl
        have machine : (f.device.next (.step (.perform task answer))).machine = f.device.machine := by
          show f.device.machine.next (.perform task answer) = _
          simp [Machine.next, failed]
        have vigilant : (f.device.next (.step (.perform task answer))).Vigilant := thawing.vigilant.next
        simp only [Frost.next, after]
        exact thawing.world vigilant (congrArg Machine.tasks machine)
          (by rw [show _ = _ from machine]; exact .refl _) (fun _ there => there) rfl
      · exact thawing.perform (by simpa using failed) mindful
    · have other : ∀ task answer, turn ≠ .step (.perform task answer) := fun task answer same => performs ⟨task, answer, same⟩
      rw [Frost.next_turn other]
      exact thawing.turn other
  | missing id generation =>
    simp only [Frost.next]
    split
    · exact thawing
    · exact thawing.world (thawing.vigilant.world rfl (.reserveSynthetic id generation _)) rfl (.reserveSynthetic id generation _)
        (fun _ there => (mem_leaving.mp there).1) rfl
  | interrupt answer =>
    simp only [Frost.next]
    split
    · exact thawing.world (thawing.vigilant.world rfl (.evicted _)) rfl (.evicted _) (fun _ there => (by cases there)) rfl
    · exact thawing
  | restart answer manifests sessions held =>
    simp only [Frost.next]
    split
    · exact Thawing.boot
    · refine ⟨⟨fun _ _ _ there => (by cases there), fun _ _ _ held => (by cases held), fun managed => (by cases managed), ?_⟩,
        fun _ _ _ there => (by cases there), fun _ foreground => (by cases foreground)⟩
      exact (Device.Vigilant.boot : (Device.boot manifests sessions held).Vigilant).possible

end Frost

/-! ## Deciding what the daemon knows -/

section
variable {β : Type} (op : Op β) (me : Nat) (s : Freezer)

instance Op.gentle.decide : Decidable (op.gentle me s) := by
  unfold Op.gentle
  infer_instance

instance Op.mindful.decide : Decidable (op.mindful me s) := by
  unfold Op.mindful
  infer_instance

end

namespace Frost
variable (f : Frost) (task : Nat)

instance pending.decide {condition : {β : Type} → Op β → Prop} [∀ {β : Type} (op : Op β), Decidable (condition op)] :
    Decidable (f.pending condition task) := by
  unfold Frost.pending
  split <;> infer_instance

instance mindful.decide : ∀ frosting, Decidable (f.mindful frosting)
  | .turn (.step (.perform task _)) | .turn (.step (.abandon task)) =>
    inferInstanceAs (Decidable (f.pending (fun op => op.mindful task f.freezer) task))
  | .turn (.cutOff _) | .turn (.step (.create ..)) | .turn (.step (.enqueue _)) | .turn (.step (.giveUp _)) | .turn (.step (.fire _))
  | .turn (.step .serve) | .turn (.step (.spawn ..)) | .turn (.step (.finish _)) | .turn (.step (.unitExits _))
  | .turn (.step .displayExits) | .turn (.step (.homeCommits _)) | .missing .. => isTrue trivial
  | .interrupt _ | .restart .. => inferInstanceAs (Decidable (f.frozen = []))

instance gentle.decide : ∀ frosting, Decidable (f.gentle frosting)
  | .turn (.step (.perform task _)) | .turn (.step (.abandon task)) =>
    inferInstanceAs (Decidable (f.pending (fun op => op.gentle task f.freezer) task))
  | .turn (.cutOff _) | .turn (.step (.create ..)) | .turn (.step (.enqueue _)) | .turn (.step (.giveUp _)) | .turn (.step (.fire _))
  | .turn (.step .serve) | .turn (.step (.spawn ..)) | .turn (.step (.finish _)) | .turn (.step (.unitExits _))
  | .turn (.step .displayExits) | .turn (.step (.homeCommits _)) | .missing .. => isTrue trivial
  | .interrupt _ | .restart .. => inferInstanceAs (Decidable (f.frozen = []))

end Frost

/-- Along every run in which the daemon knows of the applications that are frozen, none of
    them is told anything or stopped, unless it could not be thawed. -/
theorem frozen_spared (manifests : List AppManifest) (sessions : Table AppSession) (held : Bool) (frostings : List Frosting)
    (along : Runs.Along Frost.next Frost.mindful (Frost.boot manifests sessions held) frostings) :
    let f := frostings.foldl Frost.next (Frost.boot manifests sessions held)
    ∀ frosting, f.mindful frosting → f.gentle frosting := by
  intro f frosting mindful
  have thawing : f.Thawing := along.invariant Frost.Thawing (fun _ _ holds minded => holds.next minded) .boot
  cases frosting with
  | turn turn =>
    cases turn with
    | cutOff task => trivial
    | step step =>
      cases step with
      | perform task answer => exact thawing.pending mindful
      | abandon task => exact thawing.pending mindful
      | _ => trivial
  | missing id generation => trivial
  | interrupt answer => exact mindful
  | restart answer manifests sessions held => exact mindful

/-- An application that is frozen in the background. -/
def freezingDiary : AppManifest :=
  { diary with backgroundService := none, backgroundExecution := .freeze, capabilities := ["lifecycle:v2"] }

/-- The event loop takes the event up and goes on for some steps. -/
def Frosting.serving (request : Nat) (event : Event) (steps : Nat) : List Frosting :=
  ([Step.create event true, .enqueue request, .serve] ++ List.replicate steps (Step.perform loopTask {})).map fun step =>
    .turn (.step step)

def Frosting.served (request : Nat) (event : Event) (steps : Nat) : List Frosting :=
  Frosting.serving request event steps ++ [.turn (.step (.finish loopTask))]

/-- The application is launched and goes to the background. -/
def Frosting.toBackground : List Frosting :=
  Frosting.served 0 .openManager 18 ++ Frosting.served 1 (.launch diary.id none) 46 ++ Frosting.served 2 .singlePower 23

set_option maxRecDepth 4000 in
theorem frozen_spared_restore :
    let parked := Frosting.toBackground.foldl Frost.next (Frost.boot [freezingDiary] (fun _ => none) true)
    let stopping := (Frosting.toBackground ++ Frosting.serving 3 .longPower 12).foldl Frost.next
      (Frost.boot [freezingDiary] (fun _ => none) true)
    parked.frozen = [diary.id] ∧ stopping.gentle (.turn (.step (.perform loopTask {}))) :=
  ⟨by decide +kernel,
    frozen_spared [freezingDiary] (fun _ => none) true (Frosting.toBackground ++ Frosting.serving 3 .longPower 12) (by decide +kernel)
      (.turn (.step (.perform loopTask {}))) (by decide +kernel)⟩

/-- A frozen application is stopped when the daemon is restarted, and when the stock system
    is restored after a reload that found its manifest no more. -/
theorem restart_stops_frozen :
    let parked := Frosting.toBackground.foldl Frost.next (Frost.boot [freezingDiary] (fun _ => none) true)
    let reloaded := (Frosting.served 3 .reloadManifests 11 ++ Frosting.serving 4 .longPower 9).foldl Frost.next parked
    parked.frozen = [diary.id] ∧ ¬parked.gentle (.restart {} [freezingDiary] (fun _ => none) false) ∧
      ¬reloaded.gentle (.turn (.step (.perform loopTask {}))) := by
  decide +kernel

end Remagic.Daemon
