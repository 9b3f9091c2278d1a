import Remagic.DaemonStarts

/-!
# The daemon under watch

Along every run of the machine each of its tasks keeps the discipline of the locks and
accounts for what it starts.
-/

namespace Remagic.Daemon
open Supervisor
open Programs (Program Contract Assertion Discipline)

/-! ## Contracts -/

/-- The locks and the starts, of all tasks together. -/
def startDiscipline (owners : Owners) : Discipline Nat Role Op Answer Watched Outcome where
  meaning := watching
  contract i _ := ((lockContract i).along Watched.daemon).and (startContract owners i)
  post i _ _ s := Holding i [] s.daemon ∧ Stage owners i False none False s
  apart := by
    intro i j _ _ different β op answer s able _ ⟨orderly, accounted⟩
    refine ⟨op.undisturbed different able orderly, ?_, ?_, ?_, accounted.manifests⟩
    · exact op.watch_apart (Ne.symm different)
    · have same := op.watch_reloading i answer s.watch
      show j ∈ (op.watch i answer s.watch).reloading ↔ j ∈ s.watch.reloading
      rw [same]
      split
      · simp [Ne.symm different]
      · rfl
    · exact op.exec_mine different able orderly .transition

/-- A task that has no lock may begin. -/
theorem Role.begins {owners : Owners} {me : Nat} {role : Role} {s : Watched} (wellFormed : role.wellFormed me)
    (free : ∀ lock, s.daemon.locks lock ≠ some me) (declared : Declared owners s.daemon.manifests) :
    role.program.Meets (watching me) ((startDiscipline owners).contract me role) ((startDiscipline owners).post me role) s := by
  have locks := role.orderly wellFormed s.daemon fun lock => by simp [free lock]
  have starts : role.program.Meets (watching me) (startContract owners me) (fun _ => Stage owners me False none False) s :=
    Role.stays wellFormed s ⟨declared, fun none => none.elim, fun id there => (by cases there), fun none => none.elim⟩
  have lifted : role.program.Meets (watching me) ((lockContract me).along Watched.daemon)
      (fun _ t => Holding me [] t.daemon) s := Program.Meets.along (fun _ _ => rfl) (fun _ _ _ => rfl) locks
  exact lifted.and starts

/-! ## What has yet to be served -/

/-- Every event that is to come is one that someone creates. -/
structure SharedDaemon.Possible (s : SharedDaemon) : Prop where
  queue : ∀ queued ∈ s.queue, queued.event.wellFormed
  sending : ∀ queued ∈ s.sending, queued.event.wellFormed
  posted : ∀ timer ∈ s.posted, timer.1.wellFormed

theorem SharedDaemon.Possible.same {s t : SharedDaemon} (possible : s.Possible) (queue : t.queue = s.queue)
    (sending : t.sending = s.sending) (posted : t.posted = s.posted) : t.Possible :=
  ⟨queue ▸ possible.queue, sending ▸ possible.sending, posted ▸ possible.posted⟩

theorem SharedDaemon.coming {s t u : SharedDaemon} (same : t = u) (sending : u.sending = s.sending) (posted : u.posted = s.posted) :
    t.sending = s.sending ∧ t.posted = s.posted := by
  subst same
  exact ⟨sending, posted⟩

section
variable {me : Nat} {β : Type} {answer : Answer} {s : SharedDaemon}

/-- Only the errands of events have to do with those to come. -/
theorem Op.exec_coming (op : Op β) (me : Nat) (answer : Answer) (s : SharedDaemon) (kind : op.kind ≠ .event) :
    (op.exec me answer s).2.sending = s.sending ∧ (op.exec me answer s).2.posted = s.posted := by
  cases op with
  | post event epoch => exact absurd rfl kind
  | send event => exact absurd rfl kind
  | edit change => cases change <;> exact ⟨rfl, rfl⟩
  | call made =>
    obtain ⟨display, units, same, -⟩ := made.exec_eq answer s
    show (made.exec answer s).2.sending = _ ∧ (made.exec answer s).2.posted = _
    rw [same]
    exact ⟨rfl, rfl⟩
  | apply transition =>
    obtain ⟨state, same⟩ := s.apply_eq transition
    exact SharedDaemon.coming same rfl rfl
  | beginPark id returningSystem =>
    obtain ⟨state, same⟩ := s.beginPark_eq id returningSystem
    exact SharedDaemon.coming same rfl rfl
  | finishPark id =>
    obtain ⟨state, same⟩ := s.finishPark_eq id
    exact SharedDaemon.coming same rfl rfl
  | appParked id =>
    obtain ⟨state, same⟩ := s.appParked_eq id
    exact SharedDaemon.coming same rfl rfl
  | appReady id =>
    obtain ⟨state, same⟩ := s.appReady_eq id answer
    exact SharedDaemon.coming same rfl rfl
  | closed id wasForeground =>
    obtain ⟨state, same⟩ := s.closed_eq id wasForeground
    exact SharedDaemon.coming same rfl rfl
  | stopped id =>
    obtain ⟨state, same⟩ := s.stopped_eq id
    exact SharedDaemon.coming same rfl rfl
  | commitReady id =>
    obtain ⟨state, inputModes, same⟩ := s.commitReady_eq id answer
    exact SharedDaemon.coming same rfl rfl
  | setPendingMode token mode =>
    obtain ⟨inputModes, same⟩ := s.setPendingMode_eq token mode
    exact SharedDaemon.coming same rfl rfl
  | reserveReport id pending =>
    obtain ⟨exitReports, same⟩ := s.reserveReport_eq id pending
    exact SharedDaemon.coming same rfl rfl
  | _ => first
    | exact ⟨rfl, rfl⟩
    | simp only [Op.exec]
      split <;> exact ⟨rfl, rfl⟩

theorem Op.exec_possible (op : Op β) (own : op.errand ≠ .parked) (possible : s.Possible) : (op.exec me answer s).2.Possible := by
  by_cases kind : op.kind = .event
  · have wellFormed : ∀ event : Event, event.errand ≠ .parked → event.wellFormed := by
      intro event other
      cases event with
      | appParked session => exact absurd rfl other
      | _ => trivial
    cases op with
    | post event epoch =>
      refine ⟨possible.queue, possible.sending, ?_⟩
      intro timer there
      rcases List.mem_append.mp there with before | new
      · exact possible.posted timer before
      · rw [List.mem_singleton.mp new]
        exact wellFormed event own
    | send event =>
      simp only [Op.exec]
      split
      · refine ⟨?_, possible.sending, possible.posted⟩
        intro queued there
        rcases List.mem_append.mp there with before | new
        · exact possible.queue queued before
        · rw [List.mem_singleton.mp new]
          exact wellFormed event own
      · exact possible.same rfl rfl rfl
    | edit change => cases change <;> cases kind
    | acquire lock => cases lock <;> cases kind
    | release lock failed => cases lock <;> cases kind
    | call made => rcases made.kind_cases with same | same | same <;> simp [Op.kind, same] at kind
    | _ => cases kind
  · obtain ⟨sending, posted⟩ := op.exec_coming me answer s kind
    exact possible.same ((op.frame me answer s).queue kind) sending posted

end

/-! ## The machine and its onlooker -/

/-- The machine, beside which an onlooker keeps track of its tasks. -/
structure Lookout where
  machine : Machine
  watch : Watch := {}

inductive Look where
  | step (step : Step)
  /-- The operation on a package returns whose client was dropped in the meantime. -/
  | returned (task : Nat)

/-- `spawn_blocking` runs an operation on a package, and is not dropped with the task that
    waits for it. -/
def Op.blocking {β : Type} : Op β → Bool
  | .call (.installBundle _) | .call (.rollbackBundle _) | .call (.uninstallBundle _) => true
  | _ => false

/-- The task is over. -/
def Watch.forget (task : Nat) (w : Watch) : Watch :=
  { w with
    probed := Function.update w.probed task none
    reloading := w.reloading.filter fun other => other ≠ task }

namespace Lookout

def shared (l : Lookout) : SharedDaemon := l.machine.shared

def watched (l : Lookout) : Watched := ⟨l.machine.shared, l.watch⟩

/-- What the onlooker makes of an operation that the task performs, if it may. -/
def watchPerform (task : Nat) (answer : Answer) (l : Lookout) : Watch :=
  match l.machine.tasks task with
  | some (_, .perform op _) => if op.ready task l.shared then op.watch task answer l.watch else l.watch
  | _ => l.watch

def watchFinish (task : Nat) (l : Lookout) : Watch :=
  match l.machine.tasks task with
  | some (_, .done _) => (l.watch.leave task).forget task
  | _ => l.watch

def watchAbandon (task : Nat) (l : Lookout) : Watch :=
  match l.machine.tasks task with
  | some (_, .perform op _) => if op.blocking then l.watch.forget task else (l.watch.leave task).forget task
  | some (_, .done _) => (l.watch.leave task).forget task
  | none => l.watch

/-- A task's number is free again once its operation on a package is over. -/
def bound (task : Nat) (l : Lookout) : Bool := l.watch.stopped.any fun other => other.1 = task

def next (l : Lookout) : Look → Lookout
  | .step step =>
    if l.machine.failed then l
    else match step with
      | .perform task answer => ⟨l.machine.next step, l.watchPerform task answer⟩
      | .finish task => ⟨l.machine.next step, l.watchFinish task⟩
      | .abandon task => if task = loopTask then l else ⟨l.machine.next step, l.watchAbandon task⟩
      | .spawn task _ => if l.bound task then l else { l with machine := l.machine.next step }
      | _ => { l with machine := l.machine.next step }
  | .returned task => if (l.machine.tasks task).isNone then { l with watch := l.watch.leave task } else l

def boot (manifests : List AppManifest) (sessions : Table AppSession) : Lookout := { machine := .boot manifests sessions }

end Lookout

/-- Whatever manifests are loaded declare only what is their applications' own. -/
def Look.told (owners : Owners) : Look → Prop
  | .step (.perform _ answer) => Declared owners answer.manifests
  | _ => True

/-- What holds of the daemon under watch all along. -/
structure Lookout.Sound (owners : Owners) (l : Lookout) : Prop where
  kept : (startDiscipline owners).Kept l.machine.tasks l.watched
  idle : ∀ task, l.machine.tasks task = none → (∀ lock, l.shared.locks lock ≠ some task) ∧ l.watch.probed task = none
  inside : ∀ task id, l.watch.probed task = some id → task = loopTask ∧ l.shared.locks .transition = some task
  declared : Declared owners l.shared.manifests
  possible : l.shared.Possible

/-! ## What the world does -/

/-- What happens beside the tasks. -/
theorem Undisturbed.world {me : Nat} {s : SharedDaemon} (queue sending : List QueuedEvent) (posted : List (Event × Nat))
    (requests : Nat) (display : Display) {epoch : Nat} {fences : Nat → RequestFence} {units : AppId → Bool}
    (later : s.launchInterruptEpoch ≤ epoch) (fixed : ∀ request, s.fences request ≠ .pending → fences request = s.fences request)
    (begun : ∀ request, fences request = .committing → s.fences request = .committing)
    (active : ∀ id, units id = true → s.units id = true) :
    Undisturbed me s
      { s with queue, sending, posted, requests, display, launchInterruptEpoch := epoch, fences, units } where
  mine _ := Iff.rfl
  moves _ := .stay _
  state _ _ := rfl
  sleep _ := rfl
  generations _ := rfl
  backgroundExecution _ := rfl
  foregroundFences _ := rfl
  sessions _ _ := .inl rfl
  unmoded _ _ := rfl
  settled _ _ _ there _ := there
  inputModes _ := rfl
  units _ := active
  owed _ := rfl
  fences := fixed
  committing _ := begun
  launchInterruptEpoch := later

theorem Undisturbed.dropped {me task : Nat} {s : SharedDaemon} (apart : me ≠ task) : Undisturbed me s (s.dropLocks task) where
  mine lock := by
    simp only [SharedDaemon.dropLocks]
    split
    next held => simp [held, apart.symm]
    next => rfl
  moves _ := .stay _
  state _ _ := rfl
  sleep _ := rfl
  generations _ := rfl
  backgroundExecution _ := rfl
  foregroundFences _ := rfl
  sessions _ _ := .inl rfl
  unmoded _ _ := rfl
  settled _ _ _ there _ := there
  inputModes _ := rfl
  units _ _ active := active
  owed _ := rfl
  fences _ _ := rfl
  committing _ _ begun := begun
  launchInterruptEpoch := Nat.le_refl _

theorem SharedDaemon.newEvent_epoch (event : Event) (s : SharedDaemon) :
    s.launchInterruptEpoch ≤ (s.newEvent event).2.launchInterruptEpoch := by
  unfold newEvent
  simp only
  split <;> omega

namespace SharedDaemon
variable {me : Nat} {s : SharedDaemon}

theorem create_undisturbed (event : Event) : Undisturbed me s (s.create event) :=
  Undisturbed.world s.queue _ s.posted _ s.display (s.newEvent_epoch event) (fun _ _ => rfl) (fun _ h => h) fun _ h => h

theorem enqueue_undisturbed (request : Nat) : Undisturbed me s (s.enqueue request) := by
  unfold enqueue
  split
  · split
    · exact Undisturbed.world _ _ s.posted s.requests s.display (Nat.le_refl _) (fun _ _ => rfl) (fun _ h => h) fun _ h => h
    · exact .refl me s
  · exact .refl me s

theorem giveUp_undisturbed (request : Nat) : Undisturbed me s (s.giveUp request) := by
  unfold giveUp
  refine Undisturbed.world s.queue _ s.posted s.requests s.display (Nat.le_refl _) ?_ ?_ fun _ h => h
  · intro other fixed
    split
    next pending =>
      have different : other ≠ request := by
        rintro rfl
        exact fixed pending
      exact Function.update_of_ne different _ _
    next => rfl
  · intro other begun
    split at begun
    next pending =>
      by_cases same : other = request
      · subst same
        rw [Function.update_self] at begun
        cases begun
      · rwa [Function.update_of_ne same] at begun
    next => exact begun

theorem fire_undisturbed (index : Nat) : Undisturbed me s (s.fire index) := by
  unfold fire
  split
  next event interactionEpoch there =>
    have erased : Undisturbed me s { s with posted := s.posted.eraseIdx index } :=
      Undisturbed.world s.queue s.sending _ s.requests s.display (Nat.le_refl _) (fun _ _ => rfl) (fun _ h => h) fun _ h => h
    split
    · exact erased.trans (create_undisturbed event)
    · exact erased
  next => exact .refl me s

theorem create_possible {event : Event} (possible : s.Possible) (wellFormed : event.wellFormed) : (s.create event).Possible := by
  refine ⟨possible.queue, ?_, possible.posted⟩
  intro queued there
  rcases List.mem_append.mp there with before | new
  · exact possible.sending queued before
  · rw [List.mem_singleton.mp new]
    exact wellFormed

theorem enqueue_possible (request : Nat) (possible : s.Possible) : (s.enqueue request).Possible := by
  unfold enqueue
  split
  next queued found =>
    split
    · refine ⟨?_, fun other there => possible.sending other (List.mem_filter.mp there).1, possible.posted⟩
      intro other there
      rcases List.mem_append.mp there with before | new
      · exact possible.queue other before
      · rw [List.mem_singleton.mp new]
        exact possible.sending queued (List.mem_of_find?_eq_some found)
    · exact possible
  next => exact possible

theorem fire_possible (index : Nat) (possible : s.Possible) : (s.fire index).Possible := by
  unfold fire
  split
  next event interactionEpoch there =>
    have erased : ({ s with posted := s.posted.eraseIdx index } : SharedDaemon).Possible :=
      ⟨possible.queue, possible.sending, fun timer there => possible.posted timer (List.mem_of_mem_eraseIdx there)⟩
    split
    · exact create_possible erased (possible.posted _ (List.mem_of_getElem? there))
    · exact erased
  next => exact possible

end SharedDaemon

/-- What a step beside the tasks leaves of the state. -/
structure SharedDaemon.Beside (s t : SharedDaemon) : Prop where
  undisturbed : ∀ me, Undisturbed me s t
  locks : t.locks = s.locks
  manifests : t.manifests = s.manifests
  state : t.state = s.state
  possible : s.Possible → t.Possible

theorem SharedDaemon.Beside.refl (s : SharedDaemon) : s.Beside s := ⟨fun me => .refl me s, rfl, rfl, rfl, fun possible => possible⟩

/-- The step is none of a task. -/
def Step.beside : Step → Bool
  | .create .. | .enqueue _ | .giveUp _ | .fire _ | .unitExits _ | .displayExits | .homeCommits _ => true
  | .serve | .spawn .. | .perform .. | .finish _ | .abandon _ => false

theorem Machine.next_beside {m : Machine} {step : Step} (beside : step.beside = true) :
    (m.next step).tasks = m.tasks ∧ m.shared.Beside (m.next step).shared := by
  unfold Machine.next
  split
  · exact ⟨rfl, .refl _⟩
  · cases step with
    | create event cancellable =>
      simp only
      split
      next possible =>
        exact ⟨rfl, fun me => SharedDaemon.create_undisturbed event, rfl, rfl, rfl,
          fun before => SharedDaemon.create_possible before (Event.possible_iff.mp possible)⟩
      next => exact ⟨rfl, .refl _⟩
    | enqueue request =>
      refine ⟨rfl, fun me => SharedDaemon.enqueue_undisturbed request, ?_, ?_, ?_, SharedDaemon.enqueue_possible request⟩
      all_goals
        simp only [SharedDaemon.enqueue]
        repeat' split
        all_goals rfl
    | giveUp request =>
      simp only
      split
      · exact ⟨rfl, fun me => SharedDaemon.giveUp_undisturbed request, rfl, rfl, rfl, fun possible =>
          ⟨possible.queue, fun other there => possible.sending other (List.mem_filter.mp there).1, possible.posted⟩⟩
      · exact ⟨rfl, .refl _⟩
    | fire index =>
      refine ⟨rfl, fun me => SharedDaemon.fire_undisturbed index, ?_, ?_, ?_, SharedDaemon.fire_possible index⟩
      all_goals
        simp only [SharedDaemon.fire]
        repeat' split
        all_goals rfl
    | unitExits id =>
      refine ⟨rfl, fun me => ?_, rfl, rfl, rfl, fun possible => possible.same rfl rfl rfl⟩
      refine Undisturbed.world _ _ _ _ _ (Nat.le_refl _) (fun _ _ => rfl) (fun _ h => h) fun other active => ?_
      by_cases same : other = id
      · subst same
        rw [Function.update_self] at active
        cases active
      · rwa [Function.update_of_ne same] at active
    | displayExits =>
      exact ⟨rfl, fun me => Undisturbed.world _ _ _ _ _ (Nat.le_refl _) (fun _ _ => rfl) (fun _ h => h) fun _ h => h,
        rfl, rfl, rfl, fun possible => possible.same rfl rfl rfl⟩
    | homeCommits sequence =>
      exact ⟨rfl, fun me => Undisturbed.world _ _ _ _ _ (Nat.le_refl _) (fun _ _ => rfl) (fun _ h => h) fun _ h => h,
        rfl, rfl, rfl, fun possible => possible.same rfl rfl rfl⟩
    | serve => cases beside
    | spawn task role => cases beside
    | perform task answer => cases beside
    | finish task => cases beside
    | abandon task => cases beside

/-- The event loop takes the event from the queue. -/
theorem SharedDaemon.Beside.taken {s : SharedDaemon} {queued : QueuedEvent} {rest : List QueuedEvent}
    (there : s.queue = queued :: rest) : s.Beside { s with queue := rest } := by
  refine ⟨fun me => ?_, rfl, rfl, rfl, fun possible => ⟨fun other member => ?_, possible.sending, possible.posted⟩⟩
  · exact Undisturbed.world rest _ _ _ _ (Nat.le_refl _) (fun _ _ => rfl) (fun _ h => h) fun _ h => h
  · refine possible.queue other ?_
    rw [there]
    exact List.mem_cons_of_mem _ member

/-! ## What holds all along -/

namespace Lookout
variable {owners : Owners} {l : Lookout} {task : Nat}

/-- Where the task may not go on, nothing happens. -/
theorem perform_idle {answer : Answer}
    (idle : ∀ role β (op : Op β) next, l.machine.tasks task = some (role, .perform op next) → op.ready task l.shared = false) :
    (⟨l.machine.perform task answer, l.watchPerform task answer⟩ : Lookout) = l := by
  unfold Machine.perform watchPerform
  cases there : l.machine.tasks task with
  | none => rfl
  | some doing =>
    obtain ⟨role, program⟩ := doing
    cases program with
    | done outcome =>
      simp only [Programs.Program.advance, Machine.put, ← there, Function.update_eq_self]
    | perform op next =>
      have waiting := idle role _ op next there
      have unready : ((operations task).ready op l.machine.shared) = false := waiting
      simp only [Programs.Program.advance, waiting, unready, Bool.false_eq_true, if_false, Machine.put, ← there,
        Function.update_eq_self]

/-- The task goes on with the operation. -/
theorem perform_ready {answer : Answer} {role : Role} {β : Type} {op : Op β} {next : β → Program Op Outcome}
    (there : l.machine.tasks task = some (role, .perform op next)) (able : op.ready task l.shared = true) :
    (⟨l.machine.perform task answer, l.watchPerform task answer⟩ : Lookout) = ⟨{ l.machine with
          shared := (op.exec task answer l.shared).2
          tasks := Function.update l.machine.tasks task (some (role, next (op.exec task answer l.shared).1)) },
        op.watch task answer l.watch⟩ := by
  have able' : ((operations task).ready op l.machine.shared) = true := able
  unfold Machine.perform watchPerform
  simp only [there, Programs.Program.advance, able, able', if_true, Machine.put]
  rfl

/-- What the task answers for with the operation. -/
theorem Sound.answers {answer : Answer} {role : Role} {β : Type} {op : Op β} {next : β → Program Op Outcome}
    (sound : l.Sound owners) (told : Declared owners answer.manifests)
    (there : l.machine.tasks task = some (role, .perform op next)) (able : op.ready task l.shared = true) :
    op.orderly task l.shared ∧ op.Accounted owners task answer l.watched ∧
      (next (op.exec task answer l.shared).1).Meets (watching task) ((startDiscipline owners).contract task role)
        ((startDiscipline owners).post task role) ⟨(op.exec task answer l.shared).2, op.watch task answer l.watch⟩ := by
  have meets := sound.kept task role _ there
  obtain ⟨⟨orderly, accounted⟩, rest⟩ := meets l.watched (((startDiscipline owners).contract task role).refl _) able answer
    ⟨trivial, fun _ _ => told⟩
  exact ⟨orderly, accounted, rest⟩

theorem Sound.perform {answer : Answer} (sound : l.Sound owners) (told : Declared owners answer.manifests) :
    (⟨l.machine.perform task answer, l.watchPerform task answer⟩ : Lookout).Sound owners := by
  by_cases goes : ∃ role, ∃ β, ∃ op : Op β, ∃ next, l.machine.tasks task = some (role, .perform op next) ∧ op.ready task l.shared = true
  · obtain ⟨role, β, op, next, there, able⟩ := goes
    obtain ⟨orderly, accounted, -⟩ := sound.answers told there able
    have advanced := sound.kept.advance there fun operation following same =>
      (⟨trivial, fun _ _ => told⟩ : ((startDiscipline owners).contract task role).told operation answer l.watched)
    rw [perform_ready there able]
    have able' : ((startDiscipline owners).meaning task).ready op l.watched = true := able
    simp only [Programs.Program.advance, able', if_true] at advanced
    refine ⟨advanced, ?_, ?_, accounted.manifests sound.declared, op.exec_possible accounted.parked sound.possible⟩
    · intro other gone
      have apart : other ≠ task := by
        rintro rfl
        simp at gone
      simp only [Function.update_of_ne apart] at gone
      obtain ⟨free, unasked⟩ := sound.idle other gone
      refine ⟨fun lock held => free lock ((op.exec_mine (Ne.symm apart) able orderly lock).mp held), ?_⟩
      exact (congrFun rfl other).trans ((op.watch_apart apart).trans unasked)
    · intro other id probed
      by_cases same : other = task
      · subst same
        by_cases lock : op.errand = .lock
        · cases op with
          | acquire lock' =>
            cases lock' <;> first | cases lock; done | skip
            have free : l.shared.locks .transition = none := by simpa [Op.ready] using able
            have held := (sound.inside other id probed).2
            rw [free] at held
            cases held
          | release lock' failed =>
            cases lock' <;> first | cases lock; done | skip
            simp [Op.watch] at probed
          | ask question => cases question <;> cases lock
          | edit change => cases change <;> cases lock
          | apply transition => cases transition <;> cases lock
          | post event epoch => cases event <;> cases lock
          | send event => cases event <;> cases lock
          | call made =>
            cases made <;> first
              | cases lock
              | cases ‹ServiceUnit› <;> cases lock
          | _ => cases lock
        · show other = loopTask ∧ (op.exec other answer l.shared).2.locks .transition = some other
          rw [op.exec_transition lock]
          by_cases probe : op.errand = .probe
          · exact accounted.probes probe
          · exact sound.inside other id ((congrFun (op.watch_probed other answer l.watch lock probe) other).symm.trans probed)
      · have before : l.watch.probed other = some id := (op.watch_apart same).symm.trans probed
        obtain ⟨loop, held⟩ := sound.inside other id before
        exact ⟨loop, (op.exec_mine (Ne.symm same) able orderly .transition).mpr held⟩
  · rw [perform_idle]
    · exact sound
    · intro role β op next there
      by_contra able
      exact goes ⟨role, β, op, next, there, by simpa using able⟩

/-- What happens in the world beside the tasks. -/
theorem Sound.world {machine : Machine} (sound : l.Sound owners) (tasks : machine.tasks = l.machine.tasks)
    (beside : l.shared.Beside machine.shared) : ({ l with machine } : Lookout).Sound owners := by
  refine ⟨?_, ?_, ?_, ?_, beside.possible sound.possible⟩
  · show (startDiscipline owners).Kept machine.tasks ⟨machine.shared, l.watch⟩
    rw [tasks]
    refine sound.kept.disturb fun me role => ⟨beside.undisturbed me, rfl, Iff.rfl, ?_, fun declared => ?_⟩
    · exact (beside.undisturbed me).mine .transition
    · show Declared owners machine.shared.manifests
      rw [beside.manifests]
      exact declared
  · intro task gone
    show (∀ lock, machine.shared.locks lock ≠ some task) ∧ _
    rw [beside.locks]
    exact sound.idle task (tasks ▸ gone)
  · intro task id probed
    show task = loopTask ∧ machine.shared.locks .transition = some task
    rw [beside.locks]
    exact sound.inside task id probed
  · show Declared owners machine.shared.manifests
    rw [beside.manifests]
    exact sound.declared

/-- A task begins. -/
theorem Sound.put {role : Role} (sound : l.Sound owners) (gone : l.machine.tasks task = none)
    (wellFormed : role.wellFormed task) :
    ({ l with machine := l.machine.put task (some (role, role.program)) } : Lookout).Sound owners := by
  have begins := role.begins (s := l.watched) wellFormed (sound.idle task gone).1 sound.declared
  refine ⟨sound.kept.put begins, ?_, sound.inside, sound.declared, sound.possible⟩
  intro other idle
  have apart : other ≠ task := by
    rintro rfl
    simp [Machine.put] at idle
  simp only [Machine.put, Function.update_of_ne apart] at idle
  exact sound.idle other idle

/-- What an onlooker forgets or leaves of a task that is over concerns no other. -/
theorem Sound.over {watch : Watch} {machine : Machine} (sound : l.Sound owners)
    (tasks : machine.tasks = Function.update l.machine.tasks task none) (state : machine.shared = l.shared.dropLocks task)
    (probed : watch.probed = Function.update l.watch.probed task none)
    (reloading : ∀ other, other ≠ task → (other ∈ watch.reloading ↔ other ∈ l.watch.reloading)) :
    (⟨machine, watch⟩ : Lookout).Sound owners := by
  refine ⟨?_, ?_, ?_, ?_, ?_⟩
  · show (startDiscipline owners).Kept machine.tasks ⟨machine.shared, watch⟩
    rw [tasks]
    intro other role program there
    have apart : other ≠ task := by
      rintro rfl
      simp at there
    rw [Function.update_of_ne apart] at there
    refine (sound.kept other role program there).relied ⟨?_, ?_, reloading other apart, ?_, ?_⟩
    · show Undisturbed other l.shared machine.shared
      rw [state]
      exact .dropped apart
    · show watch.probed other = l.watch.probed other
      rw [probed, Function.update_of_ne apart]
    · show machine.shared.locks .transition = some other ↔ l.shared.locks .transition = some other
      rw [state]
      exact (Undisturbed.dropped apart).mine .transition
    · intro declared
      show Declared owners machine.shared.manifests
      rw [state]
      exact declared
  · intro other gone
    show (∀ lock, machine.shared.locks lock ≠ some other) ∧ watch.probed other = none
    rw [state, probed]
    by_cases same : other = task
    · subst same
      refine ⟨fun lock held => ?_, Function.update_self ..⟩
      simp only [SharedDaemon.dropLocks] at held
      split at held
      next => cases held
      next other => exact other held
    · rw [Function.update_of_ne same]
      have idle := sound.idle other (by
        have before : machine.tasks other = none := gone
        rwa [tasks, Function.update_of_ne same] at before)
      exact ⟨fun lock held => idle.1 lock (((Undisturbed.dropped same).mine lock).mp held), idle.2⟩
  · intro other id begun
    have begun' : watch.probed other = some id := begun
    rw [probed] at begun'
    show other = loopTask ∧ machine.shared.locks .transition = some other
    rw [state]
    by_cases same : other = task
    · subst same
      rw [Function.update_self] at begun'
      cases begun'
    · rw [Function.update_of_ne same] at begun'
      obtain ⟨loop, held⟩ := sound.inside other id begun'
      exact ⟨loop, ((Undisturbed.dropped same).mine .transition).mpr held⟩
  · show Declared owners machine.shared.manifests
    rw [state]
    exact sound.declared
  · show machine.shared.Possible
    rw [state]
    exact sound.possible.same rfl rfl rfl

theorem dropLocks_free {s : SharedDaemon} (free : ∀ lock, s.locks lock ≠ some task) : s.dropLocks task = s := by
  have same : (fun lock => if s.locks lock = some task then none else s.locks lock) = s.locks := by
    funext lock
    exact if_neg (free lock)
  unfold SharedDaemon.dropLocks
  rw [same]

theorem forget_others {w : Watch} {other : Nat} (apart : other ≠ task) :
    other ∈ (w.forget task).reloading ↔ other ∈ w.reloading := by
  simp [Watch.forget, apart]

theorem Sound.finish (sound : l.Sound owners) : (⟨l.machine.finish task, l.watchFinish task⟩ : Lookout).Sound owners := by
  unfold Machine.finish watchFinish
  cases there : l.machine.tasks task with
  | none => exact sound
  | some doing =>
    obtain ⟨role, program⟩ := doing
    cases program with
    | perform op next => exact sound
    | done outcome =>
      have ended := (sound.kept task role _ there l.watched (((startDiscipline owners).contract task role).refl _)).1
      have free : ∀ lock, l.shared.locks lock ≠ some task := fun lock held => List.not_mem_nil ((ended lock).mp held)
      exact sound.over rfl (dropLocks_free free).symm rfl
        fun other apart => forget_others apart

theorem Sound.abandon (sound : l.Sound owners) (task' : task ≠ loopTask) :
    (⟨l.machine.abandon task, l.watchAbandon task⟩ : Lookout).Sound owners := by
  unfold Machine.abandon watchAbandon
  cases there : l.machine.tasks task with
  | none => simpa using sound
  | some doing =>
    obtain ⟨role, program⟩ := doing
    simp only [ne_eq, task', not_false_eq_true, Option.isSome_some, and_self, if_true]
    cases program with
    | done outcome => exact sound.over rfl rfl rfl fun other apart => forget_others apart
    | perform op next =>
      simp only
      split <;> exact sound.over rfl rfl rfl fun other apart => forget_others apart

theorem Sound.left (sound : l.Sound owners) (task : Nat) : ({ l with watch := l.watch.leave task } : Lookout).Sound owners := by
  refine ⟨sound.kept.disturb fun me role => ?_, sound.idle, sound.inside, sound.declared, sound.possible⟩
  exact ⟨Undisturbed.refl me _, rfl, Iff.rfl, Iff.rfl, fun declared => declared⟩

/-- The onlooker heeds the tasks alone. -/
theorem next_beside {step : Step} (beside : step.beside = true) : l.next (.step step) = { l with machine := l.machine.next step } := by
  simp only [Lookout.next]
  split
  next failed => simp [Machine.next, failed]
  next => cases step <;> first | rfl | cases beside

/-- One step of the machine and its onlooker. -/
theorem Sound.next {look : Look} (sound : l.Sound owners) (told : look.told owners) : (l.next look).Sound owners := by
  cases look with
  | returned task =>
    simp only [Lookout.next]
    split
    · exact sound.left task
    · exact sound
  | step step =>
    by_cases beside : step.beside = true
    · rw [next_beside beside]
      obtain ⟨tasks, beside⟩ := l.machine.next_beside beside
      exact sound.world tasks beside
    simp only [Lookout.next]
    by_cases failed : l.machine.failed = true
    · rw [if_pos failed]
      exact sound
    · rw [if_neg failed]
      have alive : l.machine.failed = false := by simpa using failed
      cases step with
      | perform task answer =>
        simp only [Machine.next, alive]
        exact sound.perform told
      | finish task =>
        simp only [Machine.next, alive]
        exact sound.finish
      | abandon task =>
        simp only [Machine.next, alive]
        split
        · exact sound
        next task' => exact sound.abandon task'
      | spawn task role =>
        simp only [Machine.next, alive, Machine.spawn, Bool.false_eq_true, if_false]
        split
        · exact sound
        · cases role with
          | serving queued => exact sound
          | _ =>
            simp only
            split
            next free => exact sound.put (Option.isNone_iff_eq_none.mp free.2) free.1
            next => exact sound
      | serve =>
        have goes : l.machine.next .serve = l.machine.serve := by simp [Machine.next, alive]
        simp only [goes, Machine.serve]
        split
        next queued rest idle there =>
          have taken : ({ l with machine := { l.machine with shared := { l.machine.shared with queue := rest } } } : Lookout).Sound
              owners := sound.world rfl (.taken there)
          have wellFormed : queued.event.wellFormed := sound.possible.queue queued (by
            show queued ∈ l.machine.shared.queue
            rw [there]
            exact List.mem_cons_self ..)
          have begun : Role.wellFormed loopTask (.serving queued) := ⟨rfl, wellFormed⟩
          exact taken.put idle begun
        next => exact sound
      | _ => exact absurd rfl beside

/-- The daemon begins with no task. -/
theorem Sound.boot {manifests : List AppManifest} {sessions : Table AppSession} (declared : Declared owners manifests) :
    (Lookout.boot manifests sessions).Sound owners where
  kept _ _ _ there := nomatch there
  idle _ _ := ⟨fun _ held => (nomatch held), rfl⟩
  inside _ _ probed := nomatch probed
  declared := declared
  possible := ⟨fun _ there => (nomatch there), fun _ there => (nomatch there), fun _ there => (nomatch there)⟩

end Lookout

end Remagic.Daemon
