import Remagic.DaemonLookout

/-!
# Changes of packages

A control client's task closes the application, changes its package, and then reloads the
manifests. The transition lock is free again once the application is closed.
-/

namespace Remagic.Daemon
open Supervisor
open Programs (Program)

section
variable {me : Nat} {β : Type} {op : Op β} {answer : Answer} {s : SharedDaemon} {w : Watch}

/-- The application whose unit the operation stops. -/
def Op.stops {β : Type} : Op β → Option AppId
  | .call (.stopAndWait (.app id)) => some id
  | _ => none

/-- The application that the operation looks for. -/
def Op.probes {β : Type} : Op β → Option AppId
  | .ask (.executableExists id) => some id
  | _ => none

/-- A unit that is active was so before, or is started. -/
theorem Op.exec_units {id : AppId} (active : (op.exec me answer s).2.units id = true) :
    s.units id = true ∨ op.starts = some (.app id) := by
  by_cases kind : op.kind = .unit
  · cases op with
    | call made =>
      have effect : (made.effect s).units id = true → s.units id = true ∨ made.starts = some (.app id) := by
        intro after
        cases made <;> try exact .inl after
        all_goals
          rename_i unit
          cases unit <;> try exact .inl after
        case start.app app =>
          by_cases same : id = app
          · exact .inr (by rw [same]; rfl)
          · exact .inl (by simpa [Call.effect, same] using after)
        case startAndWait.app app =>
          by_cases same : id = app
          · exact .inr (by rw [same]; rfl)
          · exact .inl (by simpa [Call.effect, same] using after)
        case restart.app app =>
          by_cases same : id = app
          · exact .inr (by rw [same]; rfl)
          · exact .inl (by simpa [Call.effect, same] using after)
        case stopAndWait.app app =>
          by_cases same : id = app
          · subst same
            simp [Call.effect] at after
          · exact .inl (by simpa [Call.effect, same] using after)
        case stopAndWait.everyApp => simp [Call.effect] at after
      simp only [Op.exec, Call.exec] at active
      split at active
      · exact .inl active
      · split at active
        · exact effect active
        · split at active
          · exact effect active
          · exact .inl active
    | edit change => cases change <;> cases kind
    | acquire lock => cases lock <;> cases kind
    | release lock failed => cases lock <;> cases kind
    | _ => cases kind
  · rw [(op.frame me answer s).units kind] at active
    exact .inl active

/-- A unit that is stopped is not active. -/
theorem Op.exec_stops {id : AppId} (stops : op.stops = some id) (ok : answer.ok = true) :
    (op.exec me answer s).2.units id = false := by
  cases op with
  | call made =>
    cases made <;> try cases stops
    rename_i unit
    cases unit <;> cases stops
    simp [Op.exec, Call.exec, Call.refused, ok, Call.effect]
  | _ => cases stops

/-- The transition lock is held for it. -/
theorem Op.orderly.stops {id : AppId} (orderly : op.orderly me s) (stops : op.stops = some id) :
    s.locks .transition = some me := by
  refine orderly.held ?_
  cases op with
  | call made =>
    cases made <;> try cases stops
    rename_i unit
    cases unit <;> cases stops
    rfl
  | _ => cases stops

theorem Op.watch_stopped {stopped : Nat × AppId} (there : stopped ∈ (op.watch me answer w).stopped) :
    stopped ∈ w.stopped ∨ stopped.1 = me ∧ op.stops = some stopped.2 ∧ answer.ok = true ∧ me ∉ w.reloading := by
  cases op with
  | ask question => cases question <;> exact .inl there
  | release lock failed => cases lock <;> exact .inl there
  | call made =>
    cases made <;> try exact .inl there
    case stopAndWait unit =>
      cases unit <;> try exact .inl there
      simp only [Op.watch] at there
      split at there
      next opens =>
        rcases List.mem_cons.mp there with new | before
        · exact .inr ⟨by rw [new], by rw [new]; rfl, opens⟩
        · exact .inl before
      next => exact .inl there
    all_goals exact .inl (List.mem_filter.mp there).1
  | _ => exact .inl there

theorem Op.watch_probes {task : Nat} {id : AppId} (probed : (op.watch me answer w).probed task = some id) :
    w.probed task = some id ∨ op.probes = some id := by
  cases op with
  | ask question =>
    cases question <;> try exact .inl probed
    by_cases same : task = me
    · subst same
      exact .inr ((Function.update_self task _ w.probed).symm.trans probed)
    · exact .inl ((Function.update_of_ne same _ _).symm.trans probed)
  | release lock failed =>
    cases lock <;> try exact .inl probed
    by_cases same : task = me
    · subst same
      have none : (Function.update w.probed task none) task = some id := probed
      rw [Function.update_self] at none
      cases none
    · exact .inl ((Function.update_of_ne same _ _).symm.trans probed)
  | call made =>
    cases made <;> try exact .inl probed
    case stopAndWait unit =>
      cases unit <;> try exact .inl probed
      simp only [Op.watch] at probed
      split at probed <;> exact .inl probed
  | _ => exact .inl probed

end

/-! ## While a package changes -/

/-- The unit that the step starts. -/
def Lookout.starts (l : Lookout) : Look → Option ServiceUnit
  | .step (.perform task _) =>
    match l.machine.tasks task with
    | some (_, .perform op _) => if !l.machine.failed && op.ready task l.shared then op.starts else none
    | _ => none
  | _ => none

/-- The entry is of a task of a control client. -/
def ofClient (stopped : Nat × AppId) : Bool := stopped.1 ≠ loopTask

/-- A client's task has closed the application, and its operation on the package has yet
    to return. -/
def Lookout.changing (id : AppId) (l : Lookout) : Bool := l.watch.stopped.any fun other => ofClient other && other.2 = id

/-- The application declares a background service. -/
def serves (owners : Owners) (id : AppId) : Bool := owners.any fun owned => owned.2 = id

/-- No launch looks for an application that is being changed, and no reload of the
    manifests begins or is under way while one with a background service is. -/
def Op.keepsOut (owners : Owners) (l : Lookout) (task : Nat) {β : Type} (op : Op β) (answer : Answer) : Prop :=
  (∀ id ∈ op.probes, l.changing id = false) ∧
    (op.errand = .load → ∀ stopped ∈ l.watch.stopped, ofClient stopped = true → serves owners stopped.2 = false) ∧
    ∀ id ∈ op.stops, answer.ok = true → task ≠ loopTask → task ∉ l.watch.reloading → serves owners id = true →
      l.watch.reloading = []

def Task.keepsOut (owners : Owners) (l : Lookout) (task : Nat) (answer : Answer) : Option Task → Prop
  | some (_, .perform op _) => op.keepsOut owners l task answer
  | some (_, .done _) | none => True

/-- The steps that keep others out of an application while its package changes. -/
def Lookout.keepsOut (owners : Owners) (l : Lookout) : Look → Prop
  | .step (.perform task answer) =>
    Declared owners answer.manifests ∧ Task.keepsOut owners l task answer (l.machine.tasks task)
  | _ => True

instance AppManifest.declares.decide (owners : Owners) (manifest : AppManifest) : Decidable (manifest.declares owners) :=
  inferInstanceAs (Decidable (∀ unit ∈ manifest.backgroundUnit, unit.owner owners = some manifest.id))

instance Declared.decide (owners : Owners) (manifests : List AppManifest) : Decidable (Declared owners manifests) :=
  inferInstanceAs (Decidable (∀ manifest ∈ manifests, manifest.declares owners))

instance Op.keepsOut.decide (owners : Owners) (l : Lookout) (task : Nat) {β : Type} (op : Op β) (answer : Answer) :
    Decidable (op.keepsOut owners l task answer) := by
  unfold Op.keepsOut
  infer_instance

instance Task.keepsOut.decide (owners : Owners) (l : Lookout) (task : Nat) (answer : Answer) :
    ∀ doing, Decidable (Task.keepsOut owners l task answer doing)
  | some (_, .perform op _) => Op.keepsOut.decide owners l task op answer
  | some (_, .done _) => isTrue trivial
  | none => isTrue trivial

instance Lookout.keepsOut.decide (owners : Owners) (l : Lookout) : ∀ look, Decidable (l.keepsOut owners look)
  | .step (.perform task answer) =>
    inferInstanceAs (Decidable (Declared owners answer.manifests ∧ Task.keepsOut owners l task answer (l.machine.tasks task)))
  | .step (.create ..) | .step (.enqueue _) | .step (.giveUp _) | .step (.fire _) | .step .serve | .step (.spawn ..)
  | .step (.finish _) | .step (.abandon _) | .step (.unitExits _) | .step .displayExits | .step (.homeCommits _)
  | .returned _ => isTrue trivial

theorem serves_owner {owners : Owners} {unit : ServiceUnit} {id : AppId} {name : String} (owner : unit.owner owners = some id)
    (named : unit = .background name) : serves owners id = true := by
  subst named
  obtain ⟨before, after, split, -⟩ := List.lookup_eq_some_iff.mp owner
  refine List.any_eq_true.mpr ⟨(name, id), ?_, decide_eq_true rfl⟩
  rw [split]
  exact List.mem_append_right _ (List.mem_cons_self ..)

/-! ## Applications that no one starts -/

/-- No task may start the application, and it is not active. -/
structure Lookout.Quiet (owners : Owners) (id : AppId) (l : Lookout) : Prop where
  unprobed : ∀ task, l.watch.probed task ≠ some id
  unloaded : serves owners id = true → l.watch.reloading = []
  inactive : l.shared.units id = false

/-- The operation neither looks for the application nor loads what it declares. -/
def Op.leaves (owners : Owners) (id : AppId) {β : Type} (op : Op β) : Prop :=
  op.probes ≠ some id ∧ (op.errand = .load → serves owners id = false)

variable {look : Look}

namespace Lookout
variable {owners : Owners} {l : Lookout} {id : AppId} {task : Nat} {answer : Answer} {β : Type} {op : Op β}

/-- What is quiet is started by no task. -/
theorem Quiet.starts {unit : ServiceUnit} (quiet : l.Quiet owners id) (accounted : op.Accounted owners task answer l.watched)
    (starts : op.starts = some unit) : unit.owner owners ≠ some id := by
  intro owner
  rcases accounted.starts unit _ starts owner with launched | ⟨reloads, name, named⟩
  · exact quiet.unprobed task launched
  · have none := quiet.unloaded (serves_owner owner named)
    have begun : task ∈ l.watch.reloading := reloads
    rw [none] at begun
    cases begun

/-- An operation that leaves the application alone. -/
theorem Quiet.leaves {role : Role} {next : β → Program Op Outcome} (quiet : l.Quiet owners id) (leaves : op.leaves owners id)
    (accounted : op.Accounted owners task answer l.watched) (there : l.machine.tasks task = some (role, .perform op next))
    (able : op.ready task l.shared = true) :
    (⟨l.machine.perform task answer, l.watchPerform task answer⟩ : Lookout).Quiet owners id := by
  rw [perform_ready there able]
  refine ⟨fun other probed => ?_, fun declares => ?_, ?_⟩
  · rcases Op.watch_probes probed with before | probes
    · exact quiet.unprobed other before
    · exact leaves.1 probes
  · show (op.watch task answer l.watch).reloading = []
    rw [Op.watch_reloading]
    split
    next load =>
      rw [leaves.2 load] at declares
      cases declares
    next => exact quiet.unloaded declares
  · show (op.exec task answer l.shared).2.units id = false
    by_contra active
    rcases Op.exec_units (by simpa using active) with active | starts
    · rw [quiet.inactive] at active
      cases active
    · exact quiet.starts accounted starts rfl

/-- No step starts what is quiet. -/
theorem Quiet.starts_by {unit : ServiceUnit} (quiet : l.Quiet owners id) (sound : l.Sound owners)
    (told : look.told owners) (starts : l.starts look = some unit) : unit.owner owners ≠ some id := by
  unfold Lookout.starts at starts
  split at starts
  next task answer =>
    split at starts
    next role β op next doing =>
      split at starts
      next able =>
        obtain ⟨-, able⟩ : l.machine.failed = false ∧ op.ready task l.shared = true := by simpa using able
        obtain ⟨-, accounted, -⟩ := sound.answers told doing able
        exact quiet.starts accounted starts
      next => cases starts
    next => cases starts
  next => cases starts

end Lookout

/-- What holds while the steps keep others out. -/
structure Lookout.Apart (owners : Owners) (l : Lookout) : Prop where
  sound : l.Sound owners
  quiet : ∀ stopped ∈ l.watch.stopped, ofClient stopped = true → l.Quiet owners stopped.2

namespace Lookout
variable {owners : Owners} {l : Lookout}

theorem Apart.perform {task : Nat} {answer : Answer} (apart : l.Apart owners) (told : Declared owners answer.manifests)
    (keeps : Task.keepsOut owners l task answer (l.machine.tasks task)) :
    (⟨l.machine.perform task answer, l.watchPerform task answer⟩ : Lookout).Apart owners := by
  by_cases goes : ∃ role, ∃ β, ∃ op : Op β, ∃ next, l.machine.tasks task = some (role, .perform op next) ∧ op.ready task l.shared = true
  · obtain ⟨role, β, op, next, there, able⟩ := goes
    obtain ⟨orderly, accounted, -⟩ := apart.sound.answers told there able
    have same : (⟨l.machine.perform task answer, l.watchPerform task answer⟩ : Lookout) = _ := perform_ready there able
    rw [there] at keeps
    obtain ⟨unasked, unloading, unopened⟩ := keeps
    refine ⟨apart.sound.perform told, fun stopped member client => ?_⟩
    rw [same] at member
    rcases Op.watch_stopped member with before | ⟨mine, stops, ok, unmarked⟩
    · refine (apart.quiet stopped before client).leaves ⟨fun probes => ?_, fun load => unloading load stopped before client⟩
        accounted there able
      have changing : l.changing stopped.2 = true := List.any_eq_true.mpr ⟨stopped, before, by simp [client]⟩
      rw [unasked _ probes] at changing
      cases changing
    · rw [same]
      have task' : task ≠ loopTask := by
        rw [← mine]
        simpa [ofClient] using client
      refine ⟨fun other probed => ?_, fun declares => ?_, Op.exec_stops stops ok⟩
      · rcases Op.watch_probes probed with probed | probes
        · obtain ⟨loop, held⟩ := apart.sound.inside other _ probed
          rw [orderly.stops stops] at held
          exact task' ((Option.some.inj held).trans loop)
        · cases op with
          | call made => cases probes
          | _ => cases stops
      · show (op.watch task answer l.watch).reloading = []
        rw [Op.watch_reloading, if_neg]
        · exact unopened _ stops ok task' unmarked declares
        · intro load
          cases op with
          | call made =>
            cases made <;> try cases stops
            cases ‹ServiceUnit› <;> cases load
          | _ => cases stops
  · rw [perform_idle]
    · exact apart
    · intro role β op next there
      by_contra able
      exact goes ⟨role, β, op, next, there, by simpa using able⟩

theorem forget_shrinks {task : Nat} {w : Watch} :
    (∀ other id, (w.forget task).probed other = some id → w.probed other = some id) ∧
      (w.reloading = [] → (w.forget task).reloading = []) := by
  refine ⟨fun other id probed => ?_, fun none => by simp [Watch.forget, none]⟩
  by_cases same : other = task
  · subst same
    simp [Watch.forget] at probed
  · simpa [Watch.forget, same] using probed

theorem watchFinish_shrinks {task : Nat} :
    (∀ other ∈ (l.watchFinish task).stopped, other ∈ l.watch.stopped) ∧
      (∀ other id, (l.watchFinish task).probed other = some id → l.watch.probed other = some id) ∧
      (l.watch.reloading = [] → (l.watchFinish task).reloading = []) := by
  unfold watchFinish
  split
  · exact ⟨fun other there => (List.mem_filter.mp there).1, forget_shrinks (w := l.watch.leave task)⟩
  · exact ⟨fun _ there => there, fun _ _ probed => probed, fun none => none⟩

theorem watchAbandon_shrinks {task : Nat} :
    (∀ other ∈ (l.watchAbandon task).stopped, other ∈ l.watch.stopped) ∧
      (∀ other id, (l.watchAbandon task).probed other = some id → l.watch.probed other = some id) ∧
      (l.watch.reloading = [] → (l.watchAbandon task).reloading = []) := by
  unfold watchAbandon
  repeat' split
  · exact ⟨fun _ there => there, forget_shrinks⟩
  · exact ⟨fun other there => (List.mem_filter.mp there).1, forget_shrinks (w := l.watch.leave task)⟩
  · exact ⟨fun other there => (List.mem_filter.mp there).1, forget_shrinks (w := l.watch.leave task)⟩
  · exact ⟨fun _ there => there, fun _ _ probed => probed, fun none => none⟩

end Lookout

/-- But for the tasks, the world only stops units. -/
theorem Machine.next_units {m : Machine} {step : Step} (other : ∀ task answer, step ≠ .perform task answer) {id : AppId}
    (active : (m.next step).shared.units id = true) : m.shared.units id = true := by
  unfold Machine.next at active
  split at active
  · exact active
  · cases step with
    | perform task answer => exact absurd rfl (other task answer)
    | create event cancellable =>
      simp only at active
      split at active <;> exact active
    | enqueue request =>
      simp only [SharedDaemon.enqueue] at active
      repeat' split at active
      all_goals exact active
    | giveUp request =>
      simp only at active
      split at active <;> exact active
    | fire index =>
      simp only [SharedDaemon.fire] at active
      repeat' split at active
      all_goals exact active
    | serve =>
      simp only [Machine.serve] at active
      split at active <;> exact active
    | spawn task role =>
      simp only [Machine.spawn] at active
      repeat' split at active
      all_goals exact active
    | finish task =>
      simp only [Machine.finish] at active
      split at active <;> exact active
    | abandon task =>
      simp only [Machine.abandon] at active
      split at active <;> exact active
    | unitExits gone =>
      by_cases same : id = gone
      · subst same
        simp at active
      · simpa [same] using active
    | displayExits => exact active
    | homeCommits sequence => exact active

namespace Lookout
variable {owners : Owners} {l : Lookout}

/-- But for the operations of tasks, an onlooker only forgets, and units only stop. -/
theorem next_shrinks (other : ∀ task answer, look ≠ .step (.perform task answer)) :
    (∀ stopped ∈ (l.next look).watch.stopped, stopped ∈ l.watch.stopped) ∧
      (∀ task id, (l.next look).watch.probed task = some id → l.watch.probed task = some id) ∧
      (l.watch.reloading = [] → (l.next look).watch.reloading = []) ∧
      ∀ id, (l.next look).shared.units id = true → l.shared.units id = true := by
  cases look with
  | returned task =>
    simp only [Lookout.next]
    split
    · exact ⟨fun stopped there => (List.mem_filter.mp there).1, fun _ _ probed => probed, fun none => none, fun _ active => active⟩
    · exact ⟨fun _ there => there, fun _ _ probed => probed, fun none => none, fun _ active => active⟩
  | step step =>
    have apart : ∀ task answer, step ≠ .perform task answer := fun task answer same => other task answer (by rw [same])
    simp only [Lookout.next]
    split
    · exact ⟨fun _ there => there, fun _ _ probed => probed, fun none => none, fun _ active => active⟩
    · cases step with
      | perform task answer => exact absurd rfl (apart task answer)
      | finish task =>
        exact ⟨watchFinish_shrinks.1, watchFinish_shrinks.2.1, watchFinish_shrinks.2.2, fun id => Machine.next_units apart⟩
      | abandon task =>
        simp only
        split
        · exact ⟨fun _ there => there, fun _ _ probed => probed, fun none => none, fun _ active => active⟩
        · exact ⟨watchAbandon_shrinks.1, watchAbandon_shrinks.2.1, watchAbandon_shrinks.2.2, fun id => Machine.next_units apart⟩
      | spawn task role =>
        simp only
        split
        · exact ⟨fun _ there => there, fun _ _ probed => probed, fun none => none, fun _ active => active⟩
        · exact ⟨fun _ there => there, fun _ _ probed => probed, fun none => none, fun id => Machine.next_units apart⟩
      | _ => exact ⟨fun _ there => there, fun _ _ probed => probed, fun none => none, fun id => Machine.next_units apart⟩

/-- What is quiet stays so, whatever happens beside the tasks. -/
theorem Quiet.next {id : AppId} (quiet : l.Quiet owners id) (other : ∀ task answer, look ≠ .step (.perform task answer)) :
    (l.next look).Quiet owners id := by
  obtain ⟨-, probed, reloading, units⟩ := l.next_shrinks other
  refine ⟨fun task asked => quiet.unprobed task (probed task id asked), fun declares => reloading (quiet.unloaded declares), ?_⟩
  by_contra active
  have before := units id (by simpa using active)
  rw [quiet.inactive] at before
  cases before

theorem keepsOut.told (keeps : l.keepsOut owners look) : look.told owners := by
  cases look with
  | returned task => trivial
  | step step =>
    cases step with
    | perform task answer => exact keeps.1
    | _ => trivial

theorem next_perform {task : Nat} {answer : Answer} (alive : l.machine.failed = false) :
    l.next (.step (.perform task answer)) = ⟨l.machine.perform task answer, l.watchPerform task answer⟩ := by
  simp [Lookout.next, Machine.next, alive]

/-- Nothing goes on once the event loop has failed. -/
theorem next_failed {step : Step} (failed : l.machine.failed = true) : l.next (.step step) = l := if_pos failed

/-- One step that keeps others out. -/
theorem Apart.next (apart : l.Apart owners) (keeps : l.keepsOut owners look) : (l.next look).Apart owners := by
  by_cases performs : ∃ task answer, look = .step (.perform task answer)
  · obtain ⟨task, answer, rfl⟩ := performs
    by_cases failed : l.machine.failed = true
    · rw [next_failed failed]
      exact apart
    · rw [next_perform (by simpa using failed)]
      exact apart.perform keeps.1 keeps.2
  · have other : ∀ task answer, look ≠ .step (.perform task answer) := fun task answer same => performs ⟨task, answer, same⟩
    exact ⟨apart.sound.next keeps.told, fun stopped there client =>
      (apart.quiet stopped ((l.next_shrinks other).1 stopped there) client).next other⟩

end Lookout

/-- Along a run that keeps others out, an application whose package changes is not active,
    and no step starts its unit or its background service. -/
theorem package_excludes (owners : Owners) (manifests : List AppManifest) (sessions : Table AppSession) (looks : List Look)
    (declared : Declared owners manifests)
    (along : Runs.Along Lookout.next (Lookout.keepsOut owners) (Lookout.boot manifests sessions) looks) :
    let l := looks.foldl Lookout.next (Lookout.boot manifests sessions)
    ∀ id, l.changing id = true → l.shared.units id = false ∧
      ∀ look, l.keepsOut owners look → ∀ unit, unit.owner owners = some id → l.starts look ≠ some unit := by
  intro l id changing
  have begun : (Lookout.boot manifests sessions).Apart owners := ⟨.boot declared, fun _ there => (nomatch there)⟩
  have apart : l.Apart owners := along.invariant (Lookout.Apart owners) (fun _ _ holds keeps => holds.next keeps) begun
  obtain ⟨stopped, there, entry⟩ := List.any_eq_true.mp changing
  obtain ⟨client, same⟩ : ofClient stopped = true ∧ stopped.2 = id := by simpa using entry
  subst same
  have quiet := apart.quiet stopped there client
  refine ⟨quiet.inactive, ?_⟩
  exact fun look keeps unit owner starts => quiet.starts_by apart.sound keeps.told starts owner

/-- A task goes on, and everything succeeds. -/
def Look.goOn (task steps : Nat) : List Look := List.replicate steps (.step (.perform task {}))

/-- The event loop takes the event up. -/
def Look.takeUp (request : Nat) (event : Event) : List Look :=
  [.step (.create event true), .step (.enqueue request), .step .serve]

def Look.toManager : List Look := takeUp 0 .openManager ++ goOn loopTask 25 ++ [.step (.finish loopTask)]

/-- A client's task has the application uninstalled, up to the operation on its package. -/
def Look.uninstalling (id : AppId) : List Look := .step (.spawn 1 (.package (.uninstall id))) :: goOn 1 20

def diaryId : AppId := ⟨"diary", by decide⟩

def diary : AppManifest :=
  { id := diaryId, runtimeDir := some "/run/diary", backgroundService := some (.systemd "diary-sync.service") }

theorem package_excludes_diary :
    let l := (Look.toManager ++ Look.uninstalling diary.id).foldl Lookout.next (Lookout.boot [diary] fun _ => none)
    l.changing diary.id = true ∧ l.shared.units diary.id = false :=
  ⟨by decide +kernel,
    (package_excludes [("diary-sync.service", diary.id)] [diary] (fun _ => none)
      (Look.toManager ++ Look.uninstalling diary.id) (by decide +kernel) (by decide +kernel) diary.id
      (by decide +kernel)).1⟩

/-- While the client's task is about to uninstall the application, a launch of it starts
    its unit, and the operation then finds it active. -/
theorem launch_during_uninstall :
    let closed := (Look.toManager ++ Look.uninstalling diary.id).foldl Lookout.next (Lookout.boot [diary] fun _ => none)
    let launching := (Look.takeUp 1 (.launch diary.id none) ++ Look.goOn loopTask 27).foldl Lookout.next closed
    launching.changing diary.id = true ∧ launching.starts (.step (.perform loopTask {})) = some (.app diary.id) ∧
      ((Look.goOn loopTask 1).foldl Lookout.next launching).changing diary.id = true ∧
      ((Look.goOn loopTask 1).foldl Lookout.next launching).shared.units diary.id = true := by
  decide +kernel

end Remagic.Daemon
