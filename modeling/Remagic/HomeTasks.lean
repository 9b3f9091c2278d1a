import Remagic.HomeFacts

/-!
# Sleeps that wait for a task

A cover that closes while Home has an operation in progress waits for the result of its
task. The progress of a system update that has begun stays, though its task is over.
-/

namespace Remagic.Home
open Daemon Fallible

/-- The tasks whose results Home has not handled. -/
structure Tasks where
  store : Nat := 0
  systemInstall : Nat := 0
  deriving DecidableEq

namespace Tasks

def pending (tasks : Tasks) : Nat := tasks.store + tasks.systemInstall

def has (tasks : Tasks) : TaskResult → Bool
  | .store _ => 0 < tasks.store
  | .systemInstall _ => 0 < tasks.systemInstall

def without (tasks : Tasks) : TaskResult → Tasks
  | .store _ => { tasks with store := tasks.store - 1 }
  | .systemInstall _ => { tasks with systemInstall := tasks.systemInstall - 1 }

/-- With the task that a button has started: its operation is in progress, and was not. -/
def started (tasks : Tasks) (before after : HomeState) : Tasks where
  store := tasks.store + if after.storeProgress && !before.storeProgress then 1 else 0
  systemInstall := tasks.systemInstall + if after.systemUpdateProgress && !before.systemUpdateProgress then 1 else 0

/-- The tasks after a move: they end with Home. -/
def after (tasks : Tasks) (move : Move) : Option HomeState → Option HomeState → Tasks
  | some before, some after => match move with
    | .event (.taskResult result) _ => tasks.without result
    | .event (.button _) _ => tasks.started before after
    | _ => tasks
  | _, _ => {}

end Tasks

/-- Home and its tasks. -/
structure Working where
  machine : Machine
  tasks : Tasks := {}

/-- A result comes of a task. -/
def Working.possible (s : Working) : Move → Bool
  | .event (.taskResult result) _ => s.tasks.has result
  | _ => true

def Working.next (s : Working) (move : Move) : Working :=
  if s.possible move then
    { machine := s.machine.next move, tasks := s.tasks.after move s.machine.running (s.machine.next move).running }
  else s

/-- A sleep that is deferred has the lock page shown, and a task to wait for. -/
def Working.Waits (s : Working) : Prop :=
  ∀ home, s.machine.running = some home → home.deferredCoverSleep = true → home.mode = .locked ∧ 0 < s.tasks.pending

/-- The progress of a finished update that stays when the task's result has been handled. -/
def TaskResult.stays (home : HomeState) : TaskResult → Bool
  | .store _ => home.systemUpdateProgress
  | .systemInstall ok => ok

/-- No cover closes, and no last result comes while a sleep is deferred, where the progress of
    a finished update would be waited for. -/
def Working.Clear (s : Working) (move : Move) : Prop :=
  ∀ home, s.machine.running = some home → match move with
    | .event (.coverSleep _) _ => s.tasks.pending = 0 → home.systemUpdateProgress = false
    | .event (.taskResult result) _ => home.deferredCoverSleep = true → s.tasks.pending = 1 → result.stays home = false
    | _ => True

/-! ## What an event does to a sleep that waits -/

theorem quiet_apart (progress : Bool) :
    Apart fun home => home.storeProgress = progress ∧ home.deferredCoverSleep = false :=
  ⟨fun _ _ meets => meets, fun _ _ meets => meets⟩

/-- A sleep that is deferred, if `before` says so, has the lock page shown. -/
def Defers (before : Prop) (home : HomeState) : Prop :=
  home.deferredCoverSleep = true → home.mode = .locked ∧ before

theorem Defers.of_quiet {before : Prop} {home : HomeState} (quiet : home.deferredCoverSleep = false) : Defers before home := by
  intro deferred
  rw [quiet] at deferred
  cases deferred

section
variable {home : HomeState}

/-- Where the sleep waits no longer. -/
theorem coverSleep_goes (progress : Bool) (before : Prop) :
    Sees (fun view => view.home.storeProgress = progress)
      (do editHome fun home => { home with deferredCoverSleep := false }; requestCoverSleep)
      fun _ view => view.home.storeProgress = progress ∧ Defers before view.home := by
  have cleared : Sees (fun view => view.home.storeProgress = progress)
      (editHome fun home => { home with deferredCoverSleep := false })
      fun _ view => view.home.storeProgress = progress ∧ view.home.deferredCoverSleep = false :=
    editHome_sees fun view same => ⟨same, rfl⟩
  refine sees_bind cleared fun _ => ?_
  exact (requestCoverSleep_keeps (quiet_apart progress)).weaken (fun _ meets => meets)
    fun _ _ meets => ⟨meets.1, .of_quiet meets.2⟩

theorem coverSleep_defers (target : ResumeTarget) :
    Sees (fun view => view.home = home) (coverSleep target) fun _ view =>
      view.home.storeProgress = home.storeProgress ∧ Defers (home.maintenanceActive = true) view.home := by
  refine sees_bind (editHome_known _) fun _ => sees_bind lockPage_known fun _ =>
    known_sees (sees_ite (fun active => ?_) fun _ => ?_)
  · exact editHome_sees fun view same => by
      rw [same]
      exact ⟨rfl, fun _ => ⟨rfl, active⟩⟩
  · exact (coverSleep_goes home.storeProgress _).weaken (fun view same => by rw [same]) fun _ _ meets => meets

theorem handleTaskResult_defers (result : TaskResult) (locked : home.deferredCoverSleep = true → home.mode = .locked) :
    Sees (fun view => view.home = home) (handleTaskResult result) fun _ view =>
      view.home.storeProgress = (result.take home).storeProgress ∧
        Defers (home.deferredCoverSleep = true ∧ (result.take home).maintenanceActive = true) view.home := by
  have deferral : (result.take home).deferredCoverSleep = home.deferredCoverSleep := by cases result <;> rfl
  have page : (result.take home).mode = home.mode := by cases result <;> rfl
  refine sees_bind (takeTaskResult_known result) fun _ => known_sees (sees_ite (fun _ => ?_) fun waits => ?_)
  · exact (coverSleep_goes _ _).weaken (fun view same => by rw [same]) fun _ _ meets => meets
  · refine sees_pure fun view same => ?_
    rw [same]
    refine ⟨rfl, fun deferred => ?_⟩
    have shown := locked (deferral ▸ deferred)
    refine ⟨page.trans shown, deferral ▸ deferred, ?_⟩
    simpa [deferred, page, shown] using waits

/-- A fact that is kept of a Home whose sleep does not wait. -/
theorem quiet_defers {handler : HomeM Unit} (keeps : ∀ progress, Keeps (fun home => home.storeProgress = progress ∧
    home.deferredCoverSleep = false) handler) (before : Prop) (quiet : home.deferredCoverSleep = false) :
    Sees (fun view => view.home = home) handler fun _ view =>
      view.home.storeProgress = home.storeProgress ∧ Defers before view.home :=
  (keeps home.storeProgress).weaken (fun view same => by rw [same]; exact ⟨rfl, quiet⟩)
    fun _ _ meets => ⟨meets.1, .of_quiet meets.2⟩

theorem same_defers (locked : home.deferredCoverSleep = true → home.mode = .locked) (view : View) (same : view.home = home) :
    view.home.storeProgress = home.storeProgress ∧ Defers (home.deferredCoverSleep = true) view.home := by
  rw [same]
  exact ⟨rfl, fun deferred => ⟨locked deferred, deferred⟩⟩

theorem resume_defers (app : Option AppId) (before : Prop) :
    Sees (fun view => view.home = home) (do retarget app; resumeUnlock (← takeResumeTarget)) fun _ view =>
      view.home.storeProgress = home.storeProgress ∧ Defers before view.home := by
  have quiet := quiet_apart home.storeProgress
  refine sees_bind (editHome_known _) fun _ =>
    sees_bind ((takeResumeTarget_keeps quiet).weaken ?_ fun _ _ meets => meets) fun target => ?_
  · intro view same
    rw [same]
    exact ⟨rfl, rfl⟩
  · exact (resumeUnlock_keeps quiet.mode target).weaken (fun _ meets => meets) fun _ _ meets => ⟨meets.1, .of_quiet meets.2⟩

/-- An event other than the cover's closing, a result and a button. -/
theorem other_defers {event : Event} (locked : home.deferredCoverSleep = true → home.mode = .locked)
    (closing : ∀ app, event ≠ .coverSleep app) (result : ∀ result, event ≠ .taskResult result)
    (button : ∀ action, event ≠ .button action) :
    Sees (fun view => view.home = home) (handleEvent event) fun _ view =>
      view.home.storeProgress = home.storeProgress ∧ Defers (home.deferredCoverSleep = true) view.home := by
  have quiet (shown : home.mode ≠ .locked) : home.deferredCoverSleep = false := by
    cases deferred : home.deferredCoverSleep with
    | false => rfl
    | true => exact absurd (locked deferred) shown
  cases event with
  | taskResult r => exact absurd rfl (result r)
  | coverSleep app => exact absurd rfl (closing app)
  | button action => exact absurd rfl (button action)
  | autoSleep =>
    refine known_sees (sees_ite (fun shown => ?_) fun _ => sees_pure (same_defers locked))
    exact quiet_defers (fun progress => sleep_keeps (quiet_apart progress).mode) _ (quiet shown)
  | resumeUnlock app =>
    refine known_sees (sees_ite (fun _ => resume_defers app _) fun shown => ?_)
    refine sees_ite (fun _ => ?_) fun _ => sees_pure (same_defers locked)
    exact quiet_defers (fun progress => launchResumeApp_spares (quiet_apart progress).mode.spared) _ (quiet shown)
  | wallpapersChanged =>
    refine known_sees (sees_ite (fun _ => ?_) fun _ => sees_pure (same_defers locked))
    exact (render_sees _).weaken (fun _ same => same) fun _ => same_defers locked

theorem handle_quiet (action : Action) : Keeps (fun home => home.deferredCoverSleep = false) (handle action) :=
  handle_keeps ⟨fun _ _ meets => meets, fun _ _ meets => meets, fun _ _ meets => meets⟩ action

theorem button_defers (action : Action) (locked : home.deferredCoverSleep = true → home.mode = .locked) :
    Sees (fun view => view.home = home) (handleEvent (.button action)) fun _ view =>
      Defers (home.deferredCoverSleep = true) view.home := by
  by_cases deferred : home.deferredCoverSleep = true
  · exact (handle_idle (locked deferred) action).weaken (fun _ same => same) fun _ view same => (same_defers locked view same).2
  · exact (handle_quiet action).weaken (fun _ same => by rw [same]; simpa using deferred) fun _ _ quiet => .of_quiet quiet

end

/-! ## Every run -/

namespace Tasks

theorem pending_without {tasks : Tasks} {result : TaskResult} (has : tasks.has result = true) :
    (tasks.without result).pending + 1 = tasks.pending := by
  cases result with
  | store ok =>
    have some : 0 < tasks.store := by simpa [Tasks.has] using has
    simp only [without, pending]
    omega
  | systemInstall ok =>
    have some : 0 < tasks.systemInstall := by simpa [Tasks.has] using has
    simp only [without, pending]
    omega

theorem pending_started (tasks : Tasks) (before after : HomeState) : tasks.pending ≤ (tasks.started before after).pending := by
  simp only [pending, started]
  omega

end Tasks

namespace Working
variable {s : Working}

structure Sound (s : Working) : Prop where
  waits : s.Waits
  stored : ∀ home, s.machine.running = some home → home.storeProgress = true → 0 < s.tasks.store

/-- Home as a move leaves it, with the tasks after the move. -/
theorem sound_after {machine : Machine} {tasks : Tasks} (holds : ∀ home, machine.running = some home →
    (Defers (0 < tasks.pending) home) ∧ (home.storeProgress = true → 0 < tasks.store)) : Sound { machine, tasks } :=
  ⟨fun home running => (holds home running).1, fun home running => (holds home running).2⟩

theorem result_sound (sound : s.Sound) {home : HomeState} (running : s.machine.running = some home) {result : TaskResult}
    (has : s.tasks.has result = true)
    (clear : home.deferredCoverSleep = true → s.tasks.pending = 1 → result.stays home = false) (after : HomeState)
    (defers : after.storeProgress = (result.take home).storeProgress ∧
      Defers (home.deferredCoverSleep = true ∧ (result.take home).maintenanceActive = true) after) :
    Defers (0 < (s.tasks.without result).pending) after ∧ (after.storeProgress = true → 0 < (s.tasks.without result).store) := by
  have stored := sound.stored home running
  have count := Tasks.pending_without has
  constructor
  · intro deferred
    obtain ⟨shown, before, active⟩ := defers.2 deferred
    refine ⟨shown, ?_⟩
    by_contra none
    have last : s.tasks.pending = 1 := by omega
    have finished := clear before last
    cases result with
    | store ok =>
      simp only [TaskResult.stays] at finished
      simp [TaskResult.take, HomeState.maintenanceActive, finished] at active
    | systemInstall ok =>
      simp only [TaskResult.stays] at finished
      have progress : home.storeProgress = true := by simpa [TaskResult.take, HomeState.maintenanceActive, finished] using active
      have other := stored progress
      have own : 0 < s.tasks.systemInstall := by simpa [Tasks.has] using has
      simp only [Tasks.pending] at last
      omega
  · intro progress
    rw [defers.1] at progress
    cases result with
    | store ok => cases progress
    | systemInstall ok => exact stored progress

theorem event_sound (sound : s.Sound) {home : HomeState} (running : s.machine.running = some home) (event : Event)
    (answers : List Answer) (possible : s.possible (.event event answers) = true) (clear : s.Clear (.event event answers)) :
    Sound {
      machine := s.machine.run home answers (handleEvent event)
      tasks := s.tasks.after (.event event answers) (some home) (s.machine.run home answers (handleEvent event)).running } := by
  have locked : home.deferredCoverSleep = true → home.mode = .locked := fun deferred => (sound.waits home running deferred).1
  have pending : home.deferredCoverSleep = true → 0 < s.tasks.pending := fun deferred => (sound.waits home running deferred).2
  have clear := clear home running
  have kept {after : HomeState}
      (defers : after.storeProgress = home.storeProgress ∧ Defers (home.deferredCoverSleep = true) after) :
      Defers (0 < s.tasks.pending) after ∧ (after.storeProgress = true → 0 < s.tasks.store) :=
    ⟨fun deferred => ⟨(defers.2 deferred).1, pending (defers.2 deferred).2⟩,
      fun progress => sound.stored home running (defers.1 ▸ progress)⟩
  refine sound_after fun after goes => ?_
  rw [goes]
  cases event with
  | taskResult result =>
    exact result_sound sound running possible clear after (run_sees (handleTaskResult_defers result locked) rfl after goes)
  | coverSleep app =>
    have defers : after.storeProgress = home.storeProgress ∧ Defers (home.maintenanceActive = true) after :=
      run_sees (known_sees (coverSleep_defers ((app.map .app).getD (resumeTargetForMode home.mode)))) rfl after goes
    refine ⟨fun deferred => ?_, fun progress => sound.stored home running (defers.1 ▸ progress)⟩
    obtain ⟨shown, active⟩ := defers.2 deferred
    refine ⟨shown, Nat.pos_of_ne_zero fun none : s.tasks.pending = 0 => ?_⟩
    have finished : home.systemUpdateProgress = false := clear none
    have progress : home.storeProgress = true := by simpa [HomeState.maintenanceActive, finished] using active
    have other := sound.stored home running progress
    simp only [Tasks.pending] at none
    omega
  | button action =>
    have defers := run_sees (button_defers action locked) rfl after goes
    refine ⟨fun deferred => ?_, fun progress => ?_⟩
    · exact ⟨(defers deferred).1, Nat.lt_of_lt_of_le (pending (defers deferred).2) (Tasks.pending_started ..)⟩
    · show 0 < s.tasks.store + _
      cases before : home.storeProgress with
      | true => exact Nat.add_pos_left (sound.stored home running before) _
      | false => exact Nat.add_pos_right _ (by simp [progress])
  | autoSleep => exact kept (run_sees (other_defers locked (fun _ => by simp) (fun _ => by simp) fun _ => by simp) rfl after goes)
  | resumeUnlock app =>
    exact kept (run_sees (other_defers locked (fun _ => by simp) (fun _ => by simp) fun _ => by simp) rfl after goes)
  | wallpapersChanged =>
    exact kept (run_sees (other_defers locked (fun _ => by simp) (fun _ => by simp) fun _ => by simp) rfl after goes)

theorem next_sound (sound : s.Sound) {move : Move} (clear : s.Clear move) : (s.next move).Sound := by
  unfold next
  split
  · next possible =>
    cases move with
    | start pending answers =>
      cases running : s.machine.running with
      | some home =>
        simp only [Machine.next, running, Option.isSome_some, if_true, Tasks.after]
        exact sound_after fun home same => ⟨sound.waits home same, sound.stored home same⟩
      | none =>
        simp only [Machine.next, running, Option.isSome_none, Bool.false_eq_true, if_false]
        refine sound_after fun home goes => ?_
        have quiet := run_sees (initialPage_keeps (quiet_apart false).mode pending) ⟨rfl, rfl⟩ home goes
        exact ⟨.of_quiet quiet.2, fun progress => by cases quiet.1.symm.trans progress⟩
    | event event answers =>
      cases running : s.machine.running with
      | none =>
        simp only [Machine.next, running]
        exact sound_after fun home goes => by cases running.symm.trans goes
      | some home =>
        simp only [Machine.next, running]
        exact event_sound sound running event answers possible clear
    | drift meanwhile =>
      have same : (s.machine.next (.drift meanwhile)).running = s.machine.running := by
        simp only [Machine.next]
        split <;> rfl
      refine sound_after fun home goes => ?_
      rw [same] at goes ⊢
      rw [goes]
      exact ⟨sound.waits home goes, sound.stored home goes⟩
    | kill => exact sound_after fun home running => by cases running
  · exact sound

end Working

/-- In a run that is clear of the progress of finished updates, a sleep that is deferred has a
    task to wait for. -/
theorem deferred_sleep_waits (domain : DomainState) (moves : List Move)
    (clear : Runs.Along Working.next Working.Clear { machine := { domain } } moves) :
    (moves.foldl Working.next { machine := { domain } }).Waits :=
  (Runs.Along.invariant Working.Sound (fun _ _ sound clear => Working.next_sound sound clear)
    (Working.sound_after fun home running => by cases running) clear).waits

/-- Calls that all succeed, beside a manager that is awake. -/
def granted : List Answer := List.replicate 8 { meanwhile := .manager, outcome := .done }

/-- The cover closes while an application is installed. -/
def installing : List Move :=
  [.start false granted, .event (.button .openStore) granted, .event (.button (.storeInstall "koreader")) granted,
    .event (.coverSleep none) granted]

theorem installing_waits : (installing.foldl Working.next { machine := { domain := .manager } }).Waits :=
  deferred_sleep_waits .manager installing
    ⟨fun _ _ => trivial, fun _ _ => trivial, fun _ _ => trivial, fun _ _ none => absurd none (by decide), trivial⟩

/-- The cover closes after a system update has begun. -/
def updating : List Move :=
  [.start false granted, .event (.button .openSettings) granted, .event (.button .openSystemUpdate) granted,
    .event (.button .systemUpdate) granted, .event (.taskResult (.systemInstall true)) granted,
    .event (.coverSleep none) granted]

def deferredHome : HomeState :=
  { mode := .locked, systemUpdateProgress := true, resumeTarget := some (.ui .systemUpdate), deferredCoverSleep := true }

theorem updating_defers :
    (updating.foldl Working.next { machine := { domain := .manager } }).machine.running = some deferredHome := by
  decide

/-- The task of the update is over when the cover closes: the sleep waits for nothing. -/
theorem begun_update_defers_forever :
    (updating.foldl Working.next { machine := { domain := .manager } }).tasks = {} ∧
      ¬ (updating.foldl Working.next { machine := { domain := .manager } }).Waits :=
  ⟨by decide, fun waits => absurd (waits deferredHome updating_defers rfl).2 (by decide)⟩

end Remagic.Home
