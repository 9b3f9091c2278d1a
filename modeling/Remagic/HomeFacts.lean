import Remagic.HomeLock

/-!
# Facts that Home's handlers keep

Whatever becomes of the lock, a handler keeps what is said of Home apart from its page, and
most of them what is said of the target to resume.
-/

namespace Remagic.Home
open Daemon Fallible

/-- A fact of Home in which its page has no part. -/
def Pageless (fact : HomeState → Prop) : Prop := ∀ home mode, fact home → fact { home with mode }

/-- Nor the target to resume. -/
structure Apart (fact : HomeState → Prop) : Prop where
  mode : Pageless fact
  target : ∀ home resumeTarget, fact home → fact { home with resumeTarget }

/-- Nor the operations in progress. -/
structure Wholly (fact : HomeState → Prop) : Prop where
  mode : Pageless fact
  store : ∀ home storeProgress, fact home → fact { home with storeProgress }
  systemUpdate : ∀ home systemUpdateProgress, fact home → fact { home with systemUpdateProgress }

/-- The handler leaves a fact of Home alone. -/
abbrev Keeps (fact : HomeState → Prop) {α : Type} (m : HomeM α) : Prop :=
  Sees (fun view => fact view.home) m fun _ view => fact view.home

section
variable {fact : HomeState → Prop}

theorem requestOther_keeps (fact : HomeState → Prop) : Keeps fact requestOther := by
  refine leaves_bind (get_sees fun view => fact view.home) fun seen => ?_
  have asked : ∀ effect, Keeps fact (request effect) := fun _ =>
    request_sees (fun _ meets => meets) (fun _ meets => meets) fun _ meets => meets
  refine Leaves.weaken (asked _) ?_ fun _ _ meets => meets
  rintro world ⟨rfl, meets⟩
  exact meets

theorem requestSleep_keeps (fact : HomeState → Prop) : Keeps fact requestSleep :=
  requestSleep_sees (fun _ meets => meets) (fun _ meets => meets) fun _ meets => meets

theorem requestWake_keeps (fact : HomeState → Prop) : Keeps fact requestWake :=
  requestWake_sees (fun _ meets => meets) (fun _ meets => meets) fun _ meets => meets

theorem domainState_keeps (fact : HomeState → Prop) : Keeps fact domainState :=
  domainState_sees (fun _ meets _ => meets) (fun _ _ meets _ _ => meets) fun _ meets => meets

variable (pageless : Pageless fact)
include pageless

theorem Pageless.spared : Spared fun view => fact view.home where
  page view mode _ meets := pageless view.home mode meets
  request := requestOther_keeps fact

theorem setMode_keeps (mode : UiMode) : Keeps fact (setMode mode) :=
  setMode_sees fun view meets => pageless view.home mode meets

theorem showPage_keeps (mode : UiMode) : Keeps fact (showPage mode) :=
  showPage_sees fun view meets => pageless view.home mode meets

theorem reconcileMode_keeps : Keeps fact reconcileMode := by
  refine spares_bind (domainState_keeps fact) fun domain => spares_bind spares_getHome fun home => ?_
  cases domain with
  | none => exact spares_pure _
  | some domain =>
    cases domain with
    | sleeping => exact spares_ite (spares_bind spares_render fun _ => setMode_keeps pageless _) (spares_pure _)
    | manager =>
      exact spares_ite (spares_bind spares_consult fun _ => spares_bind spares_render fun _ => setMode_keeps pageless _)
        (spares_pure _)
    | _ => exact spares_pure _

theorem unlock_keeps : Keeps fact unlock := by
  refine spares_bind spares_consult fun _ => spares_bind spares_render fun _ => spares_bind (requestWake_keeps fact) fun _ => ?_
  refine spares_ite (setMode_keeps pageless _) (spares_bind (domainState_keeps fact) fun _ => ?_)
  exact spares_ite (setMode_keeps pageless _) (spares_bind spares_render fun _ => setMode_keeps pageless _)

theorem failed_sleep_keeps : Keeps fact (do if !retainLockAfterFailedSleep (← domainState) then reconcileMode) :=
  spares_bind (domainState_keeps fact) fun _ => spares_ite (reconcileMode_keeps pageless) (spares_pure _)

theorem sleep_keeps : Keeps fact sleep := by
  refine spares_bind spares_render fun _ => spares_bind (setMode_keeps pageless _) fun _ => ?_
  exact spares_bind (requestSleep_keeps fact) fun _ => spares_ite (unlock_keeps pageless) (failed_sleep_keeps pageless)

theorem renderResumeTarget_keeps (target : ResumeTarget) : Keeps fact (renderResumeTarget target) := by
  have shown : ∀ mode (result : Option AppId), Keeps fact (do showPage mode; return result) := fun mode result =>
    spares_bind (showPage_keeps pageless mode) fun _ => spares_pure _
  cases target with
  | app id => exact spares_bind spares_consult fun _ => shown _ _
  | ui mode =>
    cases mode with
    | welcome => exact spares_bind spares_render fun _ => shown _ _
    | manager => exact spares_bind spares_consult fun _ => shown _ _
    | locked => exact spares_bind spares_consult fun _ => shown _ _
    | settings => exact shown _ _
    | lockPreview => exact shown _ _
    | backlight => exact spares_bind spares_consult fun _ => shown _ _
    | wallpaperBrowser => exact shown _ _
    | store => exact spares_bind spares_consult fun _ => spares_bind spares_consult fun _ => shown _ _
    | systemUpdate => exact shown _ _

theorem resumeUnlock_keeps (target : Option ResumeTarget) : Keeps fact (resumeUnlock target) := by
  refine spares_bind (renderResumeTarget_keeps pageless _) fun launchAfter => spares_bind (requestWake_keeps fact) fun _ => ?_
  refine spares_ite (spares_ite (launchResumeApp_spares pageless.spared) (spares_pure _)) ?_
  exact spares_bind (domainState_keeps fact) fun _ => spares_ite (showPage_keeps pageless _) (spares_pure _)

omit pageless

/-- Whatever button is released. -/
theorem handle_keeps (wholly : Wholly fact) (action : Action) : Keeps fact (handle action) := by
  have spared : SparedWholly fun view => fact view.home :=
    ⟨wholly.mode.spared, fun view progress meets => wholly.store view.home progress meets,
      fun view progress meets => wholly.systemUpdate view.home progress meets⟩
  have manager (mode : UiMode) : Keeps fact (handleManager mode action) := by
    unfold handleManager
    split
    next => exact sleep_keeps wholly.mode
    next => exact executeManagerAction_spares spared.toSpared _
    next => exact spares_pure _
  have page (handler : UiMode → HomeM Bool) (own : ∀ mode, Spares (fun view => fact view.home) (handler mode))
      {rest : HomeM Unit} (next : Keeps fact rest) : Keeps fact (do if ← handler (← getHome).mode then return else rest) :=
    sees_bind spares_getHome fun home => sees_bind (own home.mode) fun _ => sees_ite (fun _ => spares_pure _) fun _ => next
  refine sees_bind spares_render fun _ => page _ (handleWelcome_spares spared.toSpared · action) ?_
  refine page _ (handleStore_spares spared · action) (page _ (handleSystemUpdate_spares spared · action) ?_)
  exact page _ (handleSettings_spares spared.toSpared · action) (sees_bind spares_getHome fun home => manager home.mode)

variable (apart : Apart fact)
include apart

theorem takeResumeTarget_keeps : Keeps fact takeResumeTarget :=
  spares_bind spares_getHome fun _ => spares_bind (editHome_sees fun view meets => apart.target view.home none meets) fun _ =>
    spares_pure _

theorem requestCoverSleep_keeps : Keeps fact requestCoverSleep := by
  refine spares_bind (requestSleep_keeps fact) fun _ => spares_ite ?_ (failed_sleep_keeps apart.mode)
  exact spares_bind (takeResumeTarget_keeps apart) fun _ => resumeUnlock_keeps apart.mode _

end

theorem initialPage_keeps {fact : HomeState → Prop} (pageless : Pageless fact) (pending : Bool) :
    Keeps fact (initialPage pending) := by
  refine sees_bind (domainState_keeps fact) fun domain => ?_
  cases domain with
  | none => exact sees_throw
  | some domain =>
    refine sees_bind spares_consult fun _ => sees_bind (showPage_keeps pageless _) fun _ =>
      sees_ite (fun _ => ?_) fun _ => spares_pure _
    exact sees_bind (requestOther_keeps fact) fun _ => sees_ite (fun _ => sees_throw) fun _ => spares_pure _

/-! ## States that are known -/

section
variable {home : HomeState}

/-- An edit of a state that is known. -/
theorem editHome_known (edit : HomeState → HomeState) :
    Sees (fun view => view.home = home) (editHome edit) fun _ view => view.home = edit home :=
  editHome_sees fun _ same => congrArg edit same

theorem lockPage_known : Sees (fun view => view.home = home) lockPage fun _ view => view.home = { home with mode := .locked } := by
  refine known_sees (sees_ite (fun _ => ?_) fun locked => ?_)
  · exact showPage_sees fun view same => by rw [same]
  · exact sees_pure fun view same => by rw [same, ← not_not.mp locked]

/-- Home as `handle_task_result` takes the result. -/
def TaskResult.take (home : HomeState) : TaskResult → HomeState
  | .store _ => { home with storeProgress := false }
  | .systemInstall ok => { home with systemUpdateProgress := ok }

theorem takeTaskResult_known (result : TaskResult) :
    Sees (fun view => view.home = home) (takeTaskResult result) fun _ view => view.home = result.take home := by
  cases result with
  | store ok =>
    refine sees_bind (editHome_known _) fun _ => known_sees (sees_ite (fun _ => ?_) fun _ => consult_sees _)
    exact sees_bind (consult_sees _) fun _ => sees_bind (consult_sees _) fun _ => render_sees _
  | systemInstall ok =>
    refine sees_bind (editHome_known _) fun _ => known_sees ?_
    exact sees_ite (fun _ => render_sees _) fun _ => sees_pure fun _ same => same

end

end Remagic.Home
