import Remagic.Home
import Remagic.Runs

/-!
# The lock that Home shows

A sleeping daemon has a locked Home, and a locked Home has a sleeping daemon, unless a
cover sleep is still to come or Home has looked at the daemon's domain in vain.
-/

namespace Remagic.Home
open Daemon Fallible

/-! ## What Home knows -/

/-- What a world has that the daemon's own steps leave alone. -/
structure View where
  home : HomeState
  asleep : Bool
  blind : Bool

def World.view (world : World) : View := ⟨world.home, world.domain = .sleeping, world.blind⟩

/-- Home and the daemon agree on the lock, or Home's last look at the domain failed or
    showed another one than the manager's and sleep. -/
structure View.Agrees (view : View) : Prop where
  locks : view.asleep = true → view.home.mode = .locked
  unlocks : view.home.mode = .locked → view.asleep = true ∨ view.home.deferredCoverSleep = true ∨ view.blind = true

structure View.Unlocked (view : View) : Prop where
  mode : view.home.mode ≠ .locked
  awake : view.asleep = false

theorem View.Unlocked.agrees {view : View} (unlocked : view.Unlocked) : view.Agrees where
  locks asleep := by simp [unlocked.awake] at asleep
  unlocks locked := (unlocked.mode locked).elim

theorem View.Agrees.cases {view : View} (agrees : view.Agrees) : view.Unlocked ∨ view.home.mode = .locked ∧ view.Agrees := by
  by_cases locked : view.home.mode = .locked
  · exact .inr ⟨locked, agrees⟩
  · refine .inl ⟨locked, ?_⟩
    by_contra asleep
    exact locked (agrees.locks (by simpa using asleep))

/-- From a view that meets `pre`, the handler fails, or leaves one that meets `post`. -/
def Sees {α : Type} (pre : View → Prop) (m : HomeM α) (post : α → View → Prop) : Prop :=
  Leaves (fun world => pre world.view) m fun a world => post a world.view

section
variable {α β : Type} {pre stronger : View → Prop} {post : α → View → Prop} {m : HomeM α}

theorem sees_pure {result : α} (holds : ∀ view, pre view → post result view) : Sees pre (pure result : HomeM α) post :=
  leaves_pure fun world meets => holds world.view meets

theorem sees_throw : Sees pre (throw () : HomeM α) post := leaves_throw

theorem sees_bind {next : α → HomeM β} {middle : α → View → Prop} {post : β → View → Prop} (first : Sees pre m middle)
    (second : ∀ a, Sees (middle a) (next a) post) : Sees pre (m >>= next) post := leaves_bind first second

theorem Sees.weaken {weaker : α → View → Prop} (holds : Sees pre m post) (before : ∀ view, stronger view → pre view)
    (after : ∀ a view, post a view → weaker a view) : Sees stronger m weaker :=
  Leaves.weaken holds (fun world meets => before world.view meets) fun a world meets => after a world.view meets

theorem sees_ite {condition : Prop} [Decidable condition] {other : HomeM α} (taken : condition → Sees pre m post)
    (passed : ¬condition → Sees pre other post) : Sees pre (if condition then m else other) post :=
  leaves_ite taken passed

theorem sees_or {other : View → Prop} (one : Sees pre m post) (two : Sees other m post) :
    Sees (fun view => pre view ∨ other view) m post := by
  intro world meets
  rcases meets with meets | meets
  · exact one world meets
  · exact two world meets

theorem sees_true (pre : View → Prop) (m : HomeM α) : Sees pre m fun _ _ => True := fun _ _ _ _ => trivial

/-- A fact that does not depend on the view. -/
theorem sees_fact {fact : Prop} (holds : fact → Sees pre m post) : Sees (fun view => fact ∧ pre view) m post :=
  fun world meets => holds meets.1 world meets.2

end

/-! ### The calls -/

theorem drift_view (world : World) (meanwhile : DomainState) : (world.drift meanwhile).view = world.view := by
  unfold World.drift
  by_cases stays : world.domain = .sleeping ∨ meanwhile = .sleeping
  · rw [if_pos stays]
  · obtain ⟨awake, other⟩ := not_or.mp stays
    rw [if_neg stays]
    simp [World.view, awake, other]

theorem call_sees (pre : View → Prop) : Sees pre call fun _ => pre := by
  rintro ⟨home, domain, answers, blind⟩ meets outcome -
  cases answers with
  | nil => exact meets
  | cons answer answers =>
    show pre (World.drift ⟨home, domain, answers, blind⟩ answer.meanwhile).view
    rw [drift_view]
    exact meets

theorem consult_sees (pre : View → Prop) : Sees pre consult fun _ => pre :=
  sees_bind (call_sees pre) fun _ => sees_pure fun _ meets => meets

theorem render_sees (pre : View → Prop) : Sees pre render fun _ => pre :=
  sees_bind (call_sees pre) fun _ => sees_ite (fun _ => sees_throw) fun _ => sees_pure fun _ meets => meets

theorem getHome_sees {pre : View → Prop} {post : HomeState → View → Prop} (holds : ∀ view, pre view → post view.home view) :
    Sees pre getHome post :=
  fun world meets home same => by
    cases same
    exact holds world.view meets

theorem editHome_sees {pre : View → Prop} {post : Unit → View → Prop} {edit : HomeState → HomeState}
    (holds : ∀ view, pre view → post () { view with home := edit view.home }) : Sees pre (editHome edit) post :=
  leaves_modify fun world meets => holds world.view meets

variable {mode : UiMode} {home : HomeState}

theorem setMode_sees {pre : View → Prop} {post : Unit → View → Prop}
    (holds : ∀ view, pre view → post () { view with home := { view.home with mode } }) : Sees pre (setMode mode) post :=
  leaves_modify fun world meets => holds world.view meets

theorem showPage_sees {pre : View → Prop} {post : Unit → View → Prop}
    (holds : ∀ view, pre view → post () { view with home := { view.home with mode } }) : Sees pre (showPage mode) post :=
  sees_bind (render_sees pre) fun _ => setMode_sees holds

/-- A request: it has its effect, unless it is refused. -/
theorem request_sees {pre : View → Prop} {post : Bool → View → Prop} {effect : DomainState → DomainState}
    (done : ∀ world : World, pre world.view → post true { world with domain := effect world.domain }.view)
    (refused : ∀ view, pre view → post false view)
    (replyLost : ∀ world : World, pre world.view → post false { world with domain := effect world.domain }.view) :
    Sees pre (request effect) post := by
  refine sees_bind (call_sees pre) fun outcome => ?_
  cases outcome with
  | done => exact sees_bind (leaves_modify done) fun _ => sees_pure fun _ meets => meets
  | refused => exact sees_pure refused
  | replyLost => exact sees_bind (leaves_modify replyLost) fun _ => sees_pure fun _ meets => meets

theorem telling_sees {pre : View → Prop} {M post : Bool → View → Prop} {request : HomeM Bool}
    (asked : Sees pre request M) (done : ∀ view, M true view → post true { view with blind := false })
    (failed : ∀ view, M false view → post false view) : Sees pre (telling request) post := by
  refine sees_bind asked fun ended => ?_
  cases ended with
  | true => exact sees_bind (leaves_modify fun world meets => done world.view meets) fun _ => sees_pure fun _ meets => meets
  | false => exact sees_pure failed

theorem requestSleep_sees {pre : View → Prop} {post : Bool → View → Prop}
    (done : ∀ view, pre view → post true { view with asleep := true, blind := false })
    (refused : ∀ view, pre view → post false view)
    (replyLost : ∀ view, pre view → post false { view with asleep := true }) : Sees pre requestSleep post :=
  telling_sees (M := fun ended view => if ended then post true { view with blind := false } else post false view)
    (request_sees (fun world meets => done world.view meets) refused fun world meets => replyLost world.view meets)
    (fun _ meets => meets) fun _ meets => meets

theorem requestWake_sees {pre : View → Prop} {post : Bool → View → Prop}
    (done : ∀ view, pre view → post true { view with asleep := false, blind := false })
    (refused : ∀ view, pre view → post false view)
    (replyLost : ∀ view, pre view → post false { view with asleep := false }) : Sees pre requestWake post :=
  telling_sees (M := fun ended view => if ended then post true { view with blind := false } else post false view)
    (request_sees (fun world meets => done world.view meets) refused fun world meets => replyLost world.view meets)
    (fun _ meets => meets) fun _ meets => meets

theorem get_sees (pre : View → Prop) :
    Leaves (fun world => pre world.view) (get : HomeM World) fun seen world => world = seen ∧ pre seen.view :=
  leaves_get fun _ meets => ⟨rfl, meets⟩

theorem otherEffect_awake {reached : Option DomainState} {domain : DomainState} (awake : domain ≠ .sleeping) :
    otherEffect reached domain ≠ .sleeping := by
  cases reached with
  | none => exact awake
  | some reached => cases reached <;> simp [otherEffect, awake]

/-- No other request puts the daemon to sleep. -/
theorem requestOther_sees {pre : View → Prop} (awake : ∀ view, pre view → view.asleep = false) :
    Sees pre requestOther fun _ => pre := by
  have kept : ∀ (reached : Option DomainState) (world : World), pre world.view →
      pre { world with domain := otherEffect reached world.domain }.view := by
    intro reached world meets
    have before : world.domain ≠ .sleeping := by simpa [World.view] using awake world.view meets
    have same : { world with domain := otherEffect reached world.domain }.view = world.view := by
      simp [World.view, before, otherEffect_awake before]
    rw [same]
    exact meets
  refine leaves_bind (get_sees pre) fun seen => ?_
  refine Leaves.weaken (request_sees (kept _) (fun _ meets => meets) (kept _)) (fun world same => ?_) fun _ _ meets => meets
  rw [same.1]
  exact same.2

/-- The domain that Home sees is the daemon's. -/
theorem domainState_sees {pre : View → Prop} {post : Option DomainState → View → Prop}
    (asleep : ∀ view, pre view → view.asleep = true → post (some .sleeping) { view with blind := false })
    (awake : ∀ view domain, pre view → view.asleep = false → domain ≠ .sleeping →
      post (some domain) { view with blind := !decide (domain = .manager) })
    (failed : ∀ view, pre view → post none { view with blind := true }) : Sees pre domainState post := by
  refine sees_bind (call_sees pre) fun outcome => leaves_bind (get_sees pre) fun seen => ?_
  by_cases answered : outcome = .done
  · simp only [answered, if_true]
    refine leaves_bind (leaves_modify ?_) fun _ => leaves_pure fun _ meets => meets
    rintro world ⟨rfl, meets⟩
    by_cases sleeps : world.domain = .sleeping
    · have holds := asleep world.view meets (by simp [World.view, sleeps])
      simpa [World.view, sleeps] using holds
    · have holds := awake world.view world.domain meets (by simp [World.view, sleeps]) sleeps
      simpa [World.view, sleeps] using holds
  · simp only [answered, if_false]
    refine leaves_bind (leaves_modify ?_) fun _ => leaves_pure fun _ meets => meets
    rintro world ⟨rfl, meets⟩
    exact failed world.view meets

/-- What a look at the domain tells. -/
structure View.Looked (domain : Option DomainState) (view : View) : Prop where
  asleep : domain = some .sleeping → view.asleep = true
  awake : ∀ other, domain = some other → other ≠ .sleeping → view.asleep = false
  blind : domain ≠ some .sleeping → domain ≠ some .manager → view.blind = true

theorem domainState_looks (holds : HomeState → Prop) :
    Sees (fun view => holds view.home) domainState fun domain view => holds view.home ∧ view.Looked domain := by
  refine domainState_sees ?_ ?_ ?_
  · intro view meets asleep
    refine ⟨meets, fun _ => asleep, fun other same awake => ?_, fun absurd => (absurd rfl).elim⟩
    exact (awake (Option.some.inj same).symm).elim
  · intro view domain meets awake other
    refine ⟨meets, fun absurd => ?_, fun _ _ _ => awake, fun _ manager => ?_⟩
    · exact (other (Option.some.inj absurd)).elim
    · simpa using fun same : domain = .manager => manager (congrArg some same)
  · intro view meets
    exact ⟨meets, fun absurd => by simp at absurd, fun _ absurd => by simp at absurd, fun _ _ => rfl⟩

theorem requestWake_home (holds : HomeState → Prop) :
    Sees (fun view => holds view.home) requestWake fun woke view => holds view.home ∧ (woke = true → view.asleep = false) :=
  requestWake_sees (fun _ meets => ⟨meets, fun _ => rfl⟩) (fun _ meets => ⟨meets, fun absurd => by cases absurd⟩)
    fun _ meets => ⟨meets, fun absurd => by cases absurd⟩

theorem requestSleep_home (holds : HomeState → Prop) :
    Sees (fun view => holds view.home) requestSleep fun _ view => holds view.home :=
  requestSleep_sees (fun _ meets => meets) (fun _ meets => meets) fun _ meets => meets

/-- Home's own state, as a handler reads it. -/
theorem home_sees (pre : View → Prop) : Sees pre getHome fun home view => home = view.home ∧ pre view :=
  getHome_sees fun _ meets => ⟨rfl, meets⟩

/-! ### Locking and unlocking -/

theorem locked_agrees (domain : Option DomainState) {view : View} (locked : view.home.mode = .locked) (looked : view.Looked domain)
    (other : domain ≠ some .manager) : view.Agrees where
  locks _ := locked
  unlocks _ := by
    by_cases asleep : domain = some .sleeping
    · exact .inl (looked.asleep asleep)
    · exact .inr (.inr (looked.blind asleep other))

theorem manager_agrees {view : View} (shown : mode ≠ .locked) (looked : view.Looked (some .manager)) :
    View.Agrees { view with home := { view.home with mode } } :=
  View.Unlocked.agrees ⟨shown, looked.awake _ rfl (by simp)⟩

theorem reconcileMode_sees : Sees (fun view => view.home.mode = .locked) reconcileMode fun _ => View.Agrees := by
  refine sees_bind (domainState_looks fun home => home.mode = .locked) fun domain => sees_bind (home_sees _) fun home => ?_
  cases domain with
  | none => exact sees_pure fun view meets => locked_agrees _ meets.2.1 meets.2.2 (by simp)
  | some domain =>
    cases domain with
    | sleeping =>
      refine sees_ite (fun other => ?_) fun _ => sees_pure fun view meets => locked_agrees _ meets.2.1 meets.2.2 (by simp)
      exact sees_bind (render_sees _) fun _ => setMode_sees fun view meets => (other (meets.1 ▸ meets.2.1)).elim
    | manager =>
      refine sees_ite (fun _ => ?_) fun same => sees_pure fun view meets => ?_
      · exact sees_bind (consult_sees _) fun _ => sees_bind (render_sees _) fun _ =>
          setMode_sees fun view meets => manager_agrees (by simp) meets.2.2
      · simp [meets.1, meets.2.1] at same
    | _ => exact sees_pure fun view meets => locked_agrees _ meets.2.1 meets.2.2 (by simp)

theorem unlock_sees : Sees (fun _ => True) unlock fun _ => View.Agrees := by
  refine sees_bind (consult_sees _) fun _ => sees_bind (render_sees _) fun _ => ?_
  refine sees_bind (requestWake_home fun _ => True) fun woke => sees_ite (fun done => ?_) fun _ => ?_
  · exact setMode_sees fun view meets => View.Unlocked.agrees ⟨by simp, meets.2 done⟩
  · refine Sees.weaken ?_ (fun _ _ => (trivial : True)) fun _ _ meets => meets
    refine sees_bind (domainState_looks fun _ => True) fun domain => sees_ite (fun committed => ?_) fun lost => ?_
    · have manager : domain = some .manager := by simpa [unlockCommittedAfterLostAck] using committed
      exact setMode_sees fun view meets => manager_agrees (by simp) (manager ▸ meets.2)
    · have other : domain ≠ some .manager := by simpa [unlockCommittedAfterLostAck] using lost
      refine showPage_sees fun view meets => ?_
      exact locked_agrees domain rfl { meets.2 with } other

/-- What follows a sleep that has failed. -/
theorem failed_sleep_sees : Sees (fun view => view.home.mode = .locked)
    (do if !retainLockAfterFailedSleep (← domainState) then reconcileMode) fun _ => View.Agrees := by
  refine sees_bind (domainState_looks fun home => home.mode = .locked) fun domain => sees_ite (fun _ => ?_) fun retained => ?_
  · exact reconcileMode_sees.weaken (fun view meets => meets.1) fun _ _ meets => meets
  · have asleep : domain = some .sleeping := by simpa [retainLockAfterFailedSleep] using retained
    exact sees_pure fun view meets => locked_agrees _ meets.1 meets.2 (by simp [asleep])

theorem locks_sees : Sees (fun _ => True) (setMode .locked) fun _ view => view.home.mode = .locked :=
  setMode_sees fun _ _ => rfl

theorem sleep_sees : Sees (fun _ => True) sleep fun _ => View.Agrees := by
  refine sees_bind (render_sees _) fun _ => sees_bind locks_sees fun _ => ?_
  refine sees_bind (requestSleep_home fun home => home.mode = .locked) fun slept => sees_ite (fun _ => ?_) fun _ => ?_
  · exact unlock_sees.weaken (fun _ _ => trivial) fun _ _ meets => meets
  · exact failed_sleep_sees

/-! ### Resuming -/

theorem unlocks_sees {pre : View → Prop} (other : mode ≠ .locked) :
    Sees pre (showPage mode) fun _ view => view.home.mode ≠ .locked :=
  showPage_sees fun _ _ => other

/-- The application that is launched after the page is shown. -/
def ResumeTarget.appId : ResumeTarget → Option AppId
  | .app id => some id
  | .ui _ => none

/-- A page that is shown before its handler goes on. -/
theorem shown_sees {pre : View → Prop} (other : mode ≠ .locked) (result : Option AppId) :
    Sees pre (do showPage mode; return result) fun app view => app = result ∧ view.home.mode ≠ .locked :=
  sees_bind (unlocks_sees other) fun _ => sees_pure fun _ meets => ⟨rfl, meets⟩

theorem renderResumeTarget_sees (target : ResumeTarget) :
    Sees (fun _ => True) (renderResumeTarget target) fun app view => app = target.appId ∧ view.home.mode ≠ .locked := by
  cases target with
  | app id => exact sees_bind (consult_sees _) fun _ => shown_sees (by simp) _
  | ui mode =>
    cases mode with
    | welcome => exact sees_bind (render_sees _) fun _ => shown_sees (by simp) _
    | manager => exact sees_bind (consult_sees _) fun _ => shown_sees (by simp) _
    | locked => exact sees_bind (consult_sees _) fun _ => shown_sees (by simp) _
    | settings => exact shown_sees (by simp) _
    | lockPreview => exact shown_sees (by simp) _
    | backlight => exact sees_bind (consult_sees _) fun _ => shown_sees (by simp) _
    | wallpaperBrowser => exact shown_sees (by simp) _
    | store => exact sees_bind (consult_sees _) fun _ => sees_bind (consult_sees _) fun _ => shown_sees (by simp) _
    | systemUpdate => exact shown_sees (by simp) _

/-! ### Handlers that leave a view alone -/

/-- What the pages and the other requests have no part in. -/
structure Spared (kept : View → Prop) : Prop where
  page : ∀ view mode, mode ≠ .locked → kept view → kept { view with home := { view.home with mode } }
  request : Sees kept requestOther fun _ => kept

/-- Nor the operations in progress. -/
structure SparedWholly (kept : View → Prop) : Prop extends Spared kept where
  store : ∀ view storeProgress, kept view → kept { view with home := { view.home with storeProgress } }
  systemUpdate : ∀ view systemUpdateProgress, kept view → kept { view with home := { view.home with systemUpdateProgress } }

def Spares (kept : View → Prop) {α : Type} (m : HomeM α) : Prop := Sees kept m fun _ => kept

section
variable {α β : Type} {kept : View → Prop}

theorem spares_pure (result : α) : Spares kept (pure result) := sees_pure fun _ meets => meets

theorem spares_bind {m : HomeM α} {next : α → HomeM β} (first : Spares kept m) (second : ∀ a, Spares kept (next a)) :
    Spares kept (m >>= next) := sees_bind first second

theorem spares_ite {condition : Prop} [Decidable condition] {m other : HomeM α} (taken : Spares kept m)
    (passed : Spares kept other) : Spares kept (if condition then m else other) :=
  sees_ite (fun _ => taken) fun _ => passed

theorem spares_consult : Spares kept consult := consult_sees _

theorem spares_render : Spares kept render := render_sees _

theorem spares_getHome : Spares kept getHome := getHome_sees fun _ meets => meets

theorem spares_setMode (spared : Spared kept) (other : mode ≠ .locked) : Spares kept (setMode mode) :=
  setMode_sees fun view meets => spared.page view mode other meets

theorem spares_showPage (spared : Spared kept) (other : mode ≠ .locked) : Spares kept (showPage mode) :=
  showPage_sees fun view meets => spared.page view mode other meets

theorem spares_page (spared : Spared kept) (other : mode ≠ .locked) (result : α) :
    Spares kept (do showPage mode; return result) :=
  spares_bind (spares_showPage spared other) fun _ => spares_pure _

theorem spares_redraw (result : α) : Spares kept (do redraw; return result) :=
  spares_bind spares_render fun _ => spares_pure _

theorem launchResumeApp_spares (spared : Spared kept) : Spares kept launchResumeApp :=
  spares_bind spared.request fun _ => spares_ite
    (spares_bind spares_consult fun _ => spares_showPage spared (by simp)) (spares_pure _)

theorem welcomeReturn_spares (spared : Spared kept) : Spares kept welcomeReturn :=
  spares_bind spares_render fun _ => spares_bind spared.request fun _ =>
    spares_ite (spares_showPage spared (by simp)) (spares_pure _)

theorem handleWelcome_spares (spared : Spared kept) (mode : UiMode) (action : Action) : Spares kept (handleWelcome mode action) := by
  unfold handleWelcome
  split
  next =>
    exact spares_bind spares_render fun _ => spares_bind spares_consult fun _ => spares_bind spares_consult fun _ =>
      spares_page spared (by simp) _
  next => exact spares_bind (welcomeReturn_spares spared) fun _ => spares_pure _
  next => exact spares_pure _

theorem startStoreTask_spares (spared : SparedWholly kept) : Spares kept startStoreTask :=
  spares_bind spares_getHome fun _ => spares_ite
    (spares_bind (editHome_sees fun view meets => spared.store view true meets) fun _ => spares_render) (spares_pure _)

theorem handleStore_spares (spared : SparedWholly kept) (mode : UiMode) (action : Action) :
    Spares kept (handleStore mode action) := by
  unfold handleStore
  split
  next =>
    exact spares_bind spares_consult fun _ => spares_bind spares_consult fun _ => spares_page spared.toSpared (by simp) _
  next => exact spares_bind spares_consult fun _ => spares_page spared.toSpared (by simp) _
  next => exact spares_bind (startStoreTask_spares spared) fun _ => spares_pure _
  next => exact spares_bind (startStoreTask_spares spared) fun _ => spares_pure _
  next => exact spares_bind (startStoreTask_spares spared) fun _ => spares_pure _
  next => exact spares_bind spared.request fun _ => spares_bind spares_consult fun _ => spares_redraw _
  next => exact spares_pure _

theorem refreshSystemUpdatePage_spares (spared : SparedWholly kept) : Spares kept refreshSystemUpdatePage :=
  spares_bind (editHome_sees fun view meets => spared.systemUpdate view true meets) fun _ => spares_bind spares_render fun _ =>
    spares_bind spares_consult fun _ => spares_bind (editHome_sees fun view meets => spared.systemUpdate view false meets)
      fun _ => spares_render

theorem installSystemUpdate_spares (spared : SparedWholly kept) : Spares kept installSystemUpdate :=
  spares_bind spares_getHome fun _ => spares_ite
    (spares_bind (editHome_sees fun view meets => spared.systemUpdate view true meets) fun _ => spares_render) (spares_pure _)

theorem handleSystemUpdate_spares (spared : SparedWholly kept) (mode : UiMode) (action : Action) :
    Spares kept (handleSystemUpdate mode action) := by
  unfold handleSystemUpdate
  split
  next =>
    exact spares_bind (refreshSystemUpdatePage_spares spared) fun _ =>
      spares_bind (spares_setMode spared.toSpared (by simp)) fun _ => spares_pure _
  next => exact spares_page spared.toSpared (by simp) _
  next => exact spares_bind (refreshSystemUpdatePage_spares spared) fun _ => spares_pure _
  next => exact spares_bind (installSystemUpdate_spares spared) fun _ => spares_pure _
  next => exact spares_pure _

theorem handleSettings_spares (spared : Spared kept) (mode : UiMode) (action : Action) :
    Spares kept (handleSettings mode action) := by
  unfold handleSettings
  split
  next => exact spares_page spared (by simp) _
  next => exact spares_page spared (by simp) _
  next => exact spares_redraw _
  next => exact spares_redraw _
  next => exact spares_redraw _
  next => exact spares_bind spares_consult fun _ => spares_bind spares_consult fun _ => spares_page spared (by simp) _
  next => exact spares_bind spares_consult fun _ => spares_page spared (by simp) _
  next => exact spares_redraw _
  next => exact spares_bind spares_consult fun _ => spares_page spared (by simp) _
  next => exact spares_page spared (by simp) _
  next => exact spares_bind spares_consult fun _ => spares_bind spares_consult fun _ => spares_redraw _
  next => exact spares_bind spares_consult fun _ => spares_bind spares_consult fun _ => spares_redraw _
  next => exact spares_bind spares_consult fun _ => spares_redraw _
  next => exact spares_bind spared.request fun _ => spares_pure _
  next => exact spares_page spared (by simp) _
  next => exact spares_page spared (by simp) _
  next => exact spares_pure _

theorem executeAction_spares (spared : Spared kept) (action : Action) : Spares kept (executeAction action) := by
  have asks : Spares kept (do let _ ← requestOther) := spares_bind spared.request fun _ => spares_pure _
  cases action with
  | launch id => exact asks
  | system => exact asks
  | close id => exact spares_bind spared.request fun _ => spares_ite spares_consult (spares_pure _)
  | _ => exact spares_pure _

theorem executeManagerAction_spares (spared : Spared kept) (action : Action) : Spares kept (executeManagerAction action) :=
  spares_bind (executeAction_spares spared action) fun _ => spares_bind spares_consult fun _ => spares_render

end

/-- The handler leaves an unlocked Home unlocked. -/
def Harmless {α : Type} (m : HomeM α) : Prop := Sees View.Unlocked m fun _ => View.Unlocked

theorem unlocked_spared : SparedWholly View.Unlocked where
  page _ _ other unlocked := ⟨other, unlocked.awake⟩
  request := requestOther_sees fun _ unlocked => unlocked.awake
  store _ _ unlocked := ⟨unlocked.mode, unlocked.awake⟩
  systemUpdate _ _ unlocked := ⟨unlocked.mode, unlocked.awake⟩

theorem resumeUnlock_sees (target : Option ResumeTarget) : Sees (fun _ => True) (resumeUnlock target) fun _ => View.Agrees := by
  have rendered : Sees (fun _ => True) (renderResumeTarget (target.getD (.ui .manager))) fun _ view => view.home.mode ≠ .locked :=
    (renderResumeTarget_sees _).weaken (fun _ meets => meets) fun _ _ meets => meets.2
  refine sees_bind rendered fun launchAfter => ?_
  refine sees_bind (requestWake_home fun home => home.mode ≠ .locked) fun woke => sees_ite (fun done => ?_) fun _ => ?_
  · refine sees_ite (fun _ => ?_) fun _ => sees_pure fun view meets => View.Unlocked.agrees ⟨meets.1, meets.2 done⟩
    exact Sees.weaken (launchResumeApp_spares unlocked_spared.toSpared) (fun view meets => ⟨meets.1, meets.2 done⟩) fun _ _ unlocked => unlocked.agrees
  · refine Sees.weaken ?_ (fun view meets => meets.1) fun _ _ meets => meets
    refine sees_bind (domainState_looks fun home => home.mode ≠ .locked) fun domain => sees_ite (fun lost => ?_) fun committed => ?_
    · have other : domain ≠ some .manager := by simpa [unlockCommittedAfterLostAck] using lost
      exact showPage_sees fun view meets => locked_agrees domain rfl { meets.2 with } other
    · have manager : domain = some .manager := by simpa [unlockCommittedAfterLostAck] using committed
      exact sees_pure fun view meets => View.Unlocked.agrees ⟨meets.1, meets.2.awake _ manager (by simp)⟩

theorem takeResumeTarget_sees (mode : UiMode) :
    Sees (fun view => view.home.mode = mode) takeResumeTarget fun _ view => view.home.mode = mode :=
  sees_bind (getHome_sees fun _ meets => meets) fun _ => sees_bind (editHome_sees fun _ meets => meets) fun _ =>
    sees_pure fun _ meets => meets

theorem requestCoverSleep_sees : Sees (fun view => view.home.mode = .locked) requestCoverSleep fun _ => View.Agrees := by
  refine sees_bind (requestSleep_home fun home => home.mode = .locked) fun slept => sees_ite (fun _ => ?_) fun _ => ?_
  · refine sees_bind (takeResumeTarget_sees .locked) fun target => ?_
    exact (resumeUnlock_sees target).weaken (fun _ _ => trivial) fun _ _ meets => meets
  · exact failed_sleep_sees

theorem lockPage_sees : Sees (fun _ => True) lockPage fun _ view => view.home.mode = .locked := by
  refine sees_bind (home_sees _) fun home => sees_ite (fun _ => ?_) fun locked => ?_
  · exact showPage_sees fun _ _ => rfl
  · exact sees_pure fun view meets => meets.1 ▸ not_not.mp locked

theorem coverSleep_sees (target : ResumeTarget) : Sees (fun _ => True) (coverSleep target) fun _ => View.Agrees := by
  refine sees_bind (editHome_sees fun _ _ => trivial) fun _ => sees_bind lockPage_sees fun _ => ?_
  refine sees_bind (home_sees _) fun home => sees_ite (fun _ => ?_) fun _ => ?_
  · exact editHome_sees fun view meets => ⟨fun _ => meets.2, fun _ => .inr (.inl rfl)⟩
  · have kept : Sees (fun view => home = view.home ∧ view.home.mode = .locked)
        (editHome fun home => { home with deferredCoverSleep := false }) fun _ view => view.home.mode = .locked :=
      editHome_sees fun view meets => meets.2
    exact sees_bind kept fun _ => requestCoverSleep_sees

/-! ### Tasks and buttons -/

/-- A step that does not touch the mode, nor what excuses it. -/
theorem agrees_editHome {edit : HomeState → HomeState} (mode : ∀ home, (edit home).mode = home.mode)
    (deferred : ∀ home, (edit home).deferredCoverSleep = home.deferredCoverSleep) :
    Sees View.Agrees (editHome edit) fun _ => View.Agrees :=
  editHome_sees fun view agrees =>
    ⟨fun asleep => by simpa [mode] using agrees.locks asleep, fun locked => by
      simpa [deferred] using agrees.unlocks (by simpa [mode] using locked)⟩

theorem takeTaskResult_sees (result : TaskResult) : Sees View.Agrees (takeTaskResult result) fun _ => View.Agrees := by
  cases result with
  | store ok =>
    refine sees_bind (agrees_editHome (fun _ => rfl) fun _ => rfl) fun _ => ?_
    refine sees_bind (getHome_sees fun _ meets => meets) fun home => sees_ite (fun _ => ?_) fun _ => consult_sees _
    exact sees_bind (consult_sees _) fun _ => sees_bind (consult_sees _) fun _ => render_sees _
  | systemInstall ok =>
    refine sees_bind (agrees_editHome (fun _ => rfl) fun _ => rfl) fun _ => ?_
    exact sees_bind (getHome_sees fun _ meets => meets) fun home =>
      sees_ite (fun _ => render_sees _) fun _ => sees_pure fun _ meets => meets

theorem handleTaskResult_sees (result : TaskResult) : Sees View.Agrees (handleTaskResult result) fun _ => View.Agrees := by
  refine sees_bind (takeTaskResult_sees result) fun _ => sees_bind (home_sees _) fun home => sees_ite (fun due => ?_) fun _ => ?_
  · simp only [Bool.and_eq_true, decide_eq_true_eq] at due
    have kept : Sees (fun view => home = view.home ∧ view.Agrees)
        (editHome fun home => { home with deferredCoverSleep := false }) fun _ view => view.home.mode = .locked :=
      editHome_sees fun view meets => meets.1 ▸ due.2
    exact sees_bind kept fun _ => requestCoverSleep_sees
  · exact sees_pure fun _ meets => meets.2

/-- A handler of the buttons of some pages, none of which is the lock page. -/
structure Paged (handler : UiMode → HomeM Bool) : Prop where
  harmless : ∀ mode, Harmless (handler mode)
  locked : handler .locked = pure false

theorem handleWelcome_paged (action : Action) : Paged fun mode => handleWelcome mode action :=
  ⟨fun mode => handleWelcome_spares unlocked_spared.toSpared mode action, rfl⟩

theorem handleStore_paged (action : Action) : Paged fun mode => handleStore mode action :=
  ⟨fun mode => handleStore_spares unlocked_spared mode action, by cases action <;> rfl⟩

theorem handleSystemUpdate_paged (action : Action) : Paged fun mode => handleSystemUpdate mode action :=
  ⟨fun mode => handleSystemUpdate_spares unlocked_spared mode action, by cases action <;> rfl⟩

theorem handleSettings_paged (action : Action) : Paged fun mode => handleSettings mode action :=
  ⟨fun mode => handleSettings_spares unlocked_spared.toSpared mode action, by cases action <;> rfl⟩

/-- Home's own state, where it is known. -/
theorem known_sees {α : Type} {rest : HomeState → HomeM α} {post : α → View → Prop}
    (next : Sees (fun view => view.home = home) (rest home) post) :
    Sees (fun view => view.home = home) (getHome >>= rest) post :=
  sees_bind (home_sees _) fun seen world meets => by
    obtain ⟨same, known⟩ := meets
    rw [same.trans known]
    exact next world known

theorem paged_idle {handler : UiMode → HomeM Bool} {rest : HomeM Unit} {post : Unit → View → Prop} (paged : Paged handler)
    (locked : home.mode = .locked) (next : Sees (fun view => view.home = home) rest post) :
    Sees (fun view => view.home = home) (do if ← handler (← getHome).mode then return else rest) post := by
  refine known_sees ?_
  rw [locked, paged.locked]
  simpa using next

/-- The lock page has no buttons. -/
theorem handle_idle (locked : home.mode = .locked) (action : Action) :
    Sees (fun view => view.home = home) (handle action) fun _ view => view.home = home := by
  have manager : Sees (fun view => view.home = home) (do handleManager (← getHome).mode action) fun _ view => view.home = home := by
    have idle : handleManager .locked action = pure () := by cases action <;> rfl
    refine known_sees ?_
    rw [locked, idle]
    exact sees_pure fun _ same => same
  refine sees_bind (render_sees _) fun _ => ?_
  exact paged_idle (handleWelcome_paged action) locked (paged_idle (handleStore_paged action) locked
    (paged_idle (handleSystemUpdate_paged action) locked (paged_idle (handleSettings_paged action) locked manager)))

/-! ### Every event -/

theorem handleManager_sees (mode : UiMode) (action : Action) :
    Sees View.Unlocked (handleManager mode action) fun _ => View.Agrees := by
  unfold handleManager
  split
  next => exact sleep_sees.weaken (fun _ _ => trivial) fun _ _ agrees => agrees
  next => exact Sees.weaken (executeManagerAction_spares unlocked_spared.toSpared _) (fun _ unlocked => unlocked) fun _ _ unlocked => unlocked.agrees
  next => exact sees_pure fun _ unlocked => unlocked.agrees

/-- A button of another page, tried before the rest. -/
theorem paged_sees {handler : UiMode → HomeM Bool} {rest : HomeM Unit} (paged : Paged handler)
    (unlocked : Sees View.Unlocked rest fun _ => View.Agrees)
    (locked : Sees (fun view => view.home.mode = .locked ∧ view.Agrees) rest fun _ => View.Agrees) :
    Sees View.Unlocked (do if ← handler (← getHome).mode then return else rest) (fun _ => View.Agrees) ∧
      Sees (fun view => view.home.mode = .locked ∧ view.Agrees) (do if ← handler (← getHome).mode then return else rest)
        fun _ => View.Agrees := by
  constructor
  · refine sees_bind spares_getHome fun home => sees_bind (paged.harmless home.mode) fun own => ?_
    exact sees_ite (fun _ => sees_pure fun _ meets => meets.agrees) fun _ => unlocked
  · refine sees_bind (home_sees _) fun home => ?_
    have step : Sees (fun view => home.mode = .locked ∧ view.home.mode = .locked ∧ view.Agrees)
        (do if ← handler home.mode then return else rest) fun _ => View.Agrees := by
      refine sees_fact fun same => ?_
      rw [same, paged.locked]
      simpa using locked
    exact step.weaken (fun view meets => ⟨meets.1 ▸ meets.2.1, meets.2⟩) fun _ _ agrees => agrees

theorem handle_sees (action : Action) : Sees View.Agrees (handle action) fun _ => View.Agrees := by
  have manager : Sees View.Unlocked (do handleManager (← getHome).mode action) fun _ => View.Agrees :=
    sees_bind spares_getHome fun home => handleManager_sees home.mode action
  have locked : Sees (fun view => view.home.mode = .locked ∧ view.Agrees) (do handleManager (← getHome).mode action)
      fun _ => View.Agrees := by
    refine sees_bind (home_sees _) fun home => ?_
    have step : Sees (fun view => home.mode = .locked ∧ view.home.mode = .locked ∧ view.Agrees)
        (handleManager home.mode action) fun _ => View.Agrees := by
      refine sees_fact fun same => ?_
      rw [same]
      have idle : handleManager .locked action = pure () := by cases action <;> rfl
      rw [idle]
      exact sees_pure fun _ meets => meets.2
    exact step.weaken (fun view meets => ⟨meets.1 ▸ meets.2.1, meets.2⟩) fun _ _ agrees => agrees
  have settings := paged_sees (handleSettings_paged action) manager locked
  have system := paged_sees (handleSystemUpdate_paged action) settings.1 settings.2
  have store := paged_sees (handleStore_paged action) system.1 system.2
  have welcome := paged_sees (handleWelcome_paged action) store.1 store.2
  refine sees_bind (render_sees _) fun _ => ?_
  exact Sees.weaken (sees_or welcome.1 welcome.2) (fun _ agrees => agrees.cases) fun _ _ agrees => agrees

theorem handleEvent_sees (event : Event) : Sees View.Agrees (handleEvent event) fun _ => View.Agrees := by
  cases event with
  | taskResult result => exact handleTaskResult_sees result
  | autoSleep =>
    refine sees_bind (getHome_sees fun _ meets => meets) fun home => sees_ite (fun _ => ?_) fun _ => sees_pure fun _ meets => meets
    exact sleep_sees.weaken (fun _ _ => trivial) fun _ _ agrees => agrees
  | coverSleep app =>
    refine sees_bind (home_sees _) fun home => ?_
    exact (coverSleep_sees _).weaken (fun _ _ => trivial) fun _ _ agrees => agrees
  | resumeUnlock app =>
    refine sees_bind (home_sees _) fun home => sees_ite (fun _ => ?_) fun unlocked => ?_
    · exact sees_bind (sees_true _ _) fun _ => sees_bind (sees_true _ _) fun target => resumeUnlock_sees target
    · refine sees_ite (fun _ => ?_) fun _ => sees_pure fun _ meets => meets.2
      refine Sees.weaken (launchResumeApp_spares unlocked_spared.toSpared) (fun view meets => ?_) fun _ _ unlocked => unlocked.agrees
      rcases meets.2.cases with open' | ⟨locked, -⟩
      · exact open'
      · exact (unlocked (meets.1 ▸ locked)).elim
  | wallpapersChanged =>
    exact sees_bind (getHome_sees fun _ meets => meets) fun home =>
      sees_ite (fun _ => render_sees _) fun _ => sees_pure fun _ meets => meets
  | button action => exact handle_sees action

theorem initialPage_sees (pending : Bool) : Sees (fun _ => True) (initialPage pending) fun _ => View.Agrees := by
  refine sees_bind (domainState_looks fun _ => True) fun domain => ?_
  cases domain with
  | none => exact sees_throw
  | some domain =>
    refine sees_bind (consult_sees _) fun _ => ?_
    by_cases sleeping : domain = .sleeping
    · subst sleeping
      refine sees_bind (showPage_sees fun view meets => ?_) fun _ => sees_ite (fun absurd => by cases absurd) fun _ =>
        sees_pure fun _ agrees => agrees
      exact locked_agrees (some .sleeping) rfl { meets.2 with } (by simp)
    · rw [if_neg sleeping]
      have shown : Sees (fun view => True ∧ view.Looked (some domain)) (showPage (if pending = true then .welcome else .manager))
          fun _ => View.Unlocked := by
        refine showPage_sees fun view meets => ⟨?_, meets.2.awake _ rfl sleeping⟩
        cases pending <;> simp
      refine sees_bind shown fun _ => sees_ite (fun _ => ?_) fun _ => sees_pure fun _ unlocked => unlocked.agrees
      exact sees_bind unlocked_spared.request fun _ => sees_ite (fun _ => sees_throw) fun _ =>
        sees_pure fun _ unlocked => unlocked.agrees

/-! ## Every run -/

def Machine.view (machine : Machine) (home : HomeState) : View := ⟨home, machine.domain = .sleeping, machine.blind⟩

/-- While Home runs, it agrees with the daemon. -/
def Machine.Agrees (machine : Machine) : Prop := ∀ home, machine.running = some home → (machine.view home).Agrees

/-- What a handler leaves is so while Home runs on. -/
theorem run_sees {machine : Machine} {answers : List Answer} {handler : HomeM Unit} {pre post : View → Prop}
    (handled : Sees pre handler fun _ => post) (meets : pre (machine.view home)) :
    ∀ after, (machine.run home answers handler).running = some after → post ((machine.run home answers handler).view after) := by
  have ended := handled { home, domain := machine.domain, answers, blind := machine.blind } meets
  unfold Ends at ended
  intro after running
  unfold Machine.run at running ⊢
  rcases done : handler.run { home, domain := machine.domain, answers, blind := machine.blind } with ⟨result, world⟩
  rw [done] at ended running
  cases result with
  | error error => cases running
  | ok value =>
    cases running
    exact ended () rfl

theorem next_agrees {machine : Machine} (agrees : machine.Agrees) (move : Move) : (machine.next move).Agrees := by
  cases move with
  | start pending answers =>
    by_cases running : machine.running.isSome = true
    · simpa only [Machine.next, if_pos running] using agrees
    · simp only [Machine.next, if_neg running]
      exact run_sees (initialPage_sees pending) trivial
  | event event answers =>
    cases running : machine.running with
    | none => simpa only [Machine.next, running] using agrees
    | some home =>
      simp only [Machine.next, running]
      exact run_sees (handleEvent_sees event) (agrees home running)
  | drift meanwhile =>
    by_cases stays : machine.domain = .sleeping ∨ meanwhile = .sleeping
    · simpa only [Machine.next, if_pos stays] using agrees
    · obtain ⟨awake, other⟩ := not_or.mp stays
      simp only [Machine.next, if_neg stays]
      intro home running
      have before := agrees home running
      simpa [Machine.view, awake, other] using before
  | kill =>
    intro home running
    cases running

/-- Home and the daemon, whichever way they go: a sleeping daemon has a locked Home, and a
    locked Home has a sleeping daemon, a cover sleep to come, or has last looked at the
    domain in vain. -/
theorem home_agrees (domain : DomainState) (moves : List Move) : (moves.foldl Machine.next { domain }).Agrees :=
  @Runs.run_invariant _ _ Machine.next Machine.Agrees (fun _ move holds => next_agrees holds move) moves { domain }
    fun _ absurd => by cases absurd

/-- The daemon refuses the sleep, and by then restores the stock system: Home keeps
    the lock page. -/
example :
    let answer (outcome : Outcome) : Answer := { meanwhile := .restoringSystem, outcome }
    let machine := [.start false [answer .done, answer .done, answer .done, answer .done],
      .event .autoSleep [answer .done, answer .refused, answer .done, answer .done]].foldl Machine.next { domain := .manager }
    machine.running = some { mode := .locked } ∧ machine.domain = .restoringSystem ∧ machine.blind = true := by
  decide

/-- The daemon refuses the sleep, and does not tell its domain: Home keeps the lock page
    over a manager that is awake. -/
theorem refused_sleep_stays_locked :
    let answer (outcome : Outcome) : Answer := { meanwhile := .manager, outcome }
    let machine := [.start false [answer .done, answer .done, answer .done, answer .done],
      .event .autoSleep [answer .done, answer .refused, answer .refused, answer .refused]].foldl Machine.next { domain := .manager }
    machine.running = some { mode := .locked } ∧ machine.domain = .manager := by
  decide

end Remagic.Home
