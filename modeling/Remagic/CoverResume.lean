import Remagic.HomeFacts

/-!
# What the cover's opening resumes

When the cover closes, Home records the page it shows, or the application that the daemon
has parked, and the daemon records the application too. Each takes its record out before
the step that may fail: Home before it asks for the wake, the daemon before it tells Home.
The daemon also asks Home to unlock for the power key and after a suspend that has failed,
and keeps its own record then.
-/

namespace Remagic.Home
open Daemon Fallible

/-! ## Attempts to unlock -/

/-- How an attempt ends for Home: with the wake's reply, with the manager's domain seen in
    its place, or with the lock page again. -/
inductive Unlock where
  | woke
  | committed
  | failed
  deriving DecidableEq

structure Attempt where
  target : ResumeTarget
  result : Unlock
  /-- The applications whose launch is requested. -/
  launched : List AppId
  deriving DecidableEq

/-- `resumeUnlock`, with what it attempts. -/
def attemptUnlock (target : Option ResumeTarget) : HomeM Attempt := do
  let target := target.getD (.ui .manager)
  let launchAfter ← renderResumeTarget target
  if ← requestWake then
    if launchAfter.isSome then launchResumeApp
    return ⟨target, .woke, launchAfter.toList⟩
  else if unlockCommittedAfterLostAck (← domainState) then return ⟨target, .committed, []⟩
  else
    showPage .locked
    return ⟨target, .failed, []⟩

def attemptCoverSleep : HomeM (Option Attempt) := do
  if ← requestSleep then return some (← attemptUnlock (← takeResumeTarget))
  else
    if !retainLockAfterFailedSleep (← domainState) then reconcileMode
    return none

def attemptClosing (target : ResumeTarget) : HomeM (Option Attempt) := do
  editHome fun home => { home with resumeTarget := some target }
  lockPage
  if (← getHome).maintenanceActive then
    editHome fun home => { home with deferredCoverSleep := true }
    return none
  else
    editHome fun home => { home with deferredCoverSleep := false }
    attemptCoverSleep

def attemptResult (result : TaskResult) : HomeM (Option Attempt) := do
  takeTaskResult result
  let home ← getHome
  if home.deferredCoverSleep && !home.maintenanceActive && home.mode = .locked then
    editHome fun home => { home with deferredCoverSleep := false }
    attemptCoverSleep
  else return none

/-- `handleEvent`, with what it attempts. -/
def attempt : Event → HomeM (Option Attempt)
  | .taskResult result => attemptResult result
  | .coverSleep app => do
    let mode := (← getHome).mode
    attemptClosing ((app.map .app).getD (resumeTargetForMode mode))
  | .resumeUnlock app => do
    if (← getHome).mode = .locked then
      retarget app
      return some (← attemptUnlock (← takeResumeTarget))
    else
      if app.isSome then launchResumeApp
      return none
  | event => do
    handleEvent event
    return none

/-! ### The handlers are these -/

theorem resumeUnlock_attempts (target : Option ResumeTarget) :
    resumeUnlock target = (do let _ ← attemptUnlock target; return) := by
  simp only [resumeUnlock, attemptUnlock, bind_assoc]
  refine bind_congr fun launchAfter => bind_congr fun woke => ?_
  cases woke with
  | true => cases launchAfter <;> simp
  | false =>
    simp only [Bool.false_eq_true, if_false, bind_assoc]
    refine bind_congr fun domain => ?_
    cases unlockCommittedAfterLostAck domain <;> simp

theorem requestCoverSleep_attempts : requestCoverSleep = (do let _ ← attemptCoverSleep; return) := by
  simp only [requestCoverSleep, attemptCoverSleep, bind_assoc]
  refine bind_congr fun slept => ?_
  cases slept with
  | true => simp [resumeUnlock_attempts]
  | false =>
    simp only [Bool.false_eq_true, if_false, bind_assoc]
    refine bind_congr fun domain => ?_
    cases retainLockAfterFailedSleep domain <;> simp

theorem coverSleep_attempts (target : ResumeTarget) : coverSleep target = (do let _ ← attemptClosing target; return) := by
  simp only [coverSleep, attemptClosing, bind_assoc, requestCoverSleep_attempts]
  refine bind_congr fun _ => bind_congr fun _ => bind_congr fun home => ?_
  cases home.maintenanceActive <;> simp

theorem handleTaskResult_attempts (result : TaskResult) :
    handleTaskResult result = (do let _ ← attemptResult result; return) := by
  simp only [handleTaskResult, attemptResult, bind_assoc, requestCoverSleep_attempts]
  refine bind_congr fun _ => bind_congr fun home => ?_
  split <;> simp

theorem handleEvent_attempts (event : Event) : handleEvent event = (do let _ ← attempt event; return) := by
  cases event with
  | taskResult result => exact handleTaskResult_attempts result
  | coverSleep app => simp [handleEvent, attempt, coverSleep_attempts]
  | resumeUnlock app =>
    simp only [handleEvent, attempt, bind_assoc, resumeUnlock_attempts]
    refine bind_congr fun home => ?_
    split
    · simp
    · cases app <;> simp
  | autoSleep => simp [attempt]
  | wallpapersChanged => simp [attempt]
  | button action => simp [attempt]

/-! ### What an attempt leaves -/

/-- Nothing is left to resume, or to wait for. -/
def Forgotten (home : HomeState) : Prop := home.resumeTarget = none ∧ home.deferredCoverSleep = false

theorem forgotten_pageless : Pageless Forgotten := fun _ _ meets => meets

/-- An attempt at a target, and Home after it. -/
structure Attempt.At (attempt : Attempt) (target : ResumeTarget) (home : HomeState) : Prop where
  aim : attempt.target = target
  launches : attempt.result = .woke → attempt.launched = target.appId.toList
  quiet : attempt.result ≠ .woke → attempt.launched = []
  locks : attempt.result = .failed ↔ home.mode = .locked
  forgotten : Forgotten home

theorem sees_and {α : Type} {pre : View → Prop} {m : HomeM α} {one two : α → View → Prop} (first : Sees pre m one)
    (second : Sees pre m two) : Sees pre m fun a view => one a view ∧ two a view :=
  fun world meets a same => ⟨first world meets a same, second world meets a same⟩

/-- Home is unlocked, with nothing left to resume. -/
def Resumed (home : HomeState) : Prop := home.mode ≠ .locked ∧ Forgotten home

theorem resumed_spared : Spared fun view => Resumed view.home where
  page _ _ other meets := ⟨other, meets.2⟩
  request := requestOther_keeps Resumed

theorem attemptUnlock_sees (target : Option ResumeTarget) :
    Sees (fun view => Forgotten view.home) (attemptUnlock target) fun attempt view =>
      attempt.At (target.getD (.ui .manager)) view.home := by
  generalize known : target.getD (.ui .manager) = aim
  have rendered : Sees (fun view => Forgotten view.home) (renderResumeTarget aim) fun app view =>
      app = aim.appId ∧ Resumed view.home := by
    refine (sees_and ((renderResumeTarget_sees aim).weaken (fun _ _ => trivial) fun _ _ meets => meets)
      (renderResumeTarget_keeps forgotten_pageless aim)).weaken (fun _ meets => meets) fun _ _ meets => ?_
    exact ⟨meets.1.1, meets.1.2, meets.2⟩
  unfold attemptUnlock
  simp only [known]
  refine sees_bind rendered fun launchAfter => sees_fact fun same => ?_
  subst same
  refine sees_bind (requestWake_keeps Resumed) fun woke => sees_ite (fun _ => ?_) fun _ => ?_
  · have done : Sees (fun view => Resumed view.home) (pure ⟨aim, .woke, aim.appId.toList⟩)
        fun (attempt : Attempt) view => attempt.At aim view.home :=
      sees_pure fun view meets => ⟨rfl, fun _ => rfl, fun other => absurd rfl other,
        ⟨nofun, fun locked => (meets.1 locked).elim⟩, meets.2⟩
    exact sees_ite (fun _ => sees_bind (launchResumeApp_spares resumed_spared) fun _ => done) fun _ => done
  · refine sees_bind (domainState_keeps Resumed) fun domain => sees_ite (fun _ => ?_) fun _ => ?_
    · exact sees_pure fun view meets => ⟨rfl, nofun, fun _ => rfl, ⟨nofun, fun locked => (meets.1 locked).elim⟩, meets.2⟩
    · have relocked : Sees (fun view => Resumed view.home) (showPage .locked)
          fun _ view => view.home.mode = .locked ∧ Forgotten view.home := showPage_sees fun _ meets => ⟨rfl, meets.2⟩
      exact sees_bind relocked fun _ => sees_pure fun _ meets =>
        ⟨rfl, nofun, fun _ => rfl, ⟨fun _ => meets.1, fun _ => rfl⟩, meets.2⟩

section
variable {home : HomeState}

/-- The target that an attempt of Home's own takes. -/
def HomeState.aim (home : HomeState) : ResumeTarget := home.resumeTarget.getD (.ui .manager)

theorem takeResumeTarget_known :
    Sees (fun view => view.home = home) takeResumeTarget fun target view =>
      target = home.resumeTarget ∧ view.home = { home with resumeTarget := none } :=
  known_sees (sees_bind (editHome_known _) fun _ => sees_pure fun _ same => ⟨rfl, same⟩)

/-- What an event leaves of Home's target: an attempt takes it, and it stays without one. -/
def Takes (home : HomeState) (attempt : Option Attempt) (after : HomeState) : Prop :=
  match attempt with
  | some attempt => attempt.At home.aim after
  | none => after.resumeTarget = home.resumeTarget ∧ (after.deferredCoverSleep = true → home.deferredCoverSleep = true)

theorem takenUnlock_sees (quiet : home.deferredCoverSleep = false) :
    Sees (fun view => view.home = home) (do return some (← attemptUnlock (← takeResumeTarget)))
      fun attempt view => Takes home attempt view.home := by
  refine sees_bind takeResumeTarget_known fun target => sees_fact fun same => ?_
  subst same
  refine sees_bind ((attemptUnlock_sees _).weaken (fun view same => ?_) fun _ _ meets => meets) fun attempt =>
    sees_pure fun view meets => meets
  rw [same]
  exact ⟨rfl, quiet⟩

theorem attemptCoverSleep_sees (quiet : home.deferredCoverSleep = false) :
    Sees (fun view => view.home = home) attemptCoverSleep fun attempt view => Takes home attempt view.home := by
  refine sees_bind (requestSleep_keeps (· = home)) fun slept => sees_ite (fun _ => takenUnlock_sees quiet) fun _ => ?_
  have kept : Pageless fun after => after.resumeTarget = home.resumeTarget ∧ after.deferredCoverSleep = home.deferredCoverSleep :=
    fun _ _ meets => meets
  have none : Sees (fun view => view.home.resumeTarget = home.resumeTarget ∧
      view.home.deferredCoverSleep = home.deferredCoverSleep) (pure none) fun attempt view => Takes home attempt view.home :=
    sees_pure fun view meets => ⟨meets.1, fun deferred => meets.2 ▸ deferred⟩
  have looked : Sees (fun view => view.home = home) domainState fun _ view =>
      view.home.resumeTarget = home.resumeTarget ∧ view.home.deferredCoverSleep = home.deferredCoverSleep :=
    (domainState_keeps (· = home)).weaken (fun _ same => same) fun _ _ same => ⟨by rw [same], by rw [same]⟩
  exact sees_bind looked fun _ => sees_ite (fun _ => sees_bind (reconcileMode_keeps kept) fun _ => none) fun _ => none

/-- The cover's closing: the target is recorded, and may be taken at once. -/
theorem attemptClosing_sees (target : ResumeTarget) :
    Sees (fun view => view.home = home) (attemptClosing target) fun attempt view =>
      match attempt with
      | some attempt => attempt.At target view.home
      | none => view.home.resumeTarget = some target := by
  refine sees_bind (editHome_known _) fun _ => sees_bind lockPage_known fun _ => known_sees (sees_ite (fun _ => ?_) fun _ => ?_)
  · exact sees_bind (editHome_known _) fun _ => sees_pure fun view same => by rw [same]
  · refine sees_bind (editHome_known _) fun _ =>
      (attemptCoverSleep_sees rfl).weaken (fun _ meets => meets) fun attempt view meets => ?_
    cases attempt with
    | some attempt => exact meets
    | none => exact meets.1

/-- A result ends a wait: it takes the target of a sleep that was deferred. -/
theorem attemptResult_sees (result : TaskResult) :
    Sees (fun view => view.home = home) (attemptResult result) fun attempt view =>
      (attempt.isSome = true → home.deferredCoverSleep = true) ∧ Takes home attempt view.home := by
  have same : (result.take home).resumeTarget = home.resumeTarget ∧
      (result.take home).deferredCoverSleep = home.deferredCoverSleep := by cases result <;> exact ⟨rfl, rfl⟩
  refine sees_bind (takeTaskResult_known result) fun _ => known_sees (sees_ite (fun due => ?_) fun _ => ?_)
  · have deferred : home.deferredCoverSleep = true := by
      simp only [Bool.and_eq_true] at due
      exact same.2 ▸ due.1.1
    refine sees_bind (editHome_known _) fun _ =>
      (attemptCoverSleep_sees rfl).weaken (fun _ meets => meets) fun attempt view meets => ?_
    refine ⟨fun _ => deferred, ?_⟩
    cases attempt with
    | some attempt =>
      have aim : HomeState.aim { result.take home with deferredCoverSleep := false } = home.aim := by
        rw [HomeState.aim, same.1, HomeState.aim]
      have made : attempt.At home.aim view.home := by
        rw [← aim]
        exact meets
      exact made
    | none => exact ⟨meets.1.trans same.1, fun deferred => by cases meets.2 deferred⟩
  · exact sees_pure fun view after => by
      rw [after]
      exact ⟨nofun, same.1, fun deferred => same.2 ▸ deferred⟩

/-- The cover's opening, where Home is locked. -/
theorem attemptOpening_sees (locked : home.mode = .locked) (app : Option AppId) :
    Sees (fun view => view.home = home) (attempt (.resumeUnlock app)) fun attempt view =>
      ∃ made, attempt = some made ∧ made.At (((app.map .app).or home.resumeTarget).getD (.ui .manager)) view.home := by
  refine known_sees ?_
  rw [if_pos locked]
  refine sees_bind (editHome_known _) fun _ => sees_bind takeResumeTarget_known fun target => sees_fact fun same => ?_
  subst same
  have quiet : Sees (fun view => view.home = { home with deferredCoverSleep := false, resumeTarget := none })
      (attemptUnlock ((app.map .app).or home.resumeTarget)) fun attempt view =>
        attempt.At (((app.map .app).or home.resumeTarget).getD (.ui .manager)) view.home :=
    (attemptUnlock_sees _).weaken (fun view same => by rw [same]; exact ⟨rfl, rfl⟩) fun _ _ meets => meets
  exact sees_bind quiet fun attempt => sees_pure fun view made => ⟨attempt, rfl, made⟩

/-- The lock page's other events. -/
theorem attempt_idle (locked : home.mode = .locked) {event : Event} (result : ∀ result, event ≠ .taskResult result)
    (closing : ∀ app, event ≠ .coverSleep app) (opening : ∀ app, event ≠ .resumeUnlock app) :
    Sees (fun view => view.home = home) (attempt event) fun made view => made = none ∧ view.home = home := by
  have idle : Sees (fun view => view.home = home) (pure none) fun (made : Option Attempt) view => made = none ∧ view.home = home :=
    sees_pure fun _ same => ⟨rfl, same⟩
  cases event with
  | taskResult r => exact absurd rfl (result r)
  | coverSleep app => exact absurd rfl (closing app)
  | resumeUnlock app => exact absurd rfl (opening app)
  | button action => exact sees_bind (handle_idle locked action) fun _ => idle
  | autoSleep =>
    refine sees_bind (known_sees ?_) fun _ => idle
    rw [if_neg (not_not.mpr locked)]
    exact sees_pure fun _ same => same
  | wallpapersChanged =>
    refine sees_bind (known_sees ?_) fun _ => idle
    rw [if_neg (by simp [locked])]
    exact sees_pure fun _ same => same

end

/-- Home has nothing to resume, and no application is named. -/
theorem attempt_spent {home : HomeState} (forgotten : Forgotten home) {event : Event} (closing : ∀ app, event ≠ .coverSleep app)
    (opening : ∀ app, event ≠ .resumeUnlock (some app)) :
    Sees (fun view => view.home = home) (attempt event) fun made view =>
      (∀ attempt, made = some attempt → attempt.launched = []) ∧ Forgotten view.home := by
  have keeps (event : Event) (kept : Keeps Forgotten (handleEvent event)) :
      Sees (fun view => view.home = home) (do handleEvent event; return none) fun (made : Option Attempt) view =>
        (∀ attempt, made = some attempt → attempt.launched = []) ∧ Forgotten view.home := by
    refine Sees.weaken (sees_bind kept fun _ => sees_pure fun view meets => ⟨nofun, meets⟩) ?_ fun _ _ meets => meets
    rintro view rfl
    exact forgotten
  cases event with
  | coverSleep app => exact absurd rfl (closing app)
  | taskResult result =>
    refine (attemptResult_sees result).weaken (fun _ same => same) fun made view meets => ?_
    cases made with
    | some made =>
      have deferred := meets.1 rfl
      rw [forgotten.2] at deferred
      cases deferred
    | none =>
      refine ⟨nofun, meets.2.1.trans forgotten.1, ?_⟩
      cases deferred : view.home.deferredCoverSleep with
      | false => rfl
      | true => exact absurd (meets.2.2 deferred) (by simp [forgotten.2])
  | resumeUnlock app =>
    cases app with
    | some app => exact absurd rfl (opening app)
    | none =>
      by_cases locked : home.mode = .locked
      · refine (attemptOpening_sees locked none).weaken (fun _ same => same) fun made view meets => ?_
        obtain ⟨made, rfl, at'⟩ := meets
        rw [forgotten.1] at at'
        refine ⟨fun attempt same => ?_, at'.forgotten⟩
        cases same
        by_cases woke : made.result = .woke
        · exact at'.launches woke
        · exact at'.quiet woke
      · refine known_sees ?_
        rw [if_neg locked]
        exact sees_pure fun view same => ⟨nofun, same ▸ forgotten⟩
  | autoSleep =>
    exact keeps _ (spares_bind spares_getHome fun _ => spares_ite (sleep_keeps forgotten_pageless) (spares_pure _))
  | wallpapersChanged =>
    exact keeps _ (spares_bind spares_getHome fun _ => spares_ite spares_render (spares_pure _))
  | button action => exact keeps _ (handle_keeps ⟨forgotten_pageless, fun _ _ meets => meets, fun _ _ meets => meets⟩ action)

/-! ## The cover, the daemon and Home -/

/-- What the daemon tells Home: the closings are numbered. -/
inductive Message where
  | closed (number : Nat) (app : Option AppId)
  | opened (app : Option AppId)
  /-- `resume_unlock`, which names no application. -/
  | asked
  deriving DecidableEq

def Message.event : Message → Event
  | .closed _ app => .coverSleep app
  | .opened app => .resumeUnlock app
  | .asked => .resumeUnlock none

/-- The first attempt that took effect after a closing, beside what was recorded at it. -/
structure Resumption where
  recorded : ResumeTarget
  attempt : Attempt
  /-- The applications whose launch is requested for it again, until the cover is closed. -/
  again : List AppId := []
  deriving DecidableEq

structure Covers where
  machine : Machine
  coverResumeApp : Option AppId := none
  /-- The messages that Home has not read. -/
  sent : List Message := []
  closings : Nat := 0
  /-- Ghost: what Home has recorded at the last closing, until it is unlocked. -/
  due : Option ResumeTarget := none
  /-- Ghost: an attempt has taken effect since the last closing. -/
  unlocked : Bool := false
  /-- Ghost: the last one first. -/
  resumed : List Resumption := []

inductive CoverMove where
  /-- The daemon handles the cover's closing; whether it comes to tell Home. -/
  | closed (tells : Bool)
  | opened (tells : Bool)
  /-- The daemon asks Home to unlock: the power key was pressed in its sleep, or woke the
      device, or the suspend failed. -/
  | asked
  /-- Home reads the next message. -/
  | read (answers : List Answer)
  /-- Another event of Home's. -/
  | event (event : Event) (answers : List Answer)
  | start (pending : Bool) (answers : List Answer)
  | drift (meanwhile : DomainState)
  | kill

/-- An event that Home handles. -/
structure Hearing where
  home : HomeState
  event : Event
  answers : List Answer
  due : Option ResumeTarget
  sent : List Message

/-- The applications whose launch is requested with it: of a Home that is not locked, the
    opening asks for no attempt. -/
def Hearing.launched (hearing : Hearing) : Option Attempt → List AppId
  | some made => made.launched
  | none =>
    match hearing.event with
    | .resumeUnlock app => app.toList
    | _ => []

namespace Covers

/-- `handle_cover_closed`, from a domain that it acts in. The foreground is parked. -/
def close (s : Covers) (app : Option AppId) (tells : Bool) : Covers :=
  { s with
    machine := if tells then { s.machine with domain := .manager } else s.machine
    coverResumeApp := app
    sent := if tells then s.sent ++ [.closed (s.closings + 1) app] else s.sent
    closings := s.closings + 1
    due := none
    unlocked := false }

/-- `handle_cover_opened`. -/
def opened (s : Covers) (tells : Bool) : Covers :=
  { s with coverResumeApp := none, sent := if tells then s.sent ++ [.opened s.coverResumeApp] else s.sent }

/-- `request_home_unlock`, from a domain that was the sleep when the daemon looked at it. -/
def asked (s : Covers) : Covers := { s with sent := s.sent ++ [.asked] }

/-- What Home hears in a move. -/
def hearing (s : Covers) : CoverMove → Option Hearing
  | .read answers =>
    match s.machine.running, s.sent with
    | some home, message :: sent =>
      let due := match message with
        | .closed number app => if number = s.closings then some ((app.map .app).getD (resumeTargetForMode home.mode)) else none
        | .opened _ | .asked => s.due
      some { home, event := message.event, answers, due, sent }
    | _, _ => none
  | .event event answers =>
    match s.machine.running, event with
    | _, .coverSleep _ | _, .resumeUnlock _ | none, _ => none
    | some home, event => some { home, event, answers, due := s.due, sent := s.sent }
  | _ => none

def handled (s : Covers) (hearing : Hearing) : Except Unit (Option Attempt) × World :=
  (attempt hearing.event).run
    { home := hearing.home, domain := s.machine.domain, answers := hearing.answers, blind := s.machine.blind }

/-- What is launched where an attempt has taken effect already. -/
def relaunch (launched : List AppId) : List Resumption → List Resumption
  | [] => []
  | last :: before => { last with again := last.again ++ launched } :: before

/-- Home has handled what it heard. -/
def settle (s : Covers) (hearing : Hearing) : Covers :=
  match s.handled hearing with
  | (.error _, world) =>
    { s with
      machine := { running := none, domain := world.domain, blind := world.blind }
      sent := []
      due := none
      unlocked := false }
  | (.ok made, world) =>
    let s := { s with
      machine := { running := some world.home, domain := world.domain, blind := world.blind }
      sent := hearing.sent }
    match hearing.due, made with
    | some target, some made =>
      if made.result = .failed then { s with due := some target }
      else { s with due := none, unlocked := true, resumed := { recorded := target, attempt := made } :: s.resumed }
    | some target, none => { s with due := if world.home.mode = .locked then some target else none }
    | none, made =>
      { s with due := none, resumed := if s.unlocked then relaunch (hearing.launched made) s.resumed else s.resumed }

def next (s : Covers) (move : CoverMove) : Covers :=
  match s.hearing move with
  | some hearing => s.settle hearing
  | none =>
    match move with
    | .closed tells => match s.machine.domain with
      | .manager => s.close none tells
      | .foreground app => s.close (some app) tells
      | _ => s
    | .opened tells => match s.machine.domain with
      | .manager | .sleeping => s.opened tells
      | _ => s
    | .asked => s.asked
    | .start pending answers =>
      if s.machine.running.isSome then s
      else { s with machine := s.machine.next (.start pending answers), sent := [], due := none, unlocked := false }
    | .drift meanwhile => { s with machine := s.machine.next (.drift meanwhile) }
    | .kill => { s with machine := s.machine.next .kill, sent := [], due := none, unlocked := false }
    | _ => s

/-- Each first unlock that takes effect shows what was recorded at the last closing, and
    launches it where it is an application; and nothing is launched for it again. -/
def Resumes (s : Covers) : Prop := ∀ resumption ∈ s.resumed,
  resumption.attempt.target = resumption.recorded ∧ resumption.attempt.launched = resumption.recorded.appId.toList ∧
    resumption.again = []

/-- The next message makes up for a target that Home has lost. -/
def Told (target : ResumeTarget) (sent : List Message) (coverResumeApp : Option AppId) : Prop :=
  target = .ui .manager ∨ ∃ app, target = .app app ∧
    (sent.head? = some (.opened (some app)) ∨ sent = [] ∧ coverResumeApp = some app)

/-- An attempt does not fail unless its target will be told again, and one that is taken for
    committed has no application to launch; the daemon neither fails to tell of the opening
    what it alone remembers, nor asks for the unlock before it tells so; and Home is not told
    of an application once it has been unlocked. -/
structure Clear (s : Covers) (move : CoverMove) : Prop where
  attempts : ∀ hearing, s.hearing move = some hearing → ∀ target made world, hearing.due = some target →
    s.handled hearing = (.ok (some made), world) →
      (made.result = .failed → Told target hearing.sent s.coverResumeApp) ∧ (made.result = .committed → target.appId = none)
  openings : move = .opened false → s.machine.domain = .manager ∨ s.machine.domain = .sleeping →
    ∀ target home, s.due = some target → s.machine.running = some home →
    home.resumeTarget = some target ∨ Told target s.sent none
  asks : move = .asked → ∀ target home, s.due = some target → s.machine.running = some home →
    home.resumeTarget = some target ∨ Told target (s.sent ++ [.asked]) s.coverResumeApp
  once : ∀ answers app rest, move = .read answers → s.sent = .opened (some app) :: rest → s.unlocked = false

/-! ### The record is kept -/

/-- Messages that were sent after a closing, and what the daemon keeps of it. -/
structure Follows (fits : AppId → Prop) (sent : List Message) (coverResumeApp : Option AppId) : Prop where
  messages : ∀ message ∈ sent, ∃ app, message.event = .resumeUnlock app ∧ ∀ named, app = some named → fits named
  daemon : ∀ named, coverResumeApp = some named → fits named

variable {sent : List Message} {app : Option AppId}

theorem Follows.opened {fits : AppId → Prop} (follows : Follows fits sent app) (tells : Bool) :
    Follows fits (if tells then sent ++ [.opened app] else sent) none := by
  refine ⟨?_, nofun⟩
  cases tells with
  | false => exact follows.messages
  | true =>
    intro message member
    rcases List.mem_append.mp member with member | member
    · exact follows.messages message member
    · exact ⟨app, congrArg Message.event (List.mem_singleton.mp member), follows.daemon⟩

theorem Follows.asked {fits : AppId → Prop} (follows : Follows fits sent app) : Follows fits (sent ++ [.asked]) app := by
  refine ⟨fun message member => ?_, follows.daemon⟩
  rcases List.mem_append.mp member with member | member
  · exact follows.messages message member
  · exact ⟨none, congrArg Message.event (List.mem_singleton.mp member), nofun⟩

/-- A locked Home that has a target to resume, or will be told of it. -/
structure Holds (target : ResumeTarget) (sent : List Message) (coverResumeApp : Option AppId) (home : HomeState) : Prop where
  own : ∀ other, home.resumeTarget = some other → other = target
  waits : home.deferredCoverSleep = true → home.resumeTarget = some target
  remembered : home.resumeTarget = some target ∨ Told target sent coverResumeApp
  follows : Follows (fun named => target = .app named) sent coverResumeApp

structure Sound (s : Covers) : Prop where
  recorded : ∀ target, s.due = some target →
    ∃ home, s.machine.running = some home ∧ home.mode = .locked ∧ Holds target s.sent s.coverResumeApp home
  numbers : ∀ number app, .closed number app ∈ s.sent → number ≤ s.closings
  last : ∀ before app after, s.sent = before ++ .closed s.closings app :: after →
    Follows (fun named => app = some named) after s.coverResumeApp
  -- nothing is left to resume, or to be read, of the closing
  spent : s.unlocked = true → s.due = none ∧ (∀ home, s.machine.running = some home → Forgotten home) ∧
    ∀ message ∈ s.sent, ∃ app, message.event = .resumeUnlock app
  resumes : s.Resumes

variable {s : Covers} {hearing : Hearing} {target : ResumeTarget} {answers : List Answer}

/-- What comes of an event for a target that is due. -/
structure Hears (s : Covers) (hearing : Hearing) (target : ResumeTarget) : Prop where
  follows : Follows (fun named => target = .app named) hearing.sent s.coverResumeApp
  made : ∀ made world, s.handled hearing = (.ok (some made), world) → made.At target world.home
  kept : ∀ world, s.handled hearing = (.ok none, world) → world.home.mode = .locked →
    Holds target hearing.sent s.coverResumeApp world.home

/-- The messages that are left are as they were. -/
theorem Sound.left (sound : s.Sound) {front sent : List Message} (all : s.sent = front ++ sent) :
    (∀ number app, .closed number app ∈ sent → number ≤ s.closings) ∧
      ∀ before app after, sent = before ++ .closed s.closings app :: after →
        Follows (fun named => app = some named) after s.coverResumeApp := by
  constructor
  · exact fun number app member => sound.numbers number app (all ▸ List.mem_append_right front member)
  · intro before app after same
    exact sound.last (front ++ before) app after (by rw [all, same, List.append_assoc])

/-- What comes of an event where an attempt has taken effect. -/
structure Idles (s : Covers) (hearing : Hearing) : Prop where
  due : hearing.due = none
  messages : ∀ message ∈ hearing.sent, ∃ app, message.event = .resumeUnlock app
  launches : ∀ made world, s.handled hearing = (.ok made, world) → hearing.launched made = [] ∧ Forgotten world.home

theorem attempt_resumes {made : Attempt} {home : HomeState} (at' : made.At target home)
    (committed : made.result = .committed → target.appId = none) (effect : made.result ≠ .failed) :
    made.target = target ∧ made.launched = target.appId.toList := by
  refine ⟨at'.aim, ?_⟩
  cases result : made.result with
  | woke => exact at'.launches result
  | committed => rw [at'.quiet (by simp [result]), committed result, Option.toList_none]
  | failed => exact absurd result effect

theorem relaunch_nil (resumed : List Resumption) : relaunch [] resumed = resumed := by
  cases resumed with
  | nil => rfl
  | cons last before => simp [relaunch]

theorem settle_sound (sound : s.Sound) {front : List Message} (all : s.sent = front ++ hearing.sent)
    (hears : ∀ target, hearing.due = some target → s.Hears hearing target)
    (clear : ∀ target made world, hearing.due = some target → s.handled hearing = (.ok (some made), world) →
      (made.result = .failed → Told target hearing.sent s.coverResumeApp) ∧ (made.result = .committed → target.appId = none))
    (idles : s.unlocked = true → s.Idles hearing) : (s.settle hearing).Sound := by
  have left := sound.left all
  have locked {target : ResumeTarget} (due : hearing.due = some target) : s.unlocked ≠ true := by
    intro unlocked
    cases due.symm.trans (idles unlocked).due
  unfold settle
  rcases handled : s.handled hearing with ⟨ends | made, world⟩
  · exact ⟨nofun, nofun, fun before app after same => by simp at same, nofun, sound.resumes⟩
  · simp only
    split
    · next target made due =>
      have at' := (hears target due).made made world handled
      have clear := clear target made world due handled
      split
      · next failed =>
        refine ⟨fun other same => ?_, left.1, left.2, fun unlocked => absurd unlocked (locked due), sound.resumes⟩
        cases same
        refine ⟨world.home, rfl, at'.locks.mp failed, ?_, ?_, .inr (clear.1 failed), (hears target due).follows⟩
        · intro other same
          rw [at'.forgotten.1] at same
          cases same
        · intro deferred
          rw [at'.forgotten.2] at deferred
          cases deferred
      · next effect =>
        refine ⟨nofun, left.1, left.2, fun _ => ⟨rfl, fun home same => ?_, fun message member => ?_⟩, fun resumption member => ?_⟩
        · cases same
          exact at'.forgotten
        · obtain ⟨app, same, -⟩ := (hears target due).follows.messages message member
          exact ⟨app, same⟩
        · rcases List.mem_cons.mp member with rfl | member
          · obtain ⟨aim, launches⟩ := attempt_resumes at' clear.2 effect
            exact ⟨aim, launches, rfl⟩
          · exact sound.resumes resumption member
    · next target due =>
      refine ⟨fun other same => ?_, left.1, left.2, fun unlocked => absurd unlocked (locked due), sound.resumes⟩
      by_cases locked : world.home.mode = .locked
      · simp only [if_pos locked] at same
        cases same
        exact ⟨world.home, rfl, locked, (hears target due).kept world handled locked⟩
      · simp only [if_neg locked] at same
        cases same
    · refine ⟨nofun, left.1, left.2, fun unlocked => ⟨rfl, fun home same => ?_, (idles unlocked).messages⟩, ?_⟩
      · cases same
        exact ((idles unlocked).launches _ world handled).2
      · intro resumption member
        refine sound.resumes resumption ?_
        by_cases unlocked : s.unlocked = true
        · simp only [unlocked, if_true] at member
          rwa [((idles unlocked).launches _ world handled).1, relaunch_nil] at member
        · simpa [unlocked] using member

theorem handled_sees {post : Option Attempt → View → Prop}
    (sees : Sees (fun view => view.home = hearing.home) (attempt hearing.event) post) {made : Option Attempt} {world : World}
    (ran : s.handled hearing = (.ok made, world)) : post made world.view := by
  have ended := sees { home := hearing.home, domain := s.machine.domain, answers := hearing.answers, blind := s.machine.blind } rfl
  unfold handled at ran
  unfold Ends at ended
  rw [ran] at ended
  exact ended made rfl

theorem closed_hears {home : HomeState} (follows : Follows (fun named => app = some named) sent s.coverResumeApp)
    {due : Option ResumeTarget} (target : due = some ((app.map .app).getD (resumeTargetForMode home.mode))) :
    ∀ target, due = some target → s.Hears { home, event := .coverSleep app, answers, due, sent } target := by
  rintro other same
  cases target.symm.trans same
  have sees : Sees (fun view => view.home = home) (attempt (.coverSleep app)) _ := known_sees (attemptClosing_sees _)
  have follows : Follows (fun named =>
      (app.map .app).getD (resumeTargetForMode home.mode) = .app named) sent s.coverResumeApp := by
    refine ⟨fun message member => ?_, fun named same => ?_⟩
    · obtain ⟨opened, same, fits⟩ := follows.messages message member
      exact ⟨opened, same, fun named is => by rw [fits named is]; rfl⟩
    · rw [follows.daemon named same]
      rfl
  refine ⟨follows, fun made world handled => handled_sees sees handled, fun world handled _ => ?_⟩
  have kept : world.home.resumeTarget = some _ := handled_sees sees handled
  exact ⟨fun other same => Option.some.inj (same.symm.trans kept), fun _ => kept, .inl kept, follows⟩

theorem opened_hears {home : HomeState} {message : Message} (opens : message.event = .resumeUnlock app)
    (locked : home.mode = .locked) (holds : Holds target (message :: sent) s.coverResumeApp home) :
    s.Hears { home, event := message.event, answers, due := some target, sent } target := by
  rw [opens]
  have sees : Sees (fun view => view.home = home) (attempt (.resumeUnlock app)) _ := attemptOpening_sees locked app
  have aim : ((app.map .app).or home.resumeTarget).getD (.ui .manager) = target := by
    cases app with
    | some named =>
      obtain ⟨opened, same, fits⟩ := holds.follows.messages _ List.mem_cons_self
      cases opens.symm.trans same
      exact (fits named rfl).symm
    | none =>
      cases own : home.resumeTarget with
      | some other => exact holds.own other own
      | none =>
        rcases holds.remembered with kept | rfl | ⟨named, -, head | none⟩
        · cases own.symm.trans kept
        · rfl
        · cases Option.some.inj head
          cases opens
        · cases none.1
  refine ⟨⟨fun message member => holds.follows.messages message (List.mem_cons_of_mem _ member), holds.follows.daemon⟩,
    fun made world handled => ?_, fun world handled _ => ?_⟩
  · obtain ⟨attempted, same, at'⟩ := handled_sees sees handled
    cases same
    exact aim ▸ at'
  · obtain ⟨attempted, same, -⟩ := handled_sees sees handled
    cases same

theorem event_hears {home : HomeState} {event : Event} (locked : home.mode = .locked)
    (holds : Holds target sent s.coverResumeApp home) (closing : ∀ app, event ≠ .coverSleep app)
    (opening : ∀ app, event ≠ .resumeUnlock app) : s.Hears { home, event, answers, due := some target, sent } target := by
  by_cases result : ∃ result, event = .taskResult result
  · obtain ⟨result, rfl⟩ := result
    have sees : Sees (fun view => view.home = home) (attempt (.taskResult result)) _ := attemptResult_sees result
    refine ⟨holds.follows, fun made world handled => ?_, fun world handled _ => ?_⟩
    · obtain ⟨due, at'⟩ := handled_sees sees handled
      have aim : home.aim = target := by rw [HomeState.aim, holds.waits (due rfl), Option.getD_some]
      exact aim ▸ at'
    · obtain ⟨-, same, before⟩ := handled_sees sees handled
      refine ⟨fun other kept => holds.own other (same ▸ kept), fun deferred => ?_, ?_, holds.follows⟩
      · exact same.trans (holds.waits (before deferred))
      · exact holds.remembered.imp_left same.trans
  · have sees : Sees (fun view => view.home = home) (attempt event) _ :=
      attempt_idle locked (fun r same => result ⟨r, same⟩) closing opening
    refine ⟨holds.follows, fun made world handled => ?_, fun world handled _ => ?_⟩
    · cases (handled_sees sees handled).1
    · have same : world.home = home := (handled_sees sees handled).2
      rw [same]
      exact holds

theorem concat_split {α : Type} {xs before after : List α} {x y : α} (same : xs ++ [x] = before ++ y :: after) :
    (after = [] ∧ y = x) ∨ ∃ rest, after = rest ++ [x] ∧ xs = before ++ y :: rest := by
  rcases List.eq_nil_or_concat after with rfl | ⟨rest, last, rfl⟩
  · exact .inl ⟨rfl, (List.cons.inj (List.append_inj' same rfl).2).1.symm⟩
  · rw [List.concat_eq_append, ← List.cons_append, ← List.append_assoc] at same
    obtain ⟨front, final⟩ := List.append_inj' same rfl
    cases final
    exact .inr ⟨rest, List.concat_eq_append, front⟩

theorem close_sound (sound : s.Sound) (app : Option AppId) (tells : Bool) : (s.close app tells).Sound := by
  have fresh : ∀ number app, .closed number app ∈ s.sent → number < s.closings + 1 := fun number app member =>
    Nat.lt_succ_of_le (sound.numbers number app member)
  have old : ∀ before named after, s.sent ≠ before ++ .closed (s.closings + 1) named :: after := by
    intro before named after all
    have member : Message.closed (s.closings + 1) named ∈ s.sent := by
      rw [all]
      simp
    exact Nat.lt_irrefl _ (fresh _ _ member)
  refine ⟨nofun, fun number named member => ?_, fun before named after same => ?_, nofun, sound.resumes⟩
  · cases tells with
    | false => exact Nat.le_of_lt (fresh number named member)
    | true =>
      rcases List.mem_append.mp member with member | member
      · exact Nat.le_of_lt (fresh number named member)
      · cases List.mem_singleton.mp member
        exact Nat.le_refl _
  · cases tells with
    | false => exact absurd same (old before named after)
    | true =>
      rcases concat_split same with ⟨rfl, message⟩ | ⟨rest, -, all⟩
      · cases message
        exact ⟨nofun, fun named same => same⟩
      · exact absurd all (old before named rest)

theorem Told.opened (told : Told target sent app) : Told target (sent ++ [.opened app]) none := by
  rcases told with default | ⟨named, same, head | ⟨rfl, rfl⟩⟩
  · exact .inl default
  · exact .inr ⟨named, same, .inl (by rw [List.head?_append, head]; rfl)⟩
  · exact .inr ⟨named, same, .inl rfl⟩

theorem opened_sound (sound : s.Sound) {tells : Bool} (clear : tells = false → ∀ target home, s.due = some target →
    s.machine.running = some home → home.resumeTarget = some target ∨ Told target s.sent none) : (s.opened tells).Sound := by
  refine ⟨fun target due => ?_, fun number app member => ?_, fun before app after same => ?_, fun unlocked => ?_, sound.resumes⟩
  · obtain ⟨home, running, locked, holds⟩ := sound.recorded target due
    refine ⟨home, running, locked, holds.own, holds.waits, ?_, holds.follows.opened tells⟩
    cases tells with
    | false => exact clear rfl target home due running
    | true => exact holds.remembered.imp_right Told.opened
  · cases tells with
    | false => exact sound.numbers number app member
    | true =>
      rcases List.mem_append.mp member with member | member
      · exact sound.numbers number app member
      · cases List.mem_singleton.mp member
  · cases tells with
    | false => exact (sound.last before app after same).opened false
    | true =>
      rcases concat_split same with ⟨-, message⟩ | ⟨rest, rfl, all⟩
      · cases message
      · exact (sound.last before app rest all).opened true
  · obtain ⟨due, forgotten, messages⟩ := sound.spent unlocked
    refine ⟨due, forgotten, fun message member => ?_⟩
    cases tells with
    | false => exact messages message member
    | true =>
      rcases List.mem_append.mp member with member | member
      · exact messages message member
      · exact ⟨s.coverResumeApp, congrArg Message.event (List.mem_singleton.mp member)⟩

theorem asked_sound (sound : s.Sound) (clear : ∀ target home, s.due = some target → s.machine.running = some home →
    home.resumeTarget = some target ∨ Told target (s.sent ++ [.asked]) s.coverResumeApp) : s.asked.Sound := by
  refine ⟨fun target due => ?_, fun number app member => ?_, fun before app after same => ?_, fun unlocked => ?_, sound.resumes⟩
  · obtain ⟨home, running, locked, holds⟩ := sound.recorded target due
    exact ⟨home, running, locked, holds.own, holds.waits, clear target home due running, holds.follows.asked⟩
  · rcases List.mem_append.mp member with member | member
    · exact sound.numbers number app member
    · cases List.mem_singleton.mp member
  · rcases concat_split same with ⟨-, message⟩ | ⟨rest, rfl, all⟩
    · cases message
    · exact (sound.last before app rest all).asked
  · obtain ⟨due, forgotten, messages⟩ := sound.spent unlocked
    refine ⟨due, forgotten, fun message member => ?_⟩
    rcases List.mem_append.mp member with member | member
    · exact messages message member
    · exact ⟨none, congrArg Message.event (List.mem_singleton.mp member)⟩

/-- What Home hears is the oldest of the messages to it, or an event from elsewhere. -/
theorem hearing_cases {move : CoverMove} (hears : s.hearing move = some hearing) :
    ∃ home answers, s.machine.running = some home ∧
      ((∃ number app rest, s.sent = .closed number app :: rest ∧
          hearing = { home, event := .coverSleep app, answers, sent := rest, due :=
            if number = s.closings then some ((app.map .app).getD (resumeTargetForMode home.mode)) else none }) ∨
        (∃ message app rest, message.event = .resumeUnlock app ∧ s.sent = message :: rest ∧ move = .read answers ∧
          hearing = { home, event := message.event, answers, due := s.due, sent := rest }) ∨
        ∃ event, (∀ app, event ≠ .coverSleep app) ∧ (∀ app, event ≠ .resumeUnlock app) ∧
          hearing = { home, event, answers, due := s.due, sent := s.sent }) := by
  cases move with
  | read answers =>
    cases running : s.machine.running with
    | none => simp [Covers.hearing, running] at hears
    | some home =>
      cases sent : s.sent with
      | nil => simp [Covers.hearing, running, sent] at hears
      | cons message rest =>
        simp only [Covers.hearing, running, sent, Option.some.injEq] at hears
        subst hears
        refine ⟨home, answers, rfl, ?_⟩
        cases message with
        | closed number app => exact .inl ⟨number, app, rest, rfl, rfl⟩
        | opened app => exact .inr (.inl ⟨_, app, rest, rfl, rfl, rfl, rfl⟩)
        | asked => exact .inr (.inl ⟨_, none, rest, rfl, rfl, rfl, rfl⟩)
  | event event answers =>
    cases running : s.machine.running with
    | none => cases event <;> simp [Covers.hearing, running] at hears
    | some home =>
      refine ⟨home, answers, rfl, .inr (.inr ⟨event, ?_⟩)⟩
      cases event <;> simp [Covers.hearing, running] at hears <;> simp [← hears]
  | closed | opened | asked | start | drift | kill => cases hears

/-- Home hears what is due. -/
theorem hearing_hears (sound : s.Sound) {move : CoverMove} (hears : s.hearing move = some hearing) :
    (∃ front, s.sent = front ++ hearing.sent) ∧ ∀ target, hearing.due = some target → s.Hears hearing target := by
  obtain ⟨home, answers, running, ⟨number, app, rest, sent, rfl⟩ | ⟨message, app, rest, opens, sent, -, rfl⟩ |
    ⟨event, closing, opening, rfl⟩⟩ := hearing_cases hears
  · refine ⟨⟨[_], sent⟩, ?_⟩
    by_cases last : number = s.closings
    · exact closed_hears (sound.last [] app rest (by rw [sent, last]; rfl)) (if_pos last)
    · intro target due
      simp [last] at due
  · refine ⟨⟨[message], sent⟩, fun target due => ?_⟩
    obtain ⟨kept, same, locked, holds⟩ := sound.recorded target due
    cases running.symm.trans same
    simp only at due
    rw [due]
    exact opened_hears opens locked (sent ▸ holds)
  · refine ⟨⟨[], rfl⟩, fun target due => ?_⟩
    obtain ⟨kept, same, locked, holds⟩ := sound.recorded target due
    cases running.symm.trans same
    simp only at due
    rw [due]
    exact event_hears locked holds closing opening

/-- Home hears what launches nothing more. -/
theorem hearing_idles (sound : s.Sound) {move : CoverMove} (clear : s.Clear move) (hears : s.hearing move = some hearing)
    (unlocked : s.unlocked = true) : s.Idles hearing := by
  obtain ⟨due, forgotten, messages⟩ := sound.spent unlocked
  have idles {home : HomeState} {event : Event} {answers : List Answer} {sent : List Message}
      (running : s.machine.running = some home) (closing : ∀ app, event ≠ .coverSleep app)
      (opening : ∀ app, event ≠ .resumeUnlock (some app)) (left : ∀ message ∈ sent, message ∈ s.sent) :
      s.Idles { home, event, answers, due := s.due, sent } := by
    refine ⟨due, fun message member => messages message (left message member), fun made world ran => ?_⟩
    have sees : Sees (fun view => view.home = home) (attempt event) _ := attempt_spent (forgotten home running) closing opening
    obtain ⟨quiet, kept⟩ := handled_sees sees ran
    refine ⟨?_, kept⟩
    cases made with
    | some made => exact quiet made rfl
    | none =>
      unfold Hearing.launched
      cases event with
      | resumeUnlock app =>
        cases app with
        | some app => exact absurd rfl (opening app)
        | none => rfl
      | _ => rfl
  obtain ⟨home, answers, running, ⟨number, app, rest, sent, rfl⟩ | ⟨message, app, rest, opens, sent, read, rfl⟩ |
    ⟨event, closing, opening, rfl⟩⟩ := hearing_cases hears
  · obtain ⟨other, same⟩ := messages _ (sent ▸ List.mem_cons_self)
    cases same
  · refine idles running (fun _ => by simp [opens]) (fun named same => ?_) fun other member => sent ▸ List.mem_cons_of_mem _ member
    cases message with
    | opened app =>
      cases same
      have none := clear.once answers named rest read sent
      rw [unlocked] at none
      cases none
    | closed | asked => cases same
  · exact idles running closing (fun app => opening (some app)) fun _ member => member

/-- Nothing is due to a Home that starts or goes. -/
theorem emptied_sound (sound : s.Sound) (machine : Machine) :
    Sound { s with machine, sent := [], due := none, unlocked := false } where
  recorded target due := by cases due
  numbers number app member := by cases member
  last before app after same := by simp at same
  spent unlocked := by cases unlocked
  resumes := sound.resumes

theorem next_sound (sound : s.Sound) {move : CoverMove} (clear : s.Clear move) : (s.next move).Sound := by
  unfold next
  split
  · next hearing heard =>
    obtain ⟨⟨front, all⟩, hears⟩ := hearing_hears sound heard
    exact settle_sound sound all hears (clear.attempts hearing heard) (hearing_idles sound clear heard)
  · cases move with
    | closed tells =>
      simp only
      split
      · exact close_sound sound _ _
      · exact close_sound sound _ _
      · exact sound
    | opened tells =>
      have told (domain : s.machine.domain = .manager ∨ s.machine.domain = .sleeping) : (s.opened tells).Sound :=
        opened_sound sound fun silent => clear.openings (by rw [silent]) domain
      simp only
      split
      · next domain => exact told (.inl domain)
      · next domain => exact told (.inr domain)
      · exact sound
    | asked => exact asked_sound sound (clear.asks rfl)
    | start pending answers =>
      simp only
      split
      · exact sound
      · exact emptied_sound sound _
    | drift meanwhile =>
      have same : (s.machine.next (.drift meanwhile)).running = s.machine.running := by
        simp only [Machine.next]
        split <;> rfl
      refine ⟨fun target due => ?_, sound.numbers, sound.last, fun unlocked => ?_, sound.resumes⟩
      · obtain ⟨home, running, rest⟩ := sound.recorded target due
        exact ⟨home, same.trans running, rest⟩
      · obtain ⟨due, forgotten, messages⟩ := sound.spent unlocked
        exact ⟨due, fun home running => forgotten home (same.symm.trans running), messages⟩
    | kill => exact emptied_sound sound _
    | read | event => exact sound

theorem start_sound (domain : DomainState) : Sound { machine := { domain } } where
  recorded target due := by cases due
  numbers number app member := by cases member
  last before app after same := by simp at same
  spent unlocked := by cases unlocked
  resumes resumption member := by cases member

/-- What Home does with an event is what its handler does. -/
theorem settle_runs (s : Covers) (hearing : Hearing) :
    (s.settle hearing).machine = s.machine.run hearing.home hearing.answers (handleEvent hearing.event) := by
  unfold settle Machine.run handled
  rw [handleEvent_attempts, run_bind]
  rcases (attempt hearing.event).run _ with ⟨ends | made, world⟩
  · rfl
  · simp only
    split
    · split <;> rfl
    · rfl
    · rfl

end Covers

/-- Calls that end so, beside a manager that is awake. -/
def answers (outcomes : List Outcome) : List Answer := outcomes.map fun outcome => { meanwhile := .manager, outcome }

end Remagic.Home
