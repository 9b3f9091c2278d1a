import Remagic.ClickTracker

/-!
# The wake guard

From before the device suspends until the power key has been quiet after it resumed, the
input thread keeps the events of the key for itself, so that the press that wakes the device
is no gesture. The one who resumed the device is told whether the key had a part in it. A run
of the thread keeps an account of the replies, of the key, and of what the guard was told since
it was armed.
-/

namespace Remagic.Power
open Runs

/-- `WAKE_GUARD_QUIET`. -/
def wakeGuardQuiet : Nat := 800 * 1000000

structure WakeGesture where
  powerKey : Bool
  deriving Repr, DecidableEq

/-- What is sent over a reply channel. -/
inductive Reply where
  | done (result : Except String Unit)
  | gesture (result : Except String WakeGesture)

/-- The answers of a call: the numbers of the reply channels with what is sent over them. -/
abbrev Answers := List (Nat × Reply)

/-- A reply channel is held by its number. -/
structure WakeGuard where
  active : Bool := false
  resumedAt : Option Nat := none
  lastEventAt : Option Nat := none
  keyDown : Bool := false
  powerKeyAfterResume : Bool := false
  resumeReply : Option Nat := none
  deriving Repr, DecidableEq

namespace WakeGuard
variable (guard : WakeGuard)

def isArmedBeforeResume : Bool := guard.active && guard.resumedAt.isNone

def arm : Except String Unit × WakeGuard :=
  if guard.active then (.error "power wake guard is already armed", guard)
  else (.ok (), { guard with active := true, resumedAt := none, lastEventAt := none, keyDown := false })

def resume (now : Nat) : Except String Unit × WakeGuard :=
  if !guard.active then (.error "power wake guard is not armed", guard)
  else if guard.resumedAt.isSome then (.error "power wake guard was already resumed", guard)
  else (.ok (), { guard with resumedAt := some now })

def resumeAndReport (now reply : Nat) : Answers × WakeGuard :=
  match guard.resume now with
  | (.ok _, guard) => ([], { guard with resumeReply := some reply })
  | (.error error, guard) => ([(reply, .gesture (.error error))], guard)

/-- Whether the raw event belongs to the fence of suspend and wake. -/
def consume (value : Int) (now : Nat) : Bool × WakeGuard :=
  if !guard.active then (false, guard)
  else
    let guard := if guard.resumedAt.isSome && (value = 0 || value = 1) then { guard with powerKeyAfterResume := true } else guard
    if value = 1 then (true, { guard with keyDown := true, lastEventAt := some now })
    else if value = 0 then (true, { guard with keyDown := false, lastEventAt := some now })
    else (true, guard)

def finish : Answers × WakeGuard :=
  (guard.resumeReply.toList.map fun reply => (reply, .gesture (.ok ⟨guard.powerKeyAfterResume⟩)), {})

def quietSince (resumedAt : Nat) : Nat := (guard.lastEventAt.filter (resumedAt < ·)).getD resumedAt

def poll (now : Nat) : Answers × WakeGuard :=
  match guard.resumedAt with
  | none => ([], guard)
  | some resumedAt =>
    if guard.keyDown then ([], guard)
    else if wakeGuardQuiet ≤ now - guard.quietSince resumedAt then guard.finish
    else ([], guard)

def cancel : Answers × WakeGuard :=
  (guard.resumeReply.toList.map fun reply => (reply, .gesture (.error "power wake guard was cancelled")), {})

end WakeGuard

/-! ## The input thread -/

inductive PowerEvent where
  | userActivity
  | gesture (action : PowerAction)
  deriving Repr, DecidableEq

/-- A turn of the input thread: a control, a raw event of the key, or the poll at the turn's end. -/
inductive Turn where
  /-- `result` is what `set_grab` and the reopening that may follow it come to. -/
  | grab (result : Except String Unit)
  | armWakeGuard (grabbed : Bool)
  | resumeWakeGuard
  | cancelWakeGuard
  | key (value : Int)
  | poll

/-- What the guard was told while it was armed. -/
inductive Moment where
  | resumed (at' : Nat)
  | key (value : Int) (at' : Nat)
  deriving Repr, DecidableEq

/-- The input thread with its account: the replies asked for, the answers sent, the events
    sent to the daemon, whether the key is held, and what the guard was told since it was
    armed, the latest first. -/
structure InputThread where
  guard : WakeGuard := {}
  tracker : ClickTracker := {}
  interactionEpoch : Nat := 0
  events : List PowerEvent := []
  asked : Nat := 0
  answers : Answers := []
  keyHeld : Bool := false
  told : Option (List Moment) := none

namespace InputThread
variable (t : InputThread)

def notePowerPress : InputThread := { t with interactionEpoch := (t.interactionEpoch + 1) % 18446744073709551616 }

def sendAction (action : PowerAction) : InputThread :=
  match action with
  | .none => t
  | action => { t with events := t.events ++ [.gesture action] }

/-- A control comes with a reply channel of its own. -/
def ask (step : Nat → InputThread → Answers × InputThread) : InputThread :=
  let (answers, after) := step t.asked { t with asked := t.asked + 1 }
  { after with answers := after.answers ++ answers }

def handleGrab (result : Except String Unit) (reply : Nat) : Answers × InputThread :=
  let (answers, guard) := t.guard.cancel
  (answers ++ [(reply, .done result)], { t with tracker := t.tracker.clear, guard })

def handleArmWakeGuard (grabbed : Bool) (reply : Nat) : Answers × InputThread :=
  let t := { t with tracker := t.tracker.clear }
  if grabbed then
    let (result, guard) := t.guard.arm
    ([(reply, .done result)], { t with guard })
  else ([(reply, .done (.error "cannot arm wake guard while the power key is not grabbed"))], t)

def handleResumeWakeGuard (now reply : Nat) : Answers × InputThread :=
  let (answers, guard) := t.guard.resumeAndReport now reply
  (answers, { t with guard })

def handleCancelWakeGuard (reply : Nat) : Answers × InputThread :=
  let (answers, guard) := t.guard.cancel
  (answers ++ [(reply, .done (.ok ()))], { t with tracker := t.tracker.clear, guard })

def trackPowerValue (value : Int) (now : Nat) : InputThread :=
  if value = 1 then
    let t := t.notePowerPress
    { t with events := t.events ++ [.userActivity], tracker := t.tracker.press now }
  else if value = 0 then
    let (action, tracker) := t.tracker.release now
    { t with tracker }.sendAction action
  else t

/-- `PowerDevice::drain` leaves the repeats of a held key out. -/
def drained (value : Int) : Bool := value = 0 || value = 1

/-- A turn of the loop of `handle_power_events`. -/
def handlePowerEvent (value : Int) (now : Nat) : InputThread :=
  let t := if t.guard.isArmedBeforeResume && value = 1 then t.notePowerPress else t
  let (consumed, guard) := t.guard.consume value now
  let t := { t with guard }
  if consumed then t else t.trackPowerValue value now

def pollPendingClick (now : Nat) : InputThread :=
  let (answers, guard) := t.guard.poll now
  let t := { t with guard, answers := t.answers ++ answers }
  if guard.active then t
  else
    let (action, tracker) := t.tracker.poll now
    { t with tracker }.sendAction action

def act (now : Nat) : Turn → InputThread
  | .grab result => t.ask fun reply t => t.handleGrab result reply
  | .armWakeGuard grabbed => t.ask fun reply t => t.handleArmWakeGuard grabbed reply
  | .resumeWakeGuard => t.ask fun reply t => t.handleResumeWakeGuard now reply
  | .cancelWakeGuard => t.ask fun reply t => t.handleCancelWakeGuard reply
  | .key value => if drained value then t.handlePowerEvent value now else t
  | .poll => t.pollPendingClick now

/-- Whether the key is held after a turn. -/
def holds : Turn → Bool
  | .key value => if drained value then value = 1 else t.keyHeld
  | _ => t.keyHeld

/-- The account of what the guard was told, after a turn. -/
def tell (now : Nat) (turn : Turn) (after : InputThread) : Option (List Moment) :=
  if !after.guard.active then none
  else
    let moments := t.told.getD []
    match turn with
    | .resumeWakeGuard => if t.guard.isArmedBeforeResume then some (.resumed now :: moments) else some moments
    | .key value => if drained value then some (.key value now :: moments) else some moments
    | _ => some moments

/-- A turn at an instant. -/
def next (timed : Nat × Turn) : InputThread :=
  let after := t.act timed.1 timed.2
  { after with keyHeld := t.holds timed.2, told := t.tell timed.1 timed.2 after }

end InputThread

/-! ## What the guard was told -/

namespace Moment

/-- A press that has not been released yet. -/
def held : List Moment → Bool
  | [] => false
  | .key value _ :: rest => if value = 1 then true else if value = 0 then false else held rest
  | .resumed _ :: rest => held rest

/-- The instant of the latest press or release. -/
def lastStroke : List Moment → Option Nat
  | [] => none
  | .key value at' :: rest => if value = 0 ∨ value = 1 then some at' else lastStroke rest
  | .resumed _ :: rest => lastStroke rest

def resumption : List Moment → Option Nat
  | [] => none
  | .resumed at' :: _ => some at'
  | .key _ _ :: rest => resumption rest

/-- A press or a release came after the device had resumed. -/
def woken : List Moment → Bool
  | [] => false
  | .resumed _ :: _ => false
  | .key value _ :: rest => (value = 0 || value = 1) && (resumption rest).isSome || woken rest

end Moment

/-- The guard knows what it was told. -/
structure WakeGuard.Knows (guard : WakeGuard) (moments : List Moment) : Prop where
  active : guard.active = true
  keyDown : guard.keyDown = Moment.held moments
  lastEventAt : guard.lastEventAt = Moment.lastStroke moments
  resumedAt : guard.resumedAt = Moment.resumption moments
  powerKey : guard.powerKeyAfterResume = Moment.woken moments
  reply : guard.resumeReply.isSome = (Moment.resumption moments).isSome

namespace WakeGuard
variable {guard : WakeGuard} {moments : List Moment}

/-- A guard that is not armed keeps nothing of an earlier time. -/
theorem arm_knows : Knows ({} : WakeGuard).arm.2 [] := ⟨rfl, rfl, rfl, rfl, rfl, rfl⟩

theorem resume_knows (knows : guard.Knows moments) (now reply : Nat) (waits : guard.resumedAt = none) :
    guard.resumeAndReport now reply = ([], { guard with resumedAt := some now, resumeReply := some reply }) ∧
    Knows { guard with resumedAt := some now, resumeReply := some reply } (.resumed now :: moments) := by
  constructor
  · simp [resumeAndReport, resume, knows.active, waits]
  · refine ⟨knows.active, knows.keyDown, knows.lastEventAt, rfl, ?_, rfl⟩
    -- nothing was noted before the device resumed
    have unwoken : ∀ moments : List Moment, Moment.resumption moments = none → Moment.woken moments = false := by
      intro moments
      induction moments with
      | nil => exact fun _ => rfl
      | cons moment rest ih =>
        cases moment with
        | resumed at' =>
          intro never
          cases never
        | key value at' =>
          intro never
          simp only [Moment.resumption] at never
          simp [Moment.woken, never, ih never]
    exact knows.powerKey.trans (unwoken moments (knows.resumedAt.symm.trans waits))

theorem resume_refused (now reply : Nat) (refused : guard.active = false ∨ guard.resumedAt ≠ none) :
    ∃ error, guard.resumeAndReport now reply = ([(reply, .gesture (.error error))], guard) := by
  unfold resumeAndReport resume
  by_cases active : guard.active = true
  · have resumed : guard.resumedAt.isSome = true := by
      rcases refused with inactive | resumed
      · rw [active] at inactive
        cases inactive
      · exact Option.isSome_iff_ne_none.mpr resumed
    simp [active, resumed]
  · simp [active]

theorem consume_armed (active : guard.active = true) (value : Int) (now : Nat) :
    guard.consume value now =
      (true, { guard with
        powerKeyAfterResume := (value = 0 || value = 1) && guard.resumedAt.isSome || guard.powerKeyAfterResume
        keyDown := if value = 1 then true else if value = 0 then false else guard.keyDown
        lastEventAt := if value = 0 ∨ value = 1 then some now else guard.lastEventAt }) := by
  by_cases press : value = 1
  · by_cases resumed : guard.resumedAt.isSome = true
    · simp [consume, active, resumed, press]
    · simp [consume, active, resumed, press]
  · by_cases release : value = 0
    · by_cases resumed : guard.resumedAt.isSome = true
      · simp [consume, active, resumed, release]
      · simp [consume, active, resumed, release]
    · simp only [consume, active, press, release, decide_false, Bool.or_self, Bool.and_false, Bool.not_true,
        Bool.false_eq_true, if_false, Bool.false_and, Bool.false_or, or_self]
      rw [← active]

/-- Every raw event of the key is the guard's while it is armed. -/
theorem consume_knows (knows : guard.Knows moments) (value : Int) (now : Nat) :
    (guard.consume value now).1 = true ∧ (guard.consume value now).2.Knows (.key value now :: moments) ∧
    (guard.consume value now).2.resumeReply = guard.resumeReply := by
  rw [consume_armed knows.active]
  refine ⟨rfl, ⟨knows.active, ?_, ?_, knows.resumedAt, ?_, knows.reply⟩, rfl⟩
  · simp only [Moment.held, knows.keyDown]
  · simp only [Moment.lastStroke, knows.lastEventAt]
  · simp only [Moment.woken, knows.powerKey, knows.resumedAt]

/-- The guard ends when the key is up and has been quiet since the device resumed. -/
theorem poll_knows (knows : guard.Knows moments) (now : Nat) :
    guard.poll now = ([], guard) ∨
    ∃ resumed reply, Moment.resumption moments = some resumed ∧ guard.resumeReply = some reply ∧
      Moment.held moments = false ∧ resumed + wakeGuardQuiet ≤ now ∧
      (∀ stroke ∈ Moment.lastStroke moments, stroke + wakeGuardQuiet ≤ now) ∧
      guard.poll now = ([(reply, .gesture (.ok ⟨Moment.woken moments⟩))], {}) := by
  unfold poll
  cases resumption : guard.resumedAt with
  | none => exact .inl rfl
  | some resumed =>
    have told : Moment.resumption moments = some resumed := knows.resumedAt.symm.trans resumption
    dsimp only
    by_cases down : guard.keyDown = true
    · rw [if_pos down]
      exact .inl rfl
    · rw [if_neg down]
      by_cases quiet : wakeGuardQuiet ≤ now - guard.quietSince resumed
      · rw [if_pos quiet]
        obtain ⟨reply, waits⟩ : ∃ reply, guard.resumeReply = some reply := by
          refine Option.isSome_iff_exists.mp ?_
          rw [knows.reply, told]
          rfl
        have positive : 0 < wakeGuardQuiet := by decide
        have bounds : resumed ≤ guard.quietSince resumed ∧
            ∀ stroke ∈ Moment.lastStroke moments, stroke ≤ guard.quietSince resumed := by
          unfold quietSince
          rw [knows.lastEventAt]
          cases Moment.lastStroke moments with
          | none => simp
          | some stroke =>
            by_cases later : resumed < stroke
            · simp [Option.filter, later, Nat.le_of_lt later]
            · simp [Option.filter, later, Nat.le_of_not_lt later]
        refine .inr ⟨resumed, reply, told, waits, ?_, ?_, ?_, ?_⟩
        · rw [← knows.keyDown]
          simpa using down
        · omega
        · intro stroke latest
          have := bounds.2 stroke latest
          omega
        · simp [finish, waits, knows.powerKey]
      · rw [if_neg quiet]
        exact .inl rfl

end WakeGuard

/-! ## The account of a run -/

namespace InputThread
variable {t : InputThread} {turn : Turn} {now : Nat}

/-- What a turn has to do that leads to `u`. -/
structure Accounts (t : InputThread) (now : Nat) (turn : Turn) (u : InputThread) : Prop where
  /-- An armed guard keeps the events of the key from the click tracker and from the daemon. -/
  consumed : ∀ value moments, turn = .key value → drained value = true → t.told = some moments →
    u.told = some (.key value now :: moments) ∧ u.tracker = t.tracker ∧ u.events = t.events
  /-- A guard ends by a poll, or because it is cancelled. -/
  lasting : t.told.isSome = true → u.told = none →
    turn = .poll ∨ turn = .cancelWakeGuard ∨ ∃ result, turn = .grab result
  /-- A poll ends it when the key is up and has been quiet, and the report is answered. -/
  finished : ∀ moments, turn = .poll → t.told = some moments → u.told = none →
    t.keyHeld = false ∧
    (∃ resumed ∈ Moment.resumption moments, resumed + wakeGuardQuiet ≤ now) ∧
    (∀ stroke ∈ Moment.lastStroke moments, stroke + wakeGuardQuiet ≤ now) ∧
    ∃ reply ∈ t.guard.resumeReply, u.answers = t.answers ++ [(reply, .gesture (.ok ⟨Moment.woken moments⟩))]
  /-- Nothing else tells of the power key. -/
  reported : ∀ reply gesture, (reply, Reply.gesture (.ok gesture)) ∈ u.answers →
    (reply, Reply.gesture (.ok gesture)) ∈ t.answers ∨ turn = .poll ∧ t.told.isSome = true ∧ u.told = none

/-- A poll that finds the quiet period over finds no key held that the guard was told nothing of. -/
def KnowsKey (t : InputThread) (timed : Nat × Turn) : Prop :=
  timed.2 = .poll → ∀ moments, t.told = some moments → Moment.lastStroke moments = none →
    (∃ resumed ∈ Moment.resumption moments, resumed + wakeGuardQuiet ≤ timed.1) → t.keyHeld = false

/-- What every turn keeps: each reply that was asked for is answered once or waits for the end
    of the guard, and the guard knows what it was told, and with the first stroke the key. -/
structure Kept (t : InputThread) : Prop where
  replies : (t.answers.map Prod.fst ++ t.guard.resumeReply.toList).Perm (List.range t.asked)
  idle : t.told = none → t.guard = {}
  armed : ∀ moments, t.told = some moments → t.guard.Knows moments
  keyed : ∀ moments, t.told = some moments → Moment.lastStroke moments ≠ none → t.keyHeld = Moment.held moments

/-! ## What a turn does -/

/-- All that a turn can do to the replies, the guard and the account of it. -/
inductive Happens (t : InputThread) (now : Nat) : Turn → InputThread → Prop
  /-- The guard is cancelled, and the control answered after the report that waits for it. -/
  | cancelled {turn : Turn} (result : Except String Unit)
      (cancels : turn = .cancelWakeGuard ∨ ∃ result, turn = .grab result) :
      Happens t now turn { t with
        guard := {}, tracker := {}, asked := t.asked + 1, told := none
        answers := t.answers ++ (t.guard.cancel.1 ++ [(t.asked, .done result)]) }
  /-- The control is answered, and the guard stays as it is. -/
  | answered {turn : Turn} (tracker : ClickTracker) (reply : Reply) (silent : ∀ gesture, reply ≠ .gesture (.ok gesture))
      (control : turn = .resumeWakeGuard ∨ ∃ grabbed, turn = .armWakeGuard grabbed) :
      Happens t now turn { t with
        tracker := tracker, asked := t.asked + 1, answers := t.answers ++ [(t.asked, reply)] }
  | armed (idle : t.told = none) :
      Happens t now (.armWakeGuard true) { t with
        guard := { active := true }, tracker := {}, asked := t.asked + 1, told := some []
        answers := t.answers ++ [(t.asked, .done (.ok ()))] }
  | resumed (moments : List Moment) (told : t.told = some moments) (waits : t.guard.resumedAt = none) :
      Happens t now .resumeWakeGuard { t with
        guard := { t.guard with resumedAt := some now, resumeReply := some t.asked }
        asked := t.asked + 1, told := some (.resumed now :: moments) }
  | consumed (value : Int) (interactionEpoch : Nat) (moments : List Moment) (stroke : drained value = true)
      (told : t.told = some moments) :
      Happens t now (.key value) { t with
        guard := (t.guard.consume value now).2, interactionEpoch := interactionEpoch, keyHeld := value = 1
        told := some (.key value now :: moments) }
  /-- The guard is not armed. -/
  | passed (value : Int) (tracker : ClickTracker) (interactionEpoch : Nat) (events : List PowerEvent)
      (stroke : drained value = true) (idle : t.told = none) :
      Happens t now (.key value) { t with
        tracker := tracker, interactionEpoch := interactionEpoch, events := events, keyHeld := value = 1 }
  | repeated (value : Int) (repeats : drained value = false) : Happens t now (.key value) t
  /-- The poll leaves the guard as it is. -/
  | polled (tracker : ClickTracker) (events : List PowerEvent)
      (waits : ∀ moments, t.told = some moments → t.guard.poll now = ([], t.guard)) :
      Happens t now .poll { t with tracker := tracker, events := events }
  | finished (moments : List Moment) (tracker : ClickTracker) (events : List PowerEvent) (resumed reply : Nat)
      (told : t.told = some moments) (resumption : Moment.resumption moments = some resumed)
      (waits : t.guard.resumeReply = some reply) (up : Moment.held moments = false)
      (late : resumed + wakeGuardQuiet ≤ now) (quiet : ∀ stroke ∈ Moment.lastStroke moments, stroke + wakeGuardQuiet ≤ now) :
      Happens t now .poll { t with
        guard := {}, tracker := tracker, events := events, told := none
        answers := t.answers ++ [(reply, .gesture (.ok ⟨Moment.woken moments⟩))] }

theorem tell_idle {after : InputThread} (inactive : after.guard.active = false) :
    t.tell now turn after = none := by simp [tell, inactive]

theorem sendAction_same (action : PowerAction) : ∃ events, t.sendAction action = { t with events := events } := by
  cases action <;> exact ⟨_, rfl⟩

theorem trackPowerValue_same (value : Int) (now : Nat) : ∃ tracker interactionEpoch events,
    t.trackPowerValue value now =
      { t with tracker := tracker, interactionEpoch := interactionEpoch, events := events } := by
  unfold trackPowerValue
  split
  · exact ⟨_, _, _, rfl⟩
  split
  · obtain ⟨events, same⟩ := sendAction_same (t := { t with tracker := (t.tracker.release now).2 }) (t.tracker.release now).1
    exact ⟨_, _, events, same⟩
  · exact ⟨_, _, _, rfl⟩

/-- The account of a turn that leaves the guard alone and is neither a resumption nor an event of the key. -/
theorem tell_same (kept : t.Kept) {after : InputThread} (guard : after.guard = t.guard)
    (other : turn ≠ .resumeWakeGuard ∨ t.guard.isArmedBeforeResume = false) (silent : ∀ value, turn ≠ .key value) :
    t.tell now turn after = t.told := by
  unfold tell
  rw [guard]
  cases told : t.told with
  | none => simp [kept.idle told]
  | some moments =>
    simp only [(kept.armed moments told).active, Bool.not_true, Bool.false_eq_true, if_false, Option.getD_some]
    cases turn with
    | key value => exact absurd rfl (silent value)
    | resumeWakeGuard =>
      have refused := other.resolve_left (fun same => same rfl)
      simp [refused]
    | grab | armWakeGuard | cancelWakeGuard | poll => rfl

theorem next_untold (kept : t.Kept) {after : InputThread} (acts : t.act now turn = after) (guard : after.guard = t.guard)
    (told : after.told = t.told) (held : after.keyHeld = t.keyHeld)
    (other : turn ≠ .resumeWakeGuard ∨ t.guard.isArmedBeforeResume = false) (silent : ∀ value, turn ≠ .key value) :
    t.next (now, turn) = after := by
  have holds : t.holds turn = after.keyHeld := by
    rw [held]
    cases turn with
    | key value => exact absurd rfl (silent value)
    | grab | armWakeGuard | resumeWakeGuard | cancelWakeGuard | poll => rfl
  unfold next
  dsimp only
  rw [acts, tell_same kept guard other silent, holds, ← told]

theorem arm_happens (kept : t.Kept) (now : Nat) (grabbed : Bool) :
    t.Happens now (.armWakeGuard grabbed) (t.next (now, .armWakeGuard grabbed)) := by
  have refused : ∀ error, t.act now (.armWakeGuard grabbed) = { t with
      tracker := {}, asked := t.asked + 1, answers := t.answers ++ [(t.asked, .done (.error error))] } →
      t.Happens now (.armWakeGuard grabbed) (t.next (now, .armWakeGuard grabbed)) := by
    intro error acts
    rw [next_untold kept acts rfl rfl rfl (.inl (by simp)) (by simp)]
    exact .answered {} (.done (.error error)) (by simp) (.inr ⟨grabbed, rfl⟩)
  cases grabbed with
  | false => exact refused _ rfl
  | true =>
    cases told : t.told with
    | none =>
      have idle := kept.idle told
      have acts : t.next (now, .armWakeGuard true) = { t with
          guard := { active := true }, tracker := {}, asked := t.asked + 1, told := some []
          answers := t.answers ++ [(t.asked, .done (.ok ()))] } := by
        simp [next, act, ask, handleArmWakeGuard, WakeGuard.arm, tell, holds, idle, told, ClickTracker.clear]
      rw [acts]
      exact .armed told
    | some moments =>
      have active := (kept.armed moments told).active
      refine refused "power wake guard is already armed" ?_
      simp [act, ask, handleArmWakeGuard, WakeGuard.arm, active, ClickTracker.clear]

theorem resume_happens (kept : t.Kept) (now : Nat) : t.Happens now .resumeWakeGuard (t.next (now, .resumeWakeGuard)) := by
  by_cases armed : t.guard.isArmedBeforeResume = true
  · simp only [WakeGuard.isArmedBeforeResume, Bool.and_eq_true, Option.isNone_iff_eq_none] at armed
    obtain ⟨active, waits⟩ := armed
    cases told : t.told with
    | none =>
      rw [kept.idle told] at active
      cases active
    | some moments =>
      have same := (WakeGuard.resume_knows (kept.armed moments told) now t.asked waits).1
      have acts : t.next (now, .resumeWakeGuard) = { t with
          guard := { t.guard with resumedAt := some now, resumeReply := some t.asked }
          asked := t.asked + 1, told := some (.resumed now :: moments) } := by
        simp [next, act, ask, handleResumeWakeGuard, same, tell, holds, active, waits, told, WakeGuard.isArmedBeforeResume]
      rw [acts]
      exact .resumed moments told waits
  · have refused : t.guard.active = false ∨ t.guard.resumedAt ≠ none := by
      by_contra both
      simp only [not_or, not_not, Bool.not_eq_false] at both
      simp [WakeGuard.isArmedBeforeResume, both] at armed
    obtain ⟨error, same⟩ := WakeGuard.resume_refused now t.asked refused
    have acts : t.act now .resumeWakeGuard = { t with
        asked := t.asked + 1, answers := t.answers ++ [(t.asked, .gesture (.error error))] } := by
      simp [act, ask, handleResumeWakeGuard, same]
    rw [next_untold kept acts rfl rfl rfl (.inr (by simpa using armed)) (by simp)]
    exact .answered t.tracker _ (by simp) (.inl rfl)

theorem key_happens (kept : t.Kept) (now : Nat) (value : Int) : t.Happens now (.key value) (t.next (now, .key value)) := by
  by_cases stroke : drained value = true
  · cases told : t.told with
    | some moments =>
      have knows := kept.armed moments told
      obtain ⟨consumed, after, -⟩ := WakeGuard.consume_knows knows value now
      obtain ⟨epoch, acts⟩ : ∃ epoch, t.next (now, .key value) = { t with
          guard := (t.guard.consume value now).2, interactionEpoch := epoch, keyHeld := value = 1
          told := some (.key value now :: moments) } := by
        unfold next act holds handlePowerEvent tell
        by_cases noted : (t.guard.isArmedBeforeResume && value = 1) = true
        · refine ⟨(t.interactionEpoch + 1) % 18446744073709551616, ?_⟩
          simp only [stroke, noted, if_true, notePowerPress, consumed, after.active, told, Option.getD_some,
            Bool.not_true, Bool.false_eq_true, if_false]
        · refine ⟨t.interactionEpoch, ?_⟩
          simp only [stroke, noted, consumed, if_true, after.active, told, Option.getD_some, Bool.not_true,
            Bool.false_eq_true, if_false]
      rw [acts]
      exact .consumed value epoch moments stroke told
    | none =>
      have idle := kept.idle told
      obtain ⟨tracker, epoch, events, same⟩ := trackPowerValue_same (t := t) value now
      have unheard : t.guard.consume value now = (false, t.guard) := by simp [WakeGuard.consume, idle]
      have early : t.guard.isArmedBeforeResume = false := by simp [WakeGuard.isArmedBeforeResume, idle]
      have passes : t.act now (.key value) = t.trackPowerValue value now := by
        simp only [act, stroke, if_true, handlePowerEvent, unheard, early, Bool.false_and, Bool.false_eq_true, if_false]
      have acts : t.next (now, .key value) =
          { t with tracker := tracker, interactionEpoch := epoch, events := events, keyHeld := value = 1 } := by
        unfold next holds
        dsimp only
        rw [passes, same, tell_idle (by simp [idle]), if_pos stroke, ← told]
      rw [acts]
      exact .passed value tracker epoch events stroke told
  · have repeats : drained value = false := by simpa using stroke
    have acts : t.next (now, .key value) = t := by
      have told : t.tell now (.key value) t = t.told := by
        unfold tell
        cases told : t.told with
        | none => simp [kept.idle told]
        | some moments => simp [(kept.armed moments told).active, repeats]
      simp [next, act, holds, repeats, told]
    rw [acts]
    exact .repeated value repeats

/-- The end of a poll: the click tracker is asked once the guard is not armed. -/
theorem poll_tracker (now : Nat) : ∃ tracker events, t.act now .poll = { t with
    guard := (t.guard.poll now).2, answers := t.answers ++ (t.guard.poll now).1, tracker := tracker, events := events } := by
  unfold act pollPendingClick
  by_cases active : (t.guard.poll now).2.active = true
  · exact ⟨t.tracker, t.events, by simp [active]⟩
  · obtain ⟨events, same⟩ := sendAction_same (t := { t with
      guard := (t.guard.poll now).2, answers := t.answers ++ (t.guard.poll now).1
      tracker := (t.tracker.poll now).2 }) (t.tracker.poll now).1
    exact ⟨(t.tracker.poll now).2, events, by simp [active, same]⟩

theorem poll_happens (kept : t.Kept) (now : Nat) : t.Happens now .poll (t.next (now, .poll)) := by
  obtain ⟨tracker, events, acts⟩ := poll_tracker (t := t) now
  have waits : t.guard.poll now = ([], t.guard) → t.Happens now .poll (t.next (now, .poll)) := by
    intro waits
    rw [waits, List.append_nil] at acts
    rw [next_untold kept acts rfl rfl rfl (.inl (by simp)) (by simp)]
    exact .polled tracker events fun _ _ => waits
  cases told : t.told with
  | none => exact waits (by simp [WakeGuard.poll, kept.idle told])
  | some moments =>
    rcases WakeGuard.poll_knows (kept.armed moments told) now with
      same | ⟨resumed, reply, resumption, waiting, up, late, quiet, ends⟩
    · exact waits same
    · have after : t.next (now, .poll) = { t with
          guard := {}, tracker := tracker, events := events, told := none
          answers := t.answers ++ [(reply, .gesture (.ok ⟨Moment.woken moments⟩))] } := by
        unfold next holds
        dsimp only
        rw [acts, ends, tell_idle rfl]
      rw [after]
      exact .finished moments tracker events resumed reply told resumption waiting up late quiet

theorem next_happens (kept : t.Kept) (now : Nat) (turn : Turn) : t.Happens now turn (t.next (now, turn)) := by
  cases turn with
  | grab result => exact .cancelled result (.inr ⟨result, rfl⟩)
  | cancelWakeGuard => exact .cancelled (.ok ()) (.inl rfl)
  | armWakeGuard grabbed => exact arm_happens kept now grabbed
  | resumeWakeGuard => exact resume_happens kept now
  | key value => exact key_happens kept now value
  | poll => exact poll_happens kept now

/-! ## The run -/

/-- A control that is answered at once. -/
theorem answered_replies {answers : Answers} {waiting : Option Nat} {asked : Nat} (reply : Reply)
    (replies : (answers.map Prod.fst ++ waiting.toList).Perm (List.range asked)) :
    ((answers ++ [(asked, reply)]).map Prod.fst ++ waiting.toList).Perm (List.range (asked + 1)) := by
  rw [List.range_succ, List.map_append, List.append_assoc]
  have swapped : ([asked] ++ waiting.toList).Perm (waiting.toList ++ [asked]) := List.perm_append_comm
  refine (List.Perm.append_left _ swapped).trans ?_
  rw [← List.append_assoc]
  exact replies.append_right [asked]

theorem drained_iff {value : Int} : drained value = true ↔ value = 0 ∨ value = 1 := by simp [drained]

theorem Happens.kept (kept : t.Kept) {u : InputThread} (happens : t.Happens now turn u) : u.Kept := by
  cases happens with
  | cancelled result cancels =>
    refine ⟨?_, fun _ => rfl, fun moments told => (by cases told), fun moments told => by cases told⟩
    have names : t.guard.cancel.1.map Prod.fst = t.guard.resumeReply.toList := by
      unfold WakeGuard.cancel
      cases t.guard.resumeReply <;> rfl
    show (((t.answers ++ (t.guard.cancel.1 ++ [(t.asked, Reply.done result)])).map Prod.fst) ++ []).Perm _
    rw [List.append_nil, List.range_succ, List.map_append, List.map_append, names, ← List.append_assoc]
    exact kept.replies.append_right [t.asked]
  | answered tracker reply silent control =>
    exact ⟨answered_replies reply kept.replies, kept.idle, kept.armed, kept.keyed⟩
  | armed idle =>
    have waiting := kept.replies
    rw [kept.idle idle] at waiting
    refine ⟨answered_replies _ waiting, fun told => (by cases told), fun moments told => ?_, fun moments told stroke => ?_⟩
    · cases told
      exact WakeGuard.arm_knows
    · cases told
      exact absurd rfl stroke
  | resumed moments told waits =>
    have knows := kept.armed moments told
    refine ⟨?_, fun told => (by cases told), fun moments told => ?_, fun later armed stroke => ?_⟩
    · have nobody : t.guard.resumeReply = none := by
        have reply := knows.reply
        rw [← knows.resumedAt, waits] at reply
        simpa using reply
      have replies := kept.replies
      rw [nobody] at replies
      simp only [Option.toList_none, List.append_nil] at replies
      show ((t.answers.map Prod.fst) ++ [t.asked]).Perm _
      rw [List.range_succ]
      exact replies.append_right [t.asked]
    · cases told
      exact (WakeGuard.resume_knows knows now t.asked waits).2
    · cases armed
      exact kept.keyed moments told stroke
  | consumed value epoch moments stroke told =>
    obtain ⟨-, knows, reply⟩ := WakeGuard.consume_knows (kept.armed moments told) value now
    refine ⟨?_, fun told => (by cases told), fun moments told => ?_, fun later armed _ => ?_⟩
    · show ((t.answers.map Prod.fst) ++ (t.guard.consume value now).2.resumeReply.toList).Perm _
      rw [reply]
      exact kept.replies
    · cases told
      exact knows
    · cases armed
      rcases drained_iff.mp stroke with rfl | rfl <;> rfl
  | passed value tracker epoch events stroke idle =>
    exact ⟨kept.replies, kept.idle, kept.armed, fun moments told => (by rw [idle] at told; cases told)⟩
  | repeated value repeats => exact kept
  | polled tracker events waits => exact ⟨kept.replies, kept.idle, kept.armed, kept.keyed⟩
  | finished moments tracker events resumed reply told resumption waits up late quiet =>
    refine ⟨?_, fun _ => rfl, fun moments told => (by cases told), fun moments told => by cases told⟩
    have replies := kept.replies
    rw [waits] at replies
    show (((t.answers ++ [(reply, Reply.gesture (.ok ⟨Moment.woken moments⟩))]).map Prod.fst) ++ []).Perm _
    rw [List.append_nil, List.map_append]
    exact replies

theorem Happens.accounts (kept : t.Kept) {u : InputThread} (happens : t.Happens now turn u)
    (knowsKey : t.KnowsKey (now, turn)) : t.Accounts now turn u := by
  cases happens with
  | cancelled result cancels =>
    refine ⟨fun value moments key => ?_, fun _ _ => .inr cancels, fun moments poll => ?_, fun reply gesture told => ?_⟩
    · subst key
      simp at cancels
    · subst poll
      simp at cancels
    · left
      unfold WakeGuard.cancel at told
      cases waits : t.guard.resumeReply <;> simpa [waits] using told
  | answered tracker reply silent control =>
    refine ⟨fun value moments key => ?_, fun armed ended => ?_, fun moments poll => ?_, fun number gesture told => ?_⟩
    · subst key
      simp at control
    · simp [show t.told = none from ended] at armed
    · subst poll
      simp at control
    · left
      rcases List.mem_append.mp told with before | last
      · exact before
      · rw [List.mem_singleton, Prod.mk.injEq] at last
        exact absurd last.2.symm (silent gesture)
  | armed idle =>
    refine ⟨fun value moments key => ?_, fun _ ended => ?_, fun moments poll => ?_, fun reply gesture told => ?_⟩
    · cases key
    · cases ended
    · cases poll
    · exact .inl (by simpa using told)
  | resumed moments told waits =>
    refine ⟨fun value moments key => ?_, fun _ ended => ?_, fun moments poll => ?_, fun reply gesture told => .inl told⟩
    · cases key
    · cases ended
    · cases poll
  | consumed value epoch moments stroke told =>
    refine ⟨fun other moments key _ before => ?_, fun _ ended => ?_, fun moments poll => ?_,
      fun reply gesture told => .inl told⟩
    · cases key
      rw [told] at before
      cases before
      exact ⟨rfl, rfl, rfl⟩
    · cases ended
    · cases poll
  | passed value tracker epoch events stroke idle =>
    refine ⟨fun other moments key _ told => ?_, fun armed ended => ?_, fun moments poll => ?_,
      fun reply gesture told => .inl told⟩
    · rw [idle] at told
      cases told
    · simp [idle] at armed
    · cases poll
  | repeated value repeats =>
    refine ⟨fun other moments key stroke => ?_, fun armed ended => ?_, fun moments poll => ?_,
      fun reply gesture told => .inl told⟩
    · cases key
      rw [repeats] at stroke
      cases stroke
    · simp [ended] at armed
    · cases poll
  | polled tracker events waits =>
    refine ⟨fun value moments key => ?_, fun armed ended => ?_, fun moments poll told ended => ?_,
      fun reply gesture told => .inl told⟩
    · cases key
    · simp [show t.told = none from ended] at armed
    · rw [show t.told = none from ended] at told
      cases told
  | finished moments tracker events resumed reply told resumption waits up late quiet =>
    refine ⟨fun value moments key => ?_, fun _ _ => .inl rfl, fun others _ before _ => ?_, fun _ _ _ => ?_⟩
    · cases key
    · rw [told] at before
      cases before
      refine ⟨?_, ⟨resumed, resumption, late⟩, quiet, reply, waits, rfl⟩
      -- the guard knows of the key by the first stroke
      by_cases stroke : Moment.lastStroke moments = none
      · exact knowsKey rfl moments told stroke ⟨resumed, resumption, late⟩
      · rw [kept.keyed moments told stroke, up]
    · exact .inr ⟨rfl, by simp [told], rfl⟩

theorem held_untouched {moments : List Moment} (untouched : Moment.lastStroke moments = none) :
    Moment.held moments = false := by
  induction moments with
  | nil => rfl
  | cons moment rest ih =>
    cases moment with
    | resumed at' => exact ih untouched
    | key value at' =>
      by_cases stroke : value = 0 ∨ value = 1
      · simp [Moment.lastStroke, stroke] at untouched
      · simp only [Moment.lastStroke, stroke, if_false] at untouched
        simp only [not_or] at stroke
        simp [Moment.held, stroke, ih untouched]

/-- A guard that was told of no stroke ends once the device has been running for the quiet period. -/
theorem poll_ends (kept : t.Kept) {now resumed : Nat} {moments : List Moment} (told : t.told = some moments)
    (untouched : Moment.lastStroke moments = none) (resumption : resumed ∈ Moment.resumption moments)
    (late : resumed + wakeGuardQuiet ≤ now) : (t.next (now, .poll)).told = none := by
  have knows := kept.armed moments told
  have ends : (t.guard.poll now).2.active = false := by
    have up : t.guard.keyDown = false := knows.keyDown.trans (held_untouched untouched)
    have quiet : wakeGuardQuiet ≤ now - resumed := by omega
    simp [WakeGuard.poll, WakeGuard.quietSince, knows.resumedAt.trans resumption, up, knows.lastEventAt.trans untouched,
      quiet, WakeGuard.finish]
  obtain ⟨tracker, events, acts⟩ := poll_tracker (t := t) now
  show t.tell now .poll (t.act now .poll) = none
  rw [acts]
  exact tell_idle ends

/-- The account is kept to by exactly the turns at which no key is held behind the guard's back. -/
theorem accounts_iff (kept : t.Kept) (timed : Nat × Turn) :
    t.Accounts timed.1 timed.2 (t.next timed) ↔ t.KnowsKey timed := by
  constructor
  · intro accounts poll moments told untouched late
    obtain ⟨resumed, resumption, late⟩ := late
    refine (accounts.finished moments poll told ?_).1
    have ends := poll_ends kept told untouched resumption late
    rwa [← poll] at ends
  · exact (next_happens kept timed.1 timed.2).accounts kept

theorem start_kept : Kept {} :=
  ⟨.refl [], fun _ => rfl, fun moments told => (by cases told), fun moments told => by cases told⟩

/-- Over every run each reply is answered once, or waits for the end of an armed guard; and the turns
    keep to the account if and only if no key that was pressed before the guard was armed is still held,
    without a stroke, when the quiet period is over. -/
theorem wake_guard_accounted (turns : List (Nat × Turn)) :
    let t := turns.foldl next {}
    (Along next (fun t timed => t.Accounts timed.1 timed.2 (t.next timed)) {} turns ↔ Along next KnowsKey {} turns) ∧
    (t.answers.map Prod.fst ++ t.guard.resumeReply.toList).Perm (List.range t.asked) ∧
    (t.guard.resumeReply.isSome = true → t.told.isSome = true) := by
  have step : ∀ (t : InputThread) timed, t.Kept → (t.next timed).Kept := fun t timed kept =>
    (next_happens kept timed.1 timed.2).kept kept
  have kept := run_invariant step turns start_kept
  refine ⟨?_, kept.replies, fun waits => ?_⟩
  · exact along_congr Kept (fun t timed kept _ => step t timed kept) (fun t timed kept => accounts_iff kept timed) turns
      start_kept
  · by_contra idle
    have none := kept.idle (by simpa using idle)
    rw [none] at waits
    cases waits

end InputThread

/-- A key that was pressed before the guard is armed, and is still held when the guard ends. -/
def heldOver : List (Nat × Turn) :=
  [(0, .key 1), (10, .armWakeGuard true), (20, .resumeWakeGuard), (800000020, .poll)]

theorem held_key_finishes :
    let t := heldOver.dropLast.foldl InputThread.next {}
    let u := heldOver.foldl InputThread.next {}
    t.told = some [.resumed 20] ∧ t.keyHeld = true ∧ u.guard.active = false ∧ u.keyHeld = true ∧
      u.answers = [(0, .done (.ok ())), (1, .gesture (.ok ⟨false⟩))] ∧
      ¬ Along InputThread.next (fun t timed => t.Accounts timed.1 timed.2 (t.next timed)) {} heldOver := by
  refine ⟨by decide, by decide, by decide, by decide, by rfl, fun along => ?_⟩
  have accounts := along.2.2.2.1
  have up := (accounts.finished [.resumed 20] rfl (by decide) (by decide)).1
  revert up
  decide

end Remagic.Power
