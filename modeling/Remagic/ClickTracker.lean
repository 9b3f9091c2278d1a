import Mathlib.Data.List.Range
import Remagic.Runs

/-!
# The power key

`ClickTracker` turns the presses and releases of the power key into gestures:
clicks are gathered until a window of 800 ms after the last of them closes, and a
key held for three seconds is a long press. A run of calls keeps an account
beside it of what was physically done to the key, and of the gesture that each
hold was reported in.
-/

namespace Remagic.Power

/-- `MULTI_CLICK_GAP`, in nanoseconds as every instant here. -/
def multiClickGap : Nat := 800 * 1000000
/-- `LONG_PRESS`. -/
def longPress : Nat := 3 * 1000000000

inductive PowerAction where
  | none
  | single
  | triple
  | long
  deriving Repr, DecidableEq

structure ClickTracker where
  clicks : Nat := 0
  deadline : Option Nat := none
  downSince : Option Nat := none
  suppressRelease : Bool := false
  deriving Repr, DecidableEq

variable {tracker : ClickTracker}

namespace ClickTracker

def nextDeadline (tracker : ClickTracker) : Option Nat :=
  match tracker.downSince.map (· + longPress), tracker.deadline with
  | some left, some right => some (min left right)
  | some deadline, none => some deadline
  | none, some deadline => some deadline
  | none, none => none

def clear (_ : ClickTracker) : ClickTracker := {}

def press (tracker : ClickTracker) (now : Nat) : ClickTracker :=
  { tracker with downSince := some (tracker.downSince.getD now) }

def release (tracker : ClickTracker) (now : Nat) : PowerAction × ClickTracker :=
  if tracker.suppressRelease then
    (.none, { tracker with suppressRelease := false, downSince := none })
  else
    match tracker.downSince with
    | none => (.none, tracker)
    | some start =>
      if longPress ≤ now - start then
        (.long, tracker.clear)
      else
        let before := if tracker.deadline.any (· < now) then 0 else tracker.clicks
        -- The count is a `u8` and saturates.
        let clicks := min (before + 1) 255
        if 3 ≤ clicks then
          (.triple, tracker.clear)
        else
          (.none, { tracker with clicks := clicks, deadline := some (now + multiClickGap), downSince := none })

theorem release_heard {now : Nat} (reported : tracker.suppressRelease = true) :
    tracker.release now = (.none, { tracker with suppressRelease := false, downSince := none }) := by
  simp [release, reported]

theorem release_orphan {now : Nat} (heard : tracker.suppressRelease = false) (up : tracker.downSince = none) :
    tracker.release now = (.none, tracker) := by
  simp [release, heard, up]

theorem release_long {now start : Nat} (heard : tracker.suppressRelease = false) (down : tracker.downSince = some start)
    (long : longPress ≤ now - start) : tracker.release now = (.long, {}) := by
  simp [release, heard, down, long, clear]

/-- Inside the window a short press is one more click, and the third ends the gesture. -/
theorem release_click {now start : Nat} (heard : tracker.suppressRelease = false) (down : tracker.downSince = some start)
    (short : now - start < longPress) (window : ∀ deadline ∈ tracker.deadline, now ≤ deadline)
    (few : tracker.clicks ≤ 2) :
    tracker.release now =
      if tracker.clicks = 2 then (.triple, {}) else
        (.none, { clicks := tracker.clicks + 1, deadline := some (now + multiClickGap) }) := by
  have inside : tracker.deadline.any (· < now) = false := by
    cases opened : tracker.deadline with
    | none => rfl
    | some deadline => simpa using window deadline opened
  have counts : min (tracker.clicks + 1) 255 = tracker.clicks + 1 := by omega
  by_cases third : tracker.clicks = 2
  · simp [release, heard, down, Nat.not_le.mpr short, inside, third, clear]
  · have : ¬3 ≤ tracker.clicks + 1 := by omega
    simp [release, heard, down, Nat.not_le.mpr short, inside, third, counts, this]

def poll (tracker : ClickTracker) (now : Nat) : PowerAction × ClickTracker :=
  if tracker.downSince.any (fun start => decide (longPress ≤ now - start)) then
    (.long, { clicks := 0, deadline := none, downSince := none, suppressRelease := true })
  else if 0 < tracker.clicks ∧ tracker.deadline.any (· ≤ now) then
    (.single, tracker.clear)
  else
    (.none, tracker)

theorem poll_long {now start : Nat} (down : tracker.downSince = some start) (long : longPress ≤ now - start) :
    tracker.poll now = (.long, { suppressRelease := true }) := by
  simp [poll, down, long]

theorem poll_single {now : Nat} (up : tracker.downSince = none) (gathered : 0 < tracker.clicks)
    (shut : ∃ deadline ∈ tracker.deadline, deadline ≤ now) : tracker.poll now = (.single, {}) := by
  obtain ⟨deadline, opened, past⟩ := shut
  rw [Option.mem_def] at opened
  simp [poll, up, gathered, opened, past, clear]

theorem poll_quiet {now : Nat} (short : ∀ start ∈ tracker.downSince, now - start < longPress)
    (window : 0 < tracker.clicks → ∀ deadline ∈ tracker.deadline, now < deadline) :
    tracker.poll now = (.none, tracker) := by
  have timer : tracker.downSince.any (fun start => decide (longPress ≤ now - start)) = false := by
    cases down : tracker.downSince with
    | none => rfl
    | some start => simpa using short start down
  have opened : ¬(0 < tracker.clicks ∧ tracker.deadline.any (· ≤ now) = true) := by
    rintro ⟨gathered, shut⟩
    cases announced : tracker.deadline with
    | none => simp [announced] at shut
    | some deadline =>
      have := window gathered deadline announced
      simp only [announced, Option.any_some, decide_eq_true_eq] at shut
      omega
  simp only [poll, timer, Bool.false_eq_true, if_false, if_neg opened]

end ClickTracker

/-! ## The account of a run -/

inductive Call where
  | press (now : Nat)
  | release (now : Nat)
  | poll (now : Nat)
  deriving Repr, DecidableEq

def Call.now : Call → Nat
  | .press now => now
  | .release now => now
  | .poll now => now

/-- A press of the key with its release, and the long presses reported for it. -/
structure Hold where
  start : Nat
  finish : Nat
  longs : Nat
  deriving Repr, DecidableEq

def Hold.short (hold : Hold) : Bool := hold.finish - hold.start < longPress

structure Account where
  tracker : ClickTracker := {}
  now : Nat := 0
  /-- Since when the key is physically down, and the long presses reported meanwhile. -/
  held : Option Nat := none
  longs : Nat := 0
  /-- Long presses reported while the key was up. -/
  stray : Nat := 0
  holds : List Hold := []
  /-- The clicks that each `Single` and `Triple` stands for, as places in `clicks`. -/
  reports : List (PowerAction × List Nat) := []
  deriving Repr, DecidableEq

namespace Account

/-- The completed short clicks. -/
def clicks (a : Account) : List Hold := a.holds.filter Hold.short

/-- The clicks that have been reported, one after the other. -/
def counted (a : Account) : List Nat := a.reports.flatMap (·.2)

/-- The clicks that the tracker still gathers: the latest of them. -/
def pending (a : Account) : List Nat :=
  List.range' (a.clicks.length - a.tracker.clicks) a.tracker.clicks

/-- A release ends the hold that is on, if there is one. -/
def ended (a : Account) (now longs : Nat) : List Hold :=
  match a.held with
  | none => a.holds
  | some start => a.holds ++ [{ start, finish := now, longs }]

def next (a : Account) : Call → Account
  | .press now =>
    { a with tracker := a.tracker.press now, now, held := some (a.held.getD now) }
  | .release now =>
    let (action, tracker) := a.tracker.release now
    let longs := a.longs + if action = .long then 1 else 0
    let after := { a with tracker, now, held := none, longs := 0, holds := a.ended now longs }
    -- A triple click stands for the three latest clicks.
    if action = .triple then
      { after with reports := a.reports ++ [(.triple, List.range' (after.clicks.length - 3) 3)] }
    else
      after
  | .poll now =>
    let (action, tracker) := a.tracker.poll now
    let after := { a with tracker, now }
    match action with
    | .long =>
      match a.held with
      | none => { after with stray := a.stray + 1 }
      | some _ => { after with longs := a.longs + 1 }
    | .single => { after with reports := a.reports ++ [(.single, a.pending)] }
    | _ => after

/-- The clock does not run back, and it does not pass an announced deadline before
    the tracker has been polled at it. -/
def Timely (a : Account) (call : Call) : Prop :=
  a.now ≤ call.now ∧ ∀ deadline ∈ a.tracker.nextDeadline, call.now ≤ deadline

/-- No poll finds the window of earlier clicks closed while the key is down again, nor
    a second timer run out for a hold whose long press is already reported. -/
def Spares (a : Account) : Call → Prop
  | .poll now =>
    (a.tracker.downSince.isSome → 0 < a.tracker.clicks → ∀ deadline ∈ a.tracker.deadline, now < deadline) ∧
      (a.tracker.suppressRelease → ∀ start ∈ a.tracker.downSince, now - start < longPress)
  | _ => True

instance (a : Account) (call : Call) : Decidable (Timely a call) :=
  inferInstanceAs (Decidable (_ ∧ _))

instance (a : Account) : (call : Call) → Decidable (Spares a call)
  | .poll _ => inferInstanceAs (Decidable (_ ∧ _))
  | .press _ => isTrue trivial
  | .release _ => isTrue trivial

/-- Every hold has its one long press or none, every click its one report. -/
structure Exact (a : Account) : Prop where
  /-- The reported and the gathered clicks are all clicks, each once. -/
  clicks : a.counted ++ a.pending = List.range a.clicks.length
  /-- What is still gathered has an announced deadline ahead, and the poll at it reports them. -/
  gathered : a.pending ≠ [] → ∃ deadline ∈ a.tracker.deadline, a.now ≤ deadline ∧
    (a.tracker.downSince = none → (a.next (.poll deadline)).counted = List.range a.clicks.length)
  holds : ∀ hold ∈ a.holds, hold.longs = if longPress ≤ hold.finish - hold.start then 1 else 0
  held : ∀ start ∈ a.held, (a.longs = 1 ∧ longPress ≤ a.now - start) ∨ (a.longs = 0 ∧ a.now ≤ start + longPress)
  stray : a.stray = 0

/-! ## What the tracker knows of the key -/

/-- Where the key is, in the tracker's words and in the account's. -/
inductive Phase (a : Account) : Prop where
  | up (held : a.held = none) (longs : a.longs = 0) (timer : a.tracker.downSince = none)
      (heard : a.tracker.suppressRelease = false)
  | down (start : Nat) (held : a.held = some start) (longs : a.longs = 0)
      (timer : a.tracker.downSince = some start) (heard : a.tracker.suppressRelease = false)
      (past : start ≤ a.now) (soon : a.now ≤ start + longPress)
      (after : ∀ deadline ∈ a.tracker.deadline, deadline ≤ start + multiClickGap)
  | reported (start : Nat) (held : a.held = some start) (longs : a.longs = 1)
      (heard : a.tracker.suppressRelease = true) (past : longPress ≤ a.now - start)
      (idle : a.tracker.clicks = 0) (shut : a.tracker.deadline = none)

/-- What every call that spares a held key keeps. -/
structure Kept (a : Account) : Prop where
  phase : Phase a
  tally : a.counted ++ a.pending = List.range a.clicks.length
  few : a.tracker.clicks ≤ 2
  opened : a.tracker.deadline.isSome ↔ 0 < a.tracker.clicks
  window : ∀ deadline ∈ a.tracker.deadline, a.now ≤ deadline ∧ deadline ≤ a.now + multiClickGap
  holds : ∀ hold ∈ a.holds, hold.longs = if longPress ≤ hold.finish - hold.start then 1 else 0
  stray : a.stray = 0

theorem start_kept : Kept {} where
  phase := .up rfl rfl rfl rfl
  tally := rfl
  few := Nat.zero_le 2
  opened := by simp
  window := by simp
  holds := by simp
  stray := rfl

variable {a : Account}

/-- The gathered clicks are among the completed ones. -/
theorem Kept.gathered (kept : Kept a) : a.counted.length + a.tracker.clicks = a.clicks.length := by
  have := congrArg List.length kept.tally
  simpa [pending] using this

/-- An announced deadline is not behind any of the tracker's timers. -/
theorem deadline_bound {now : Nat} (timely : ∀ deadline ∈ tracker.nextDeadline, now ≤ deadline) :
    (∀ start ∈ tracker.downSince, now ≤ start + longPress) ∧ ∀ deadline ∈ tracker.deadline, now ≤ deadline := by
  constructor
  · intro start down
    cases window : tracker.deadline with
    | none => exact timely _ (by simp_all [ClickTracker.nextDeadline])
    | some deadline =>
      have := timely (min (start + longPress) deadline) (by simp_all [ClickTracker.nextDeadline])
      omega
  · intro deadline window
    cases down : tracker.downSince with
    | none => exact timely _ (by simp_all [ClickTracker.nextDeadline])
    | some start =>
      have := timely (min (start + longPress) deadline) (by simp_all [ClickTracker.nextDeadline])
      omega

theorem press_kept {now : Nat} (kept : Kept a) (timely : Timely a (.press now)) : Kept (a.next (.press now)) := by
  obtain ⟨later, ahead⟩ := timely
  obtain ⟨timer, window⟩ := deadline_bound ahead
  simp only [Call.now] at later timer window
  refine ⟨?_, kept.tally, kept.few, kept.opened, ?_, kept.holds, kept.stray⟩
  · cases kept.phase with
    | up held longs timer heard =>
      refine .down now ?_ longs ?_ heard le_rfl (Nat.le_add_right ..) ?_
      · simp [next, held]
      · simp [next, ClickTracker.press, timer]
      · intro deadline opened
        have := (kept.window deadline opened).2
        omega
    | down start held longs since heard past soon after =>
      refine .down start ?_ longs ?_ heard (past.trans later) (timer start since) after
      · simp [next, held]
      · simp [next, ClickTracker.press, since]
    | reported start held longs heard past idle shut =>
      refine .reported start ?_ longs heard ?_ idle shut
      · simp [next, held]
      · simp only [next]
        omega
  · intro deadline opened
    have := (kept.window deadline opened).2
    exact ⟨window deadline opened, this.trans (Nat.add_le_add_right later _)⟩

/-- A click more among the gathered ones, when the tally was right without it. -/
theorem tally_click {counted : List Nat} {clicks gathered : Nat} (among : gathered ≤ clicks)
    (tally : counted ++ List.range' (clicks - gathered) gathered = List.range clicks) :
    counted ++ List.range' (clicks + 1 - (gathered + 1)) (gathered + 1) = List.range (clicks + 1) := by
  have last : clicks - gathered + gathered = clicks := by omega
  rw [Nat.add_sub_add_right, List.range'_concat, ← List.append_assoc, tally, Nat.one_mul, last, List.range_succ]

theorem clicks_ended {now longs start : Nat} (held : a.held = some start) :
    (a.ended now longs).filter Hold.short =
      if now - start < longPress then a.clicks ++ [{ start, finish := now, longs }] else a.clicks := by
  by_cases short : now - start < longPress
  · simp [ended, held, clicks, Hold.short, short]
  · simp [ended, held, clicks, Hold.short, short]

theorem holds_ended (now longs : Nat) {start : Nat} (kept : Kept a) (held : a.held = some start)
    (right : longs = if longPress ≤ now - start then 1 else 0) :
    ∀ hold ∈ a.ended now longs, hold.longs = if longPress ≤ hold.finish - hold.start then 1 else 0 := by
  intro hold member
  simp only [ended, held, List.mem_append, List.mem_singleton] at member
  rcases member with earlier | rfl
  · exact kept.holds hold earlier
  · exact right

/-- The end of a hold whose one long press is reported, when no click is gathered. -/
theorem Kept.long_ended {now start : Nat} (kept : Kept a) (held : a.held = some start)
    (long : longPress ≤ now - start) (idle : a.tracker.clicks = 0) :
    Kept { a with tracker := {}, now, held := none, longs := 0, holds := a.ended now 1 } := by
  have tally := kept.tally
  refine ⟨.up rfl rfl rfl rfl, ?_, Nat.zero_le 2, by simp, by simp, ?_, kept.stray⟩
  · simp only [pending, idle] at tally
    simpa [counted, pending, clicks, clicks_ended held, Nat.not_lt.mpr long] using tally
  · exact holds_ended now 1 kept held (by simp [long])

/-- While a key is down for as long as a long press, no click is gathered any more. -/
theorem Kept.long_idle {now start : Nat} (kept : Kept a) (long : longPress ≤ now - start)
    (after : ∀ deadline ∈ a.tracker.deadline, deadline ≤ start + multiClickGap)
    (window : ∀ deadline ∈ a.tracker.deadline, now ≤ deadline) : a.tracker.deadline = none ∧ a.tracker.clicks = 0 := by
  -- The window of earlier clicks is shorter than a long press, and has been polled at.
  have shut : a.tracker.deadline = none := by
    cases opened : a.tracker.deadline with
    | none => rfl
    | some deadline =>
      have near := after deadline opened
      have ahead := window deadline opened
      simp only [longPress, multiClickGap] at long near
      omega
  have opened := kept.opened
  rw [shut, Option.isSome_none] at opened
  exact ⟨shut, Nat.eq_zero_of_not_pos fun gathered => Bool.noConfusion (opened.mpr gathered)⟩

theorem release_kept {now : Nat} (kept : Kept a) (timely : Timely a (.release now)) : Kept (a.next (.release now)) := by
  obtain ⟨later, ahead⟩ := timely
  obtain ⟨timer, window⟩ := deadline_bound ahead
  simp only [Call.now] at later timer window
  cases kept.phase with
  | up held longs orphan heard =>
    have same : a.next (.release now) = { a with now, held := none, longs := 0 } := by
      simp [next, ClickTracker.release_orphan heard orphan, ended, held]
    rw [same]
    refine ⟨.up rfl rfl orphan heard, kept.tally, kept.few, kept.opened, ?_, kept.holds, kept.stray⟩
    intro deadline opened
    have := (kept.window deadline opened).2
    exact ⟨window deadline opened, this.trans (Nat.add_le_add_right later _)⟩
  | reported start held longs heard past idle shut =>
    have same : a.next (.release now) =
        { a with tracker := {}, now, held := none, longs := 0, holds := a.ended now 1 } := by
      simp [next, ClickTracker.release_heard heard, longs, idle, shut]
    rw [same]
    exact kept.long_ended held (by omega) idle
  | down start held longs down heard past soon after =>
    by_cases long : longPress ≤ now - start
    · obtain ⟨shut, idle⟩ := kept.long_idle long after window
      have same : a.next (.release now) =
          { a with tracker := {}, now, held := none, longs := 0, holds := a.ended now 1 } := by
        simp [next, ClickTracker.release_long heard down long, longs]
      rw [same]
      exact kept.long_ended held long idle
    · have short : now - start < longPress := by omega
      have click := ClickTracker.release_click heard down short window kept.few
      have tally := tally_click (Nat.le.intro (Nat.add_comm .. ▸ kept.gathered)) kept.tally
      have counts : (a.clicks ++ [({ start, finish := now, longs := 0 } : Hold)]).length = a.clicks.length + 1 := by
        simp
      have holds := holds_ended now 0 kept held (by simp [long])
      by_cases third : a.tracker.clicks = 2
      · have same : a.next (.release now) =
            { a with
              tracker := {}, now, held := none, longs := 0, holds := a.ended now 0,
              reports := a.reports ++ [(.triple, List.range' (a.clicks.length + 1 - 3) 3)] } := by
          simp [next, click, third, longs, clicks_ended held, short, clicks]
        rw [same]
        refine ⟨.up rfl rfl rfl rfl, ?_, Nat.zero_le 2, by simp, by simp, holds, kept.stray⟩
        rw [third] at tally
        simpa [counted, pending, clicks, clicks_ended held, short] using tally
      · have same : a.next (.release now) =
            { a with
              tracker := { clicks := a.tracker.clicks + 1, deadline := some (now + multiClickGap) }
              now, held := none, longs := 0, holds := a.ended now 0 } := by
          simp [next, click, third, longs]
        have few := kept.few
        rw [same]
        refine ⟨.up rfl rfl rfl rfl, ?_, ?_, by simp, ?_, holds, kept.stray⟩
        · simpa [counted, pending, clicks, clicks_ended held, short] using tally
        · simp only
          omega
        · simp

/-- A poll that reports nothing only lets the clock go on. -/
theorem Kept.waits {now : Nat} (kept : Kept a) (later : a.now ≤ now) (ahead : ∀ deadline ∈ a.tracker.nextDeadline, now ≤ deadline) :
    Kept { a with now } := by
  obtain ⟨timer, window⟩ := deadline_bound ahead
  refine ⟨?_, kept.tally, kept.few, kept.opened, ?_, kept.holds, kept.stray⟩
  · cases kept.phase with
    | up held longs orphan heard => exact .up held longs orphan heard
    | down start held longs down heard past soon after =>
      exact .down start held longs down heard (past.trans later) (timer start down) after
    | reported start held longs heard past idle shut =>
      exact .reported start held longs heard (past.trans (Nat.sub_le_sub_right later _)) idle shut
  · intro deadline opened
    have := (kept.window deadline opened).2
    exact ⟨window deadline opened, this.trans (Nat.add_le_add_right later _)⟩

theorem next_quiet {now : Nat} (quiet : a.tracker.poll now = (.none, a.tracker)) :
    a.next (.poll now) = { a with now } := by
  simp [next, quiet]

theorem Kept.reports {now : Nat} (kept : Kept a) (up : a.held = none) (longs : a.longs = 0) :
    Kept { a with tracker := {}, now, reports := a.reports ++ [(.single, a.pending)] } := by
  refine ⟨.up up longs rfl rfl, ?_, Nat.zero_le 2, by simp, by simp, kept.holds, kept.stray⟩
  simpa [counted, pending, clicks] using kept.tally

theorem poll_kept {now : Nat} (kept : Kept a) (timely : Timely a (.poll now)) (spares : Spares a (.poll now)) :
    Kept (a.next (.poll now)) := by
  obtain ⟨later, ahead⟩ := timely
  obtain ⟨busy, again⟩ := spares
  obtain ⟨timer, window⟩ := deadline_bound ahead
  cases kept.phase with
  | up held longs orphan heard =>
    by_cases shut : 0 < a.tracker.clicks ∧ ∃ deadline ∈ a.tracker.deadline, deadline ≤ now
    · have same : a.next (.poll now) =
          { a with tracker := {}, now, reports := a.reports ++ [(.single, a.pending)] } := by
        simp [next, ClickTracker.poll_single orphan shut.1 shut.2]
      rw [same]
      exact kept.reports held longs
    · have quiet : a.tracker.poll now = (.none, a.tracker) := by
        refine ClickTracker.poll_quiet (by simp [orphan]) fun gathered deadline opened => ?_
        exact Nat.lt_of_not_le fun past => shut ⟨gathered, deadline, opened, past⟩
      rw [next_quiet quiet]
      exact kept.waits later ahead
  | down start held longs down heard past soon after =>
    by_cases long : longPress ≤ now - start
    · obtain ⟨shut, idle⟩ := kept.long_idle long after window
      have same : a.next (.poll now) = { a with tracker := { suppressRelease := true }, now, longs := 1 } := by
        simp [next, ClickTracker.poll_long down long, held, longs]
      have tally := kept.tally
      rw [same]
      refine ⟨.reported start held rfl rfl long rfl rfl, ?_, Nat.zero_le 2, by simp, by simp, kept.holds, kept.stray⟩
      simpa [counted, pending, clicks, idle] using tally
    · have quiet : a.tracker.poll now = (.none, a.tracker) := by
        refine ClickTracker.poll_quiet ?_ (busy (by simp [down]))
        rw [down]
        rintro _ ⟨⟩
        exact Nat.lt_of_not_le long
      rw [next_quiet quiet]
      exact kept.waits later ahead
  | reported start held longs heard past idle shut =>
    have quiet : a.tracker.poll now = (.none, a.tracker) :=
      ClickTracker.poll_quiet (again heard) (by simp [idle])
    rw [next_quiet quiet]
    exact kept.waits later ahead

theorem next_kept {call : Call} (kept : Kept a) (timely : Timely a call) (spares : Spares a call) : Kept (a.next call) := by
  cases call with
  | press now => exact press_kept kept timely
  | release now => exact release_kept kept timely
  | poll now => exact poll_kept kept timely spares

theorem Kept.exact (kept : Kept a) : Exact a where
  clicks := kept.tally
  gathered := by
    intro some
    have gathered : 0 < a.tracker.clicks := by
      refine Nat.pos_of_ne_zero fun idle => some ?_
      simp [pending, idle]
    obtain ⟨deadline, opened⟩ := Option.isSome_iff_exists.mp (kept.opened.mpr gathered)
    refine ⟨deadline, opened, (kept.window deadline opened).1, fun up => ?_⟩
    simpa [next, ClickTracker.poll_single up gathered ⟨deadline, opened, le_rfl⟩, counted] using kept.tally
  holds := kept.holds
  held := by
    intro start down
    rw [Option.mem_def] at down
    cases kept.phase with
    | up held => rw [held] at down; cases down
    | down since held longs timer heard past soon =>
      rw [held] at down
      cases down
      exact .inr ⟨longs, soon⟩
    | reported since held longs heard past =>
      rw [held] at down
      cases down
      exact .inl ⟨longs, past⟩
  stray := kept.stray

end Account

/-! ## The accounting of a run -/

/-- In every timely run that spares a key held down when a window closes, each hold of
    three seconds has exactly one long press, each shorter one is counted in exactly one
    gesture, and no gesture stands for anything else. -/
theorem gestures_exact (calls : List Call) (timely : Runs.Along Account.next Account.Timely {} calls)
    (spares : Runs.Along Account.next Account.Spares {} calls) : (calls.foldl Account.next {}).Exact := by
  refine Account.Kept.exact (Runs.Along.invariant Account.Kept ?_ Account.start_kept (timely.and spares))
  intro a call kept meets
  exact Account.next_kept kept meets.1 meets.2

namespace Sample

def millis (n : Nat) : Nat := n * 1000000

/-- Two clicks that the poll at 1160 reports, then a key held for four seconds. -/
def evening : List Call :=
  [.press 0, .release (millis 60), .press (millis 300), .release (millis 360), .poll (millis 1160),
    .press (millis 2000), .poll (millis 5000), .release (millis 6000)]

/-- The second press is still on when the window of the first click closes at 860. -/
def overlapping (finish : Nat) : List Call :=
  [.press 0, .release (millis 60), .press (millis 500), .poll (millis 860), .release (millis finish)]

end Sample

theorem gestures_exact_evening :
    (Sample.evening.foldl Account.next {}).Exact ∧
      (Sample.evening.foldl Account.next {}).reports = [(.single, [0, 1])] ∧
      (Sample.evening.foldl Account.next {}).holds.map Hold.longs = [0, 0, 1] :=
  ⟨gestures_exact Sample.evening (by decide) (by decide), by decide, by decide⟩

/-- A short press over the window's end is never counted, and a long one not reported. -/
theorem overlapping_hold_lost :
    (Runs.Along Account.next Account.Timely {} (Sample.overlapping 900) ∧
      ¬((Sample.overlapping 900).foldl Account.next {}).Exact ∧
      ((Sample.overlapping 900).foldl Account.next {}).tracker.nextDeadline = none ∧
      ((Sample.overlapping 900).foldl Account.next {}).clicks.length = 2 ∧
      ((Sample.overlapping 900).foldl Account.next {}).counted = [0]) ∧
    (Runs.Along Account.next Account.Timely {} (Sample.overlapping 4000) ∧
      ¬((Sample.overlapping 4000).foldl Account.next {}).Exact ∧
      ((Sample.overlapping 4000).foldl Account.next {}).holds =
        [⟨0, Sample.millis 60, 0⟩, ⟨Sample.millis 500, Sample.millis 4000, 0⟩]) := by
  refine ⟨⟨by decide, fun exact => ?_, by decide, by decide, by decide⟩, by decide, fun exact => ?_, by decide⟩
  · exact absurd exact.clicks (by decide)
  · exact absurd (exact.holds ⟨Sample.millis 500, Sample.millis 4000, 0⟩ (by decide)) (by decide)

end Remagic.Power
