import Remagic.AutoSleep
import Remagic.Runs

/-!
# The reservation of a sleep, among the other tasks

The idle loop, the event loop's handler, the connections that note activity and
hold work leases, and the holder of the transition lock take turns at the
indivisible parts of their operations. Each step of the machine is one such part,
and the number of steps taken dates what is invoked, returned and decided.
-/

namespace Remagic.PowerPolicy
open Daemon

/-- Whoever calls the power manager: the holder of the transition lock, of which
    there is one at a time, or one of any number of tasks. -/
inductive Caller where
  | transition
  | task (number : Nat)
  deriving DecidableEq

/-- Which operations are called under the transition lock. -/
def Operation.transitional : Operation → Bool
  | .enterManaged | .enterStock | .cancelQuiescing | .beginSuspend | .suspended | .externallyBlocked | .resumed
  | .retainedLockResume => true
  | .noteActivity | .beginWork .. | .finishWork .. | .setIdleSuspend .. | .snapshot => false

def Operation.calledBy (operation : Operation) : Caller → Bool
  | .transition => operation.transitional
  | .task _ => !operation.transitional

/-- The operations by which the device comes to be in use. -/
def Operation.wakes : Operation → Bool
  | .noteActivity | .beginWork .. | .resumed => true
  | _ => false

/-- An operation under way: what is left of it, whether it has moved the revision,
    and whether the managed flag turned it away. -/
structure Call where
  operation : Operation
  invoked : Nat
  rest : List Section
  counted : Bool := false
  ignored : Bool := false

structure Returned where
  call : Call
  returned : Nat

/-- A sleep that `reserve_auto_sleep` reserved, and the leases that had not run out then. -/
structure Reservation where
  activityRevision : Nat
  moment : Nat
  leases : List LeaseRecord

/-- A queued `Event::AutoSleep`. -/
structure AutoSleep where
  reservation : Reservation
  interruptEpoch : Nat

/-- Where the idle loop stands. -/
inductive IdleLoop where
  | planning
  | settling
  | timing (secs : Nat)
  | waiting
  | armed (deadline revision : Nat)
  | reserving (revision : Nat)
  | comparing (revision : Nat)
  | admitting (revision : Nat)
  | locking (revision secs : Nat)
  | queueing (reservation : Reservation)
  | sending (event : AutoSleep)
  | cancelling (rest : List Section)
  | stopped

/-- Where `handle_auto_sleep` stands. From the first load of the last check on it
    carries when that check began, and then when it read the revision. -/
inductive Handler where
  | resting
  | yielding (event : AutoSleep)
  | first (event : AutoSleep)
  | firstRevision (event : AutoSleep)
  | firstPhase (event : AutoSleep)
  | routing (event : AutoSleep)
  | parking (event : AutoSleep)
  | second (event : AutoSleep)
  | secondRevision (event : AutoSleep) (checked : Nat)
  | secondPhase (event : AutoSleep) (checked decided : Nat)
  | binding (event : AutoSleep) (checked decided : Nat)
  | sending (event : AutoSleep) (checked decided : Nat)
  | cancelling (rest : List Section)

/-- The device was handed off to Home. -/
structure Handoff where
  reservation : Reservation
  checked : Nat
  decided : Nat

/-- What a step of the idle loop or of the handler meets outside the machine. -/
structure Surroundings where
  owners : List String := []
  received : Bool := true
  domain : DomainState := .manager
  prepared : Bool := true
  bound : Bool := true
  sent : Bool := true

structure State where
  power : PowerManager
  now : Nat
  moment : Nat
  launchInterruptEpoch : Nat
  calls : Caller → Option Call
  returned : List Returned
  idle : IdleLoop
  queue : List AutoSleep
  handler : Handler
  handoffs : List Handoff

/-- The daemon has just been created. -/
def start (idleSuspendSecs now : Nat) : State :=
  { power := .load idleSuspendSecs now
    now
    moment := 0
    launchInterruptEpoch := 1
    calls := fun _ => none
    returned := []
    idle := .planning
    queue := []
    handler := .resting
    handoffs := [] }

inductive Event where
  | invoke (caller : Caller) (operation : Operation)
  | advance (caller : Caller)
  | policy (around : Surroundings)
  | notified
  | attend (around : Surroundings)
  | interrupt
  | elapse (duration : Nat)

/-- The section moves the activity revision. -/
def Section.counts : Section → Bool
  | .count => true
  | _ => false

/-- The section ends its call because the managed flag is off. -/
def Section.refused (power : PowerManager) : Section → Bool
  | .gate => !power.managed
  | _ => false

/-- A call after its next section. -/
def Call.after (call : Call) (power : PowerManager) (part : Section) (rest : List Section) : Call :=
  { call with
    rest := power.remaining part rest
    counted := call.counted || part.counts
    ignored := call.ignored || part.refused power }

def State.advance (s : State) (caller : Caller) (call : Call) : State :=
  match call.rest with
  | [] => { s with calls := Function.update s.calls caller none, returned := ⟨call, s.moment⟩ :: s.returned }
  | part :: rest =>
    { s with
      power := s.power.perform s.now part
      calls := Function.update s.calls caller (some (call.after s.power part rest)) }

/-- A section that the idle loop or the handler runs of its own. -/
def State.run (s : State) (part : Section) : State := { s with power := s.power.perform s.now part }

/-- The idle loop's next step. -/
def State.policy (s : State) (around : Surroundings) : State :=
  match s.idle with
  | .planning => { s with idle := if s.power.managed then .settling else .waiting }
  | .settling =>
    { s with
      idle := if suspendBlockedByExternalWakeLock around.owners || s.power.idleSuspendSecs == 0 then .waiting
        else .timing s.power.idleSuspendSecs }
  | .timing secs =>
    { s with
      power := { s.power with runtime := pruneExpired s.now s.power.runtime }
      idle := match s.power.runtime.deadline s.now secs with
        | some deadline => .armed deadline s.power.activityRevision
        | none => .waiting }
  | .waiting => s
  | .armed deadline revision => if deadline ≤ s.now then { s with idle := .reserving revision } else s
  | .reserving revision => { s with idle := if s.power.managed then .comparing revision else .planning }
  | .comparing revision =>
    { s with idle := if s.power.activityRevision = revision then .admitting revision else .planning }
  | .admitting revision =>
    { s with
      idle := if suspendBlockedByExternalWakeLock around.owners || s.power.idleSuspendSecs == 0 then .planning
        else .locking revision s.power.idleSuspendSecs }
  | .locking revision secs =>
    { s with
      power := { s.power with runtime := s.power.runtime.reserve s.now secs }
      idle := if s.power.runtime.idles s.now secs then
          .queueing ⟨revision, s.moment, live s.now s.power.runtime.leases⟩
        else .planning }
  | .queueing reservation => { s with idle := .sending ⟨reservation, s.launchInterruptEpoch⟩ }
  | .sending event =>
    if around.received then { s with queue := s.queue ++ [event], idle := .planning }
    else { s with idle := .cancelling Operation.cancelQuiescing.sections }
  | .cancelling [] => { s with idle := .stopped }
  | .cancelling (part :: rest) => { s.run part with idle := .cancelling rest }
  | .stopped => s

/-- The handler's next step. -/
def State.attend (s : State) (around : Surroundings) : State :=
  match s.handler with
  | .resting =>
    match s.queue with
    | [] => s
    | event :: rest => { s with queue := rest, handler := .yielding event }
  | .yielding event =>
    { s with handler := if s.launchInterruptEpoch = event.interruptEpoch then .first event else .resting }
  | .first event => { s with handler := if s.power.managed then .firstRevision event else .resting }
  | .firstRevision event =>
    { s with
      handler := if s.power.activityRevision = event.reservation.activityRevision then .firstPhase event
        else .resting }
  | .firstPhase event =>
    { s with handler := if s.power.runtime.phase = .quiescing then .routing event else .resting }
  | .routing event =>
    { s with
      handler := match around.domain with
        | .foreground _ => .parking event
        | .manager => .parking event
        | _ => .cancelling Operation.cancelQuiescing.sections }
  | .parking event => { s with handler := if around.prepared then .second event else .resting }
  | .second event => { s with handler := if s.power.managed then .secondRevision event s.moment else .resting }
  | .secondRevision event checked =>
    { s with
      handler := if s.power.activityRevision = event.reservation.activityRevision then
          .secondPhase event checked s.moment
        else .resting }
  | .secondPhase event checked decided =>
    { s with handler := if s.power.runtime.phase = .quiescing then .binding event checked decided else .resting }
  | .binding event checked decided => { s with handler := if around.bound then .sending event checked decided else .resting }
  | .sending event checked decided =>
    if around.sent then
      { s with handler := .resting, handoffs := ⟨event.reservation, checked, decided⟩ :: s.handoffs }
    else { s with handler := .cancelling Operation.cancelQuiescing.sections }
  | .cancelling [] => { s with handler := .resting }
  | .cancelling (part :: rest) => { s.run part with handler := .cancelling rest }

def State.turn (s : State) : Event → State
  | .invoke caller operation =>
    match s.calls caller with
    | some _ => s
    | none =>
      if operation.calledBy caller then
        { s with calls := Function.update s.calls caller (some ⟨operation, s.moment, operation.sections, false, false⟩) }
      else s
  | .advance caller =>
    match s.calls caller with
    | some call => s.advance caller call
    | none => s
  | .policy around => s.policy around
  -- `changed.notified()` may let the idle loop plan anew wherever it waits.
  | .notified =>
    match s.idle with
    | .waiting => { s with idle := .planning }
    | .armed _ _ => { s with idle := .planning }
    | _ => s
  | .attend around => s.attend around
  | .interrupt => { s with launchInterruptEpoch := s.launchInterruptEpoch + 1 }
  | .elapse duration => { s with now := s.now + duration }

def next (s : State) (event : Event) : State := { s.turn event with moment := s.moment + 1 }

/-! ## What a step does to the calls -/

/-- A step leaves the calls and the managed flag alone, or it begins a call, runs a
    call's next section, or lets a call return. -/
inductive Stirs (s t : State) : Prop where
  | still (calls : t.calls = s.calls) (returned : t.returned = s.returned)
      (managed : t.power.managed = s.power.managed)
      (onward : s.power.activityRevision ≤ t.power.activityRevision)
  | invoked (caller : Caller) (operation : Operation) (free : s.calls caller = none)
      (allowed : operation.calledBy caller = true) (power : t.power = s.power)
      (calls : t.calls = Function.update s.calls caller (some ⟨operation, s.moment, operation.sections, false, false⟩))
      (returned : t.returned = s.returned)
  | advanced (caller : Caller) (call : Call) (part : Section) (rest : List Section) (found : s.calls caller = some call)
      (left : call.rest = part :: rest) (power : t.power = s.power.perform s.now part)
      (calls : t.calls = Function.update s.calls caller (some (call.after s.power part rest)))
      (returned : t.returned = s.returned)
  | returned (caller : Caller) (call : Call) (found : s.calls caller = some call) (left : call.rest = [])
      (power : t.power = s.power) (calls : t.calls = Function.update s.calls caller none)
      (returned : t.returned = ⟨call, s.moment⟩ :: s.returned)

theorem perform_onward (power : PowerManager) (now : Nat) (part : Section) :
    power.activityRevision ≤ (power.perform now part).activityRevision := by
  unfold PowerManager.perform
  cases part with
  | count => exact Nat.le_succ _
  | _ => exact Nat.le_refl _

theorem policy_stirs (s : State) (around : Surroundings)
    (cancels : ∀ part rest, s.idle = .cancelling (part :: rest) → ∀ managed, part ≠ .manage managed) :
    Stirs s (s.policy around) := by
  unfold State.policy
  split
  case h_13 part rest idle =>
    refine .still rfl rfl ?_ (perform_onward ..)
    cases part with
    | manage managed => exact absurd rfl (cancels _ _ idle managed)
    | _ => rfl
  all_goals
    try split
    all_goals exact .still rfl rfl rfl (Nat.le_refl _)

theorem attend_stirs (s : State) (around : Surroundings)
    (cancels : ∀ part rest, s.handler = .cancelling (part :: rest) → ∀ managed, part ≠ .manage managed) :
    Stirs s (s.attend around) := by
  unfold State.attend
  split
  case h_14 part rest handler =>
    refine .still rfl rfl ?_ (perform_onward ..)
    cases part with
    | manage managed => exact absurd rfl (cancels _ _ handler managed)
    | _ => rfl
  all_goals
    try split
    all_goals exact .still rfl rfl rfl (Nat.le_refl _)

/-- The calls that have been made, whether or not they have returned. -/
def State.Made (s : State) (call : Call) : Prop :=
  (∃ caller, s.calls caller = some call) ∨ ∃ done ∈ s.returned, done.call = call

/-- `enter_stock` has cleared the managed flag and is about to move the revision. -/
def State.Unsettled (s : State) : Prop :=
  ∃ call, s.calls .transition = some call ∧ call.rest = [.count, .enteredStock]

/-- A call that wakes the device still has to move the revision, or has done so, or
    was turned away; and only under the transition lock is the managed flag set. -/
structure Shaped (caller : Caller) (call : Call) : Prop where
  owes : call.operation.wakes = true → call.counted = true ∨ call.ignored = true ∨ .count ∈ call.rest
  manages : ∀ managed, .manage managed ∈ call.rest →
    caller = .transition ∧ call.rest = [.manage managed, .count, if managed then .enteredManaged else .enteredStock]

/-- If the reserved revision is still the current one, no call that was made after the
    reservation has moved it, and none has been turned away unless the managed flag is off. -/
structure Calm (reservation : Reservation) (s : State) : Prop where
  past : reservation.activityRevision ≤ s.power.activityRevision
  settled : s.power.activityRevision = reservation.activityRevision → s.power.managed = true ∨ s.Unsettled
  counted : s.power.activityRevision = reservation.activityRevision →
    ∀ call, s.Made call → call.counted = true → call.invoked ≤ reservation.moment
  ignored : s.power.activityRevision = reservation.activityRevision → s.power.managed = true →
    ∀ call, s.Made call → call.ignored = true → call.invoked ≤ reservation.moment

variable {caller : Caller}

theorem shaped_new {operation : Operation} (allowed : operation.calledBy caller = true) (moment : Nat) :
    Shaped caller ⟨operation, moment, operation.sections, false, false⟩ := by
  constructor
  · intro wakes
    refine .inr (.inr ?_)
    cases operation with
    | noteActivity => simp [Operation.sections]
    | beginWork => simp [Operation.sections]
    | resumed => simp [Operation.sections]
    | _ => cases wakes
  · intro managed member
    cases operation with
    | enterManaged =>
      simp only [Operation.sections, List.mem_cons, Section.manage.injEq, reduceCtorEq, List.not_mem_nil, or_false] at member
      subst member
      cases caller with
      | transition => exact ⟨rfl, rfl⟩
      | task number => cases allowed
    | enterStock =>
      simp only [Operation.sections, List.mem_cons, Section.manage.injEq, reduceCtorEq, List.not_mem_nil, or_false] at member
      subst member
      cases caller with
      | transition => exact ⟨rfl, rfl⟩
      | task number => cases allowed
    | finishWork owner leaseId visibleResult => cases visibleResult <;> simp [Operation.sections] at member
    | setIdleSuspend seconds saved =>
      dsimp only [Operation.sections] at member
      split at member
      · simp at member
      · simp at member
    | _ => simp [Operation.sections] at member

variable {power : PowerManager} {rest : List Section} {part : Section}

theorem mem_remaining {part other : Section} (member : other ∈ rest) (admitted : part.refused power = false) :
    other ∈ power.remaining part rest := by
  cases part with
  | gate =>
    have managed : power.managed = true := by simpa [Section.refused] using admitted
    simpa [PowerManager.remaining, managed] using member
  | number => exact List.mem_cons_of_mem _ member
  | _ => exact member

theorem manage_remaining {managed : Bool} (member : .manage managed ∈ power.remaining part rest) :
    .manage managed ∈ rest := by
  cases part with
  | gate =>
    unfold PowerManager.remaining at member
    dsimp only at member
    split at member
    · exact member
    · cases member
  | number =>
    rcases List.mem_cons.mp member with same | later
    · cases same
    · exact later
  | _ => exact member

theorem Shaped.after {call : Call} (shaped : Shaped caller call) (left : call.rest = part :: rest)
    (power : PowerManager) : Shaped caller (call.after power part rest) := by
  constructor
  · intro wakes
    rcases shaped.owes wakes with counted | ignored | member
    · exact .inl (by simp [Call.after, counted])
    · exact .inr (.inl (by simp [Call.after, ignored]))
    · rw [left] at member
      rcases List.mem_cons.mp member with rfl | later
      · exact .inl (by simp [Call.after, Section.counts])
      · cases refused : part.refused power with
        | true => exact .inr (.inl (by simp [Call.after, refused]))
        | false => exact .inr (.inr (mem_remaining later refused))
  · intro managed member
    have later : .manage managed ∈ rest := manage_remaining member
    have whole := (shaped.manages managed (left ▸ List.mem_cons_of_mem _ later)).2
    rw [left] at whole
    obtain ⟨_, tail⟩ := List.cons.inj whole
    rw [tail] at later
    cases managed <;> simp at later

theorem made_update {s t : State} {replaced : Option Call} (calls : t.calls = Function.update s.calls caller replaced)
    (returned : t.returned = s.returned) {call : Call} (made : t.Made call) : replaced = some call ∨ s.Made call := by
  rcases made with ⟨other, found⟩ | ⟨done, member, same⟩
  · rw [calls] at found
    by_cases itself : other = caller
    · subst itself
      exact .inl (by simpa using found)
    · exact .inr (.inl ⟨other, by simpa [itself] using found⟩)
  · exact .inr (.inr ⟨done, returned ▸ member, same⟩)

/-- The transition lock's holder goes on with `enter_stock` as long as it does not step. -/
theorem State.Unsettled.still {s t : State} {replaced : Option Call} (unsettled : s.Unsettled)
    (calls : t.calls = Function.update s.calls caller replaced)
    (other : ∀ call, s.calls caller = some call → call.rest ≠ [.count, .enteredStock]) : t.Unsettled := by
  obtain ⟨call, holds, left⟩ := unsettled
  refine ⟨call, ?_, left⟩
  have apart : Caller.transition ≠ caller := by
    rintro rfl
    exact other call holds left
  simpa [calls, apart] using holds

theorem perform_managed (apart : ∀ managed, part ≠ .manage managed) (now : Nat) :
    (power.perform now part).managed = power.managed := by
  cases part with
  | manage managed => exact absurd rfl (apart managed)
  | _ => rfl

theorem perform_revision (apart : part.counts = false) (now : Nat) :
    (power.perform now part).activityRevision = power.activityRevision := by
  cases part with
  | count => cases apart
  | _ => rfl

variable {reservation : Reservation}

/-- Between an unmanaged and a managed section of the transition lock's holder the revision moves. -/
theorem Calm.managed {s : State} (calm : Calm reservation s)
    (current : s.power.activityRevision = reservation.activityRevision) {call : Call}
    (found : s.calls .transition = some call) (left : call.rest ≠ [.count, .enteredStock]) : s.power.managed = true := by
  rcases calm.settled current with managed | ⟨other, holds, rest⟩
  · exact managed
  · rw [found] at holds
    cases holds
    exact absurd rest left

theorem Calm.advanced {s t : State} (calm : Calm reservation s) {call : Call} (shaped : Shaped caller call)
    (found : s.calls caller = some call) (left : call.rest = part :: rest) (power : t.power = s.power.perform s.now part)
    (calls : t.calls = Function.update s.calls caller (some (call.after s.power part rest)))
    (returned : t.returned = s.returned) : Calm reservation t := by
  have onward := perform_onward s.power s.now part
  rw [← power] at onward
  have made : ∀ other, t.Made other → call.after s.power part rest = other ∨ s.Made other := by
    intro other made
    rcases made_update calls returned made with same | before
    · exact .inl (Option.some.inj same)
    · exact .inr before
  cases counts : part.counts with
  | true =>
    have moved : t.power.activityRevision = s.power.activityRevision + 1 := by
      rw [power]
      cases part <;> first | rfl | cases counts
    have past := calm.past
    refine ⟨by omega, fun current => ?_, fun current => ?_, fun current => ?_⟩ <;> omega
  | false =>
    have same : t.power.activityRevision = s.power.activityRevision := by rw [power, perform_revision counts]
    have waits : ∀ other, s.calls caller = some other → other.rest ≠ [.count, .enteredStock] := by
      intro other holds rest
      rw [found] at holds
      cases holds
      rw [left] at rest
      obtain ⟨rfl, _⟩ := List.cons.inj rest
      cases counts
    -- A managed flag that is on now was on before the section.
    have before : t.power.managed = true → t.power.activityRevision = reservation.activityRevision →
        s.power.managed = true := by
      intro managed current
      by_cases manages : ∃ flag, part = .manage flag
      · obtain ⟨flag, rfl⟩ := manages
        obtain ⟨rfl, _⟩ := shaped.manages flag (by rw [left]; exact List.mem_cons_self ..)
        exact calm.managed (same ▸ current) found (waits call found)
      · rw [power, perform_managed (fun flag is => manages ⟨flag, is⟩)] at managed
        exact managed
    refine ⟨same ▸ calm.past, fun current => ?_, fun current other madeNow counted => ?_,
      fun current managed other madeNow ignored => ?_⟩
    · by_cases manages : ∃ flag, part = .manage flag
      · obtain ⟨flag, rfl⟩ := manages
        obtain ⟨rfl, whole⟩ := shaped.manages flag (by rw [left]; exact List.mem_cons_self ..)
        cases flag with
        | true => exact .inl (by rw [power]; rfl)
        | false =>
          refine .inr ⟨call.after s.power (.manage false) rest, by simp [calls], ?_⟩
          rw [left] at whole
          exact (List.cons.inj whole).2
      · rcases calm.settled (same ▸ current) with managed | unsettled
        · refine .inl ?_
          rw [power, perform_managed (fun flag is => manages ⟨flag, is⟩)]
          exact managed
        · exact .inr (unsettled.still calls waits)
    · rcases made other madeNow with rfl | earlier
      · have already : call.counted = true := by simpa [Call.after, counts] using counted
        exact calm.counted (same ▸ current) call (.inl ⟨caller, found⟩) already
      · exact calm.counted (same ▸ current) other earlier counted
    · have on := before managed current
      rcases made other madeNow with rfl | earlier
      · have admitted : part.refused s.power = false := by
          cases part <;> first | rfl | simp [Section.refused, on]
        have already : call.ignored = true := by simpa [Call.after, admitted] using ignored
        exact calm.ignored (same ▸ current) on call (.inl ⟨caller, found⟩) already
      · exact calm.ignored (same ▸ current) on other earlier ignored

/-- A reservation stays calm, whatever step is taken. -/
theorem Calm.stirs {s t : State} (calm : Calm reservation s)
    (shaped : ∀ caller call, s.calls caller = some call → Shaped caller call) (stirs : Stirs s t) :
    Calm reservation t := by
  have past := calm.past
  cases stirs with
  | still calls returned managed onward =>
    have made : ∀ call, t.Made call → s.Made call := by
      intro call
      simp only [State.Made, calls, returned]
      exact id
    refine ⟨by omega, fun current => ?_, fun current call madeNow => ?_, fun current on call madeNow => ?_⟩
    · rcases calm.settled (by omega) with on | ⟨call, holds, left⟩
      · exact .inl (managed ▸ on)
      · exact .inr ⟨call, calls ▸ holds, left⟩
    · exact calm.counted (by omega) call (made call madeNow)
    · exact calm.ignored (by omega) (managed ▸ on) call (made call madeNow)
  | invoked caller operation free allowed power calls returned =>
    have none_left : ∀ call, s.calls caller = some call → call.rest ≠ [.count, .enteredStock] := by
      intro call holds
      rw [free] at holds
      cases holds
    refine ⟨power ▸ past, fun current => ?_, fun current call madeNow counted => ?_,
      fun current on call madeNow ignored => ?_⟩
    · rcases calm.settled (power ▸ current) with on | unsettled
      · exact .inl (power ▸ on)
      · exact .inr (unsettled.still calls none_left)
    · rcases made_update calls returned madeNow with same | before
      · cases same
        cases counted
      · exact calm.counted (power ▸ current) call before counted
    · rcases made_update calls returned madeNow with same | before
      · cases same
        cases ignored
      · exact calm.ignored (power ▸ current) (power ▸ on) call before ignored
  | advanced caller call part rest found left power calls returned =>
    exact calm.advanced (shaped caller call found) found left power calls returned
  | returned caller call found left power calls returned =>
    have made : ∀ other, t.Made other → s.Made other := by
      rintro other (⟨who, holds⟩ | ⟨done, member, same⟩)
      · rw [calls] at holds
        by_cases itself : who = caller
        · simp [itself] at holds
        · exact .inl ⟨who, by simpa [itself] using holds⟩
      · rw [returned] at member
        rcases List.mem_cons.mp member with rfl | earlier
        · exact .inl ⟨caller, same ▸ found⟩
        · exact .inr ⟨done, earlier, same⟩
    have ended : ∀ other, s.calls caller = some other → other.rest ≠ [.count, .enteredStock] := by
      intro other holds rest
      rw [found] at holds
      cases holds
      rw [left] at rest
      cases rest
    refine ⟨power ▸ past, fun current => ?_, fun current other madeNow => ?_, fun current on other madeNow => ?_⟩
    · rcases calm.settled (power ▸ current) with on | unsettled
      · exact .inl (power ▸ on)
      · exact .inr (unsettled.still calls ended)
    · exact calm.counted (power ▸ current) other (made other madeNow)
    · exact calm.ignored (power ▸ current) (power ▸ on) other (made other madeNow)

theorem Calm.later {reservation other : Reservation} {s : State} (calm : Calm reservation s)
    (same : other.activityRevision = reservation.activityRevision) (order : reservation.moment ≤ other.moment) :
    Calm other s := by
  constructor
  · rw [same]
    exact calm.past
  · rw [same]
    exact calm.settled
  · intro current call made counted
    exact Nat.le_trans (calm.counted (current.trans same) call made counted) order
  · intro current on call made ignored
    exact Nat.le_trans (calm.ignored (current.trans same) on call made ignored) order

/-! ## The invariant -/

/-- A reservation was taken without a live lease, and is calm. -/
structure Sound (s : State) (reservation : Reservation) : Prop where
  unleased : reservation.leases = []
  calm : Calm reservation s

/-- A call that wakes the device and was made after the reservation had not returned
    when the last check began; one that was let through had not when that check read
    the revision. -/
def Clear (handoff : Handoff) (returned : List Returned) : Prop :=
  ∀ done ∈ returned, done.call.operation.wakes = true → handoff.reservation.moment < done.call.invoked →
    handoff.checked ≤ done.returned ∧ (done.call.counted = true → handoff.decided ≤ done.returned)

structure Safe (s : State) (handoff : Handoff) : Prop where
  unleased : handoff.reservation.leases = []
  checked : handoff.checked ≤ s.moment
  decided : handoff.decided ≤ s.moment
  clear : Clear handoff s.returned

def IdleLoop.Holds (s : State) : IdleLoop → Prop
  | .armed _ revision | .reserving revision => revision ≤ s.power.activityRevision
  | .comparing revision | .admitting revision | .locking revision _ =>
    ∃ moment ≤ s.moment, Calm ⟨revision, moment, []⟩ s
  | .queueing reservation => Sound s reservation
  | .sending event => Sound s event.reservation
  | .cancelling rest => ∀ managed, .manage managed ∉ rest
  | .planning | .settling | .timing _ | .waiting | .stopped => True

def Handler.Holds (s : State) : Handler → Prop
  | .resting => True
  | .yielding event | .first event | .firstRevision event | .firstPhase event | .routing event | .parking event
  | .second event => Sound s event.reservation
  | .secondRevision event checked =>
    Sound s event.reservation ∧ checked ≤ s.moment ∧
      (s.power.activityRevision = event.reservation.activityRevision → ∀ done ∈ s.returned,
        done.call.operation.wakes = true → event.reservation.moment < done.call.invoked → checked ≤ done.returned)
  | .secondPhase event checked decided | .binding event checked decided | .sending event checked decided =>
    Safe s ⟨event.reservation, checked, decided⟩
  | .cancelling rest => ∀ managed, .manage managed ∉ rest

structure Kept (s : State) : Prop where
  shaped : ∀ caller call, s.calls caller = some call → Shaped caller call
  begun : ∀ call, s.Made call → call.invoked ≤ s.moment
  ended : ∀ done ∈ s.returned, done.call.operation.wakes = true → done.call.counted = true ∨ done.call.ignored = true
  returned : ∀ done ∈ s.returned, done.returned < s.moment
  idle : s.idle.Holds s
  queue : ∀ event ∈ s.queue, Sound s event.reservation
  handler : s.handler.Holds s
  handoffs : ∀ handoff ∈ s.handoffs, Safe s handoff

theorem start_kept (idleSuspendSecs now : Nat) : Kept (start idleSuspendSecs now) := by
  constructor
  · intro caller call found
    cases found
  · rintro call (⟨caller, found⟩ | ⟨done, member, _⟩)
    · cases found
    · cases member
  · intro done member
    cases member
  · intro done member
    cases member
  · exact trivial
  · intro event member
    cases member
  · exact trivial
  · intro handoff member
    cases member

theorem Stirs.done {s t : State} (step : Stirs s t) : ∀ done ∈ t.returned, done ∈ s.returned ∨
    (∃ caller, s.calls caller = some done.call) ∧ done.call.rest = [] ∧ done.returned = s.moment := by
  intro done member
  cases step with
  | still _ returned _ _ => exact .inl (returned ▸ member)
  | invoked _ _ _ _ _ _ returned => exact .inl (returned ▸ member)
  | advanced _ _ _ _ _ _ _ _ returned => exact .inl (returned ▸ member)
  | returned caller call found left _ _ returned =>
    rw [returned] at member
    rcases List.mem_cons.mp member with rfl | earlier
    · exact .inr ⟨⟨caller, found⟩, left, rfl⟩
    · exact .inl earlier

theorem Stirs.onward {s t : State} (step : Stirs s t) : s.power.activityRevision ≤ t.power.activityRevision := by
  cases step with
  | still _ _ _ onward => exact onward
  | invoked _ _ _ _ power _ _ => exact power ▸ Nat.le_refl _
  | advanced _ _ _ _ _ _ power _ _ => exact power ▸ perform_onward ..
  | returned _ _ _ _ power _ _ => exact power ▸ Nat.le_refl _

section
variable {s t : State} (kept : Kept s) (step : Stirs s t) (later : t.moment = s.moment + 1)
include kept step

theorem Kept.shaped_next : ∀ caller call, t.calls caller = some call → Shaped caller call := by
  intro caller call found
  cases step with
  | still calls _ _ _ => exact kept.shaped caller call (calls ▸ found)
  | invoked other operation _ allowed _ calls _ =>
    rw [calls] at found
    by_cases itself : caller = other
    · subst itself
      rw [Function.update_self] at found
      cases found
      exact shaped_new allowed s.moment
    · exact kept.shaped caller call (by simpa [itself] using found)
  | advanced other running part rest holds left _ calls _ =>
    rw [calls] at found
    by_cases itself : caller = other
    · subst itself
      rw [Function.update_self] at found
      cases found
      exact (kept.shaped _ _ holds).after left s.power
    · exact kept.shaped caller call (by simpa [itself] using found)
  | returned other _ _ _ _ calls _ =>
    rw [calls] at found
    by_cases itself : caller = other
    · simp [itself] at found
    · exact kept.shaped caller call (by simpa [itself] using found)

theorem Kept.ended_next :
    ∀ done ∈ t.returned, done.call.operation.wakes = true → done.call.counted = true ∨ done.call.ignored = true := by
  intro done member wakes
  rcases step.done done member with earlier | ⟨⟨caller, found⟩, left, _⟩
  · exact kept.ended done earlier wakes
  · rcases (kept.shaped caller done.call found).owes wakes with counted | ignored | owed
    · exact .inl counted
    · exact .inr ignored
    · rw [left] at owed
      cases owed

theorem Sound.along (sound : Sound s reservation) : Sound t reservation :=
  ⟨sound.unleased, sound.calm.stirs kept.shaped step⟩

include later

theorem Kept.returned_next : ∀ done ∈ t.returned, done.returned < t.moment := by
  intro done member
  rcases step.done done member with earlier | ⟨_, _, now⟩
  · have := kept.returned done earlier
    omega
  · omega

theorem Kept.begun_next : ∀ call, t.Made call → call.invoked ≤ t.moment := by
  intro call made
  have before : ∀ other, s.Made other → other.invoked ≤ t.moment := by
    intro other earlier
    have := kept.begun other earlier
    omega
  cases step with
  | still calls returned _ _ =>
    refine before call ?_
    simpa only [State.Made, calls, returned] using made
  | invoked caller operation _ _ _ calls returned =>
    rcases made_update calls returned made with same | earlier
    · cases same
      exact later ▸ Nat.le_succ _
    · exact before call earlier
  | advanced caller running part rest found _ _ calls returned =>
    rcases made_update calls returned made with same | earlier
    · cases same
      exact before running (.inl ⟨caller, found⟩)
    · exact before call earlier
  | returned caller running found _ _ calls returned =>
    rcases made with ⟨who, holds⟩ | ⟨done, member, rfl⟩
    · rw [calls] at holds
      by_cases itself : who = caller
      · simp [itself] at holds
      · exact before call (.inl ⟨who, by simpa [itself] using holds⟩)
    · rw [returned] at member
      rcases List.mem_cons.mp member with rfl | earlier
      · exact before running (.inl ⟨caller, found⟩)
      · exact before done.call (.inr ⟨done, earlier, rfl⟩)

omit kept in
theorem Safe.along {handoff : Handoff} (safe : Safe s handoff) : Safe t handoff := by
  have checked := safe.checked
  have decided := safe.decided
  refine ⟨safe.unleased, by omega, by omega, fun done member wakes after => ?_⟩
  rcases step.done done member with earlier | ⟨_, _, now⟩
  · exact safe.clear done earlier wakes after
  · exact ⟨by omega, fun _ => by omega⟩

theorem IdleLoop.Holds.along {idle : IdleLoop} (holds : idle.Holds s) : idle.Holds t := by
  have onward := step.onward
  cases idle with
  | armed _ revision => exact Nat.le_trans holds onward
  | reserving revision => exact Nat.le_trans holds onward
  | comparing revision =>
    obtain ⟨moment, before, calm⟩ := holds
    exact ⟨moment, by omega, calm.stirs kept.shaped step⟩
  | admitting revision =>
    obtain ⟨moment, before, calm⟩ := holds
    exact ⟨moment, by omega, calm.stirs kept.shaped step⟩
  | locking revision _ =>
    obtain ⟨moment, before, calm⟩ := holds
    exact ⟨moment, by omega, calm.stirs kept.shaped step⟩
  | queueing reservation => exact Sound.along kept step holds
  | sending event => exact Sound.along kept step holds
  | cancelling rest => exact holds
  | _ => exact trivial

theorem Handler.Holds.along {handler : Handler} (holds : handler.Holds s) : handler.Holds t := by
  cases handler with
  | resting => exact trivial
  | cancelling rest => exact holds
  | secondRevision event checked =>
    obtain ⟨sound, before, running⟩ := holds
    refine ⟨sound.along kept step, by omega, fun current done member wakes after => ?_⟩
    have onward := step.onward
    have past := sound.calm.past
    rcases step.done done member with earlier | ⟨_, _, now⟩
    · exact running (by omega) done earlier wakes after
    · omega
  | secondPhase event checked decided => exact Safe.along step later holds
  | binding event checked decided => exact Safe.along step later holds
  | sending event checked decided => exact Safe.along step later holds
  | _ => exact Sound.along kept step holds

/-- What a step leaves to be shown of its own: the new places of the two loops. -/
theorem Kept.along (idle : t.idle.Holds t) (queue : ∀ event ∈ t.queue, event ∈ s.queue ∨ Sound t event.reservation)
    (handler : t.handler.Holds t) (handoffs : ∀ handoff ∈ t.handoffs, handoff ∈ s.handoffs ∨ Safe t handoff) :
    Kept t where
  shaped := kept.shaped_next step
  begun := kept.begun_next step later
  ended := kept.ended_next step
  returned := kept.returned_next step later
  idle := idle
  queue := by
    intro event member
    rcases queue event member with earlier | sound
    · exact (kept.queue event earlier).along kept step
    · exact sound
  handler := handler
  handoffs := by
    intro handoff member
    rcases handoffs handoff member with earlier | safe
    · exact (kept.handoffs handoff earlier).along step later
    · exact safe

end

theorem Stirs.dated {s t : State} (step : Stirs s t) (moment : Nat) : Stirs s { t with moment := moment } := by
  cases step with
  | still calls returned managed onward => exact .still calls returned managed onward
  | invoked caller operation free allowed power calls returned =>
    exact .invoked caller operation free allowed power calls returned
  | advanced caller call part rest found left power calls returned =>
    exact .advanced caller call part rest found left power calls returned
  | returned caller call found left power calls returned => exact .returned caller call found left power calls returned

/-- Whatever the idle loop or the handler cancels with leaves the managed flag alone. -/
theorem cancelling_holds : ∀ managed, .manage managed ∉ Operation.cancelQuiescing.sections := by
  simp [Operation.sections]

theorem idles_unleased {runtime : RuntimeState} {now secs : Nat} (idles : runtime.idles now secs = true) :
    live now runtime.leases = [] := by
  simp only [RuntimeState.idles, pruneExpired, Bool.and_eq_true, List.isEmpty_iff] at idles
  exact idles.1.2

/-- The managed flag is on: every call there is was made before now. -/
theorem Kept.calm_now {s : State} (kept : Kept s) {revision : Nat} (past : revision ≤ s.power.activityRevision)
    (managed : s.power.managed = true) : Calm ⟨revision, s.moment, []⟩ s where
  past := past
  settled := fun _ => .inl managed
  counted := fun _ call made _ => kept.begun call made
  ignored := fun _ _ call made _ => kept.begun call made

theorem policy_frame (s : State) (around : Surroundings) :
    (s.policy around).handler = s.handler ∧ (s.policy around).handoffs = s.handoffs := by
  unfold State.policy
  split
  all_goals
    try split
    all_goals exact ⟨rfl, rfl⟩

theorem policy_queue {s : State} (kept : Kept s) (around : Surroundings) :
    ∀ event ∈ (s.policy around).queue, event ∈ s.queue ∨ Sound s event.reservation := by
  intro event member
  have idle := kept.idle
  unfold State.policy at member
  split at member
  case h_11 sent place =>
    rw [place] at idle
    split at member
    · rcases List.mem_append.mp member with earlier | last
      · exact .inl earlier
      · cases List.mem_singleton.mp last
        exact .inr idle
    · exact .inl member
  all_goals
    try split at member
    all_goals exact .inl member

theorem policy_idle {s t : State} (kept : Kept s) (around : Surroundings) (step : Stirs s t)
    (later : t.moment = s.moment + 1) : (s.policy around).idle.Holds t := by
  have idle := kept.idle
  have onward := step.onward
  unfold State.policy
  split
  case h_1 =>
    dsimp only
    split
    · exact trivial
    · exact trivial
  case h_2 =>
    dsimp only
    split
    · exact trivial
    · exact trivial
  case h_3 =>
    dsimp only
    split
    · exact onward
    · exact trivial
  case h_4 place => exact place ▸ trivial
  case h_5 place =>
    rw [place] at idle
    split
    · exact Nat.le_trans idle onward
    · rw [place]
      exact Nat.le_trans idle onward
  case h_6 revision place =>
    rw [place] at idle
    dsimp only
    split
    case isTrue managed => exact ⟨s.moment, by omega, (kept.calm_now idle managed).stirs kept.shaped step⟩
    case isFalse => exact trivial
  case h_7 revision place =>
    rw [place] at idle
    obtain ⟨moment, before, calm⟩ := idle
    dsimp only
    split
    · exact ⟨moment, by omega, calm.stirs kept.shaped step⟩
    · exact trivial
  case h_8 revision place =>
    rw [place] at idle
    obtain ⟨moment, before, calm⟩ := idle
    dsimp only
    split
    · exact trivial
    · exact ⟨moment, by omega, calm.stirs kept.shaped step⟩
  case h_9 revision secs place =>
    rw [place] at idle
    obtain ⟨moment, before, calm⟩ := idle
    dsimp only
    split
    case isTrue idles =>
      have reserved : Calm ⟨revision, s.moment, live s.now s.power.runtime.leases⟩ s := calm.later rfl before
      exact ⟨idles_unleased idles, reserved.stirs kept.shaped step⟩
    case isFalse => exact trivial
  case h_10 reservation place =>
    rw [place] at idle
    exact Sound.along kept step idle
  case h_11 event place =>
    split
    · exact trivial
    · exact cancelling_holds
  case h_12 => exact trivial
  case h_13 part rest place =>
    rw [place] at idle
    exact fun managed member => idle managed (List.mem_cons_of_mem _ member)
  case h_14 place => exact place ▸ trivial

theorem policy_kept {s : State} (kept : Kept s) (around : Surroundings) :
    Kept { s.policy around with moment := s.moment + 1 } := by
  have cancels : ∀ part rest, s.idle = .cancelling (part :: rest) → ∀ managed, part ≠ .manage managed := by
    intro part rest place managed same
    have idle := kept.idle
    rw [place] at idle
    exact idle managed (same ▸ List.mem_cons_self ..)
  have step := (policy_stirs s around cancels).dated (s.moment + 1)
  obtain ⟨handler, handoffs⟩ := policy_frame s around
  refine kept.along step rfl (policy_idle kept around step rfl) ?_ ?_ ?_
  · intro event member
    rcases policy_queue kept around event member with earlier | sound
    · exact .inl earlier
    · exact .inr (sound.along kept step)
  · show (s.policy around).handler.Holds _
    rw [handler]
    exact kept.handler.along kept step rfl
  · intro handoff member
    exact .inl (handoffs ▸ member)

theorem attend_frame (s : State) (around : Surroundings) :
    (s.attend around).idle = s.idle ∧ ∀ event ∈ (s.attend around).queue, event ∈ s.queue := by
  unfold State.attend
  split
  case h_1 =>
    split
    · exact ⟨rfl, fun _ => id⟩
    case h_2 event rest queue => exact ⟨rfl, fun _ member => queue ▸ List.mem_cons_of_mem _ member⟩
  all_goals
    try split
    all_goals exact ⟨rfl, fun _ => id⟩

/-- At the last check's first load the managed flag is on: whoever was turned away or
    has moved the revision was called before the reservation. -/
theorem second_checked {s t : State} (kept : Kept s) (step : Stirs s t) (later : t.moment = s.moment + 1)
    {event : AutoSleep} (sound : Sound s event.reservation) (managed : s.power.managed = true) :
    (Handler.secondRevision event s.moment).Holds t := by
  refine ⟨sound.along kept step, by omega, fun current done member wakes after => ?_⟩
  have onward := step.onward
  have past := sound.calm.past
  have before : s.power.activityRevision = event.reservation.activityRevision :=
    Nat.le_antisymm (current ▸ onward) past
  rcases step.done done member with earlier | ⟨_, _, now⟩
  · exfalso
    have made : s.Made done.call := .inr ⟨done, earlier, rfl⟩
    rcases kept.ended done earlier wakes with counted | ignored
    · exact absurd (sound.calm.counted before done.call made counted) (Nat.not_le_of_lt after)
    · exact absurd (sound.calm.ignored before managed done.call made ignored) (Nat.not_le_of_lt after)
  · omega

theorem second_decided {s t : State} (step : Stirs s t) (later : t.moment = s.moment + 1) {event : AutoSleep}
    {checked : Nat} (place : (Handler.secondRevision event checked).Holds s)
    (current : s.power.activityRevision = event.reservation.activityRevision) :
    Safe t ⟨event.reservation, checked, s.moment⟩ := by
  obtain ⟨sound, before, running⟩ := place
  have decided : s.moment ≤ t.moment := by omega
  refine ⟨sound.unleased, Nat.le_trans before decided, decided, fun done member wakes after => ?_⟩
  rcases step.done done member with earlier | ⟨_, _, now⟩
  · refine ⟨running current done earlier wakes after, fun counted => ?_⟩
    exact absurd (sound.calm.counted current done.call (.inr ⟨done, earlier, rfl⟩) counted) (Nat.not_le_of_lt after)
  · rw [now]
    exact ⟨before, fun _ => Nat.le_refl _⟩

theorem attend_handler {s t : State} (kept : Kept s) (around : Surroundings) (step : Stirs s t)
    (later : t.moment = s.moment + 1) : (s.attend around).handler.Holds t := by
  have old := kept.handler
  have place := kept.handler.along kept step later
  unfold State.attend
  split
  case h_1 resting =>
    split
    · exact place
    case h_2 event rest queue =>
      exact (kept.queue event (queue ▸ List.mem_cons_self ..)).along kept step
  case h_8 event second =>
    rw [second] at old
    dsimp only
    split
    case isTrue managed => exact second_checked kept step later old managed
    case isFalse => exact trivial
  case h_9 event checked second =>
    rw [second] at old
    dsimp only
    split
    case isTrue current => exact second_decided step later old current
    case isFalse => exact trivial
  case h_14 part rest cancelling =>
    rw [cancelling] at old
    exact fun managed member => old managed (List.mem_cons_of_mem _ member)
  case h_13 => exact trivial
  all_goals
    rename_i standing
    rw [standing] at place
    try dsimp only
    split
    all_goals first | exact place | exact trivial | exact cancelling_holds

theorem attend_handoffs {s : State} (kept : Kept s) (around : Surroundings) :
    ∀ handoff ∈ (s.attend around).handoffs, handoff ∈ s.handoffs ∨ Safe s handoff := by
  intro handoff member
  have old := kept.handler
  unfold State.attend at member
  split at member
  case h_12 event checked decided place =>
    rw [place] at old
    split at member
    · rcases List.mem_cons.mp member with rfl | earlier
      · exact .inr old
      · exact .inl earlier
    · exact .inl member
  all_goals
    try split at member
    all_goals exact .inl member

theorem attend_kept {s : State} (kept : Kept s) (around : Surroundings) :
    Kept { s.attend around with moment := s.moment + 1 } := by
  have cancels : ∀ part rest, s.handler = .cancelling (part :: rest) → ∀ managed, part ≠ .manage managed := by
    intro part rest place managed same
    have handler := kept.handler
    rw [place] at handler
    exact handler managed (same ▸ List.mem_cons_self ..)
  have step := (attend_stirs s around cancels).dated (s.moment + 1)
  obtain ⟨idle, queue⟩ := attend_frame s around
  refine kept.along step rfl ?_ ?_ (attend_handler kept around step rfl) ?_
  · show (s.attend around).idle.Holds _
    rw [idle]
    exact kept.idle.along kept step rfl
  · intro event member
    exact .inl (queue event member)
  · intro handoff member
    rcases attend_handoffs kept around handoff member with earlier | safe
    · exact .inl earlier
    · exact .inr (safe.along step rfl)

/-- A step that is neither loop's leaves both where they stand. -/
theorem Kept.aside {s t : State} (kept : Kept s) (step : Stirs s t) (later : t.moment = s.moment + 1)
    (idle : t.idle = s.idle) (queue : t.queue = s.queue) (handler : t.handler = s.handler)
    (handoffs : t.handoffs = s.handoffs) : Kept t := by
  refine kept.along step later ?_ ?_ ?_ ?_
  · rw [idle]
    exact kept.idle.along kept step later
  · intro event member
    exact .inl (queue ▸ member)
  · rw [handler]
    exact kept.handler.along kept step later
  · intro handoff member
    exact .inl (handoffs ▸ member)

theorem next_kept (s : State) (event : Event) (kept : Kept s) : Kept (next s event) := by
  have rests : Stirs s { s with moment := s.moment + 1 } := .still rfl rfl rfl (Nat.le_refl _)
  cases event with
  | invoke caller operation =>
    unfold next State.turn
    dsimp only
    cases free : s.calls caller with
    | some call => exact kept.aside rests rfl rfl rfl rfl rfl
    | none =>
      cases allowed : operation.calledBy caller with
      | false => exact kept.aside rests rfl rfl rfl rfl rfl
      | true => exact kept.aside (.invoked caller operation free allowed rfl rfl rfl) rfl rfl rfl rfl rfl
  | advance caller =>
    unfold next State.turn
    dsimp only
    cases found : s.calls caller with
    | none => exact kept.aside rests rfl rfl rfl rfl rfl
    | some call =>
      dsimp only
      unfold State.advance
      cases left : call.rest with
      | nil => exact kept.aside (.returned caller call found left rfl rfl rfl) rfl rfl rfl rfl rfl
      | cons part rest => exact kept.aside (.advanced caller call part rest found left rfl rfl rfl) rfl rfl rfl rfl rfl
  | policy around => exact policy_kept kept around
  | notified =>
    have step : Stirs s { s with idle := .planning, moment := s.moment + 1 } := .still rfl rfl rfl (Nat.le_refl _)
    have planned : Kept { s with idle := .planning, moment := s.moment + 1 } :=
      kept.along step rfl trivial (fun _ member => .inl member) (kept.handler.along kept step rfl)
        fun _ member => .inl member
    unfold next State.turn
    dsimp only
    split
    · exact planned
    · exact planned
    · exact kept.aside rests rfl rfl rfl rfl rfl
  | attend around => exact attend_kept kept around
  | interrupt => exact kept.aside (.still rfl rfl rfl (Nat.le_refl _)) rfl rfl rfl rfl rfl
  | elapse duration => exact kept.aside (.still rfl rfl rfl (Nat.le_refl _)) rfl rfl rfl rfl rfl

theorem run_kept (idleSuspendSecs now : Nat) (events : List Event) :
    Kept (events.foldl next (start idleSuspendSecs now)) :=
  Runs.run_invariant next_kept events (start_kept idleSuspendSecs now)

/-- The device is handed off to Home on the strength of a reservation that was taken
    without a live lease, and no activity note, work lease or resume that was called
    after it had returned when the handler's last check began, nor, if it was let
    through, when that check read the revision. -/
theorem handed_off_undisturbed (idleSuspendSecs now : Nat) (events : List Event) (handoff : Handoff)
    (member : handoff ∈ (events.foldl next (start idleSuspendSecs now)).handoffs) :
    handoff.reservation.leases = [] ∧ Clear handoff (events.foldl next (start idleSuspendSecs now)).returned := by
  have safe := (run_kept idleSuspendSecs now events).handoffs handoff member
  exact ⟨safe.unleased, safe.clear⟩

/-- A minute of rest in the managed domain, and a touch that is noted while the last
    check is under way. -/
def Sample.evening : List Event :=
  .invoke .transition .enterManaged :: List.replicate 4 (.advance .transition) ++ List.replicate 3 (.policy {}) ++
    .elapse (fromSecs 60) :: List.replicate 7 (.policy {}) ++ List.replicate 9 (.attend {}) ++
    .invoke (.task 0) .noteActivity :: .attend {} :: List.replicate 4 (.advance (.task 0)) ++
    List.replicate 2 (.attend {})

theorem handed_off_undisturbed_evening :
    ∃ handoff done, handoff ∈ (Sample.evening.foldl next (start 60 0)).handoffs ∧
      done ∈ (Sample.evening.foldl next (start 60 0)).returned ∧ done.call.operation.wakes = true ∧
      handoff.reservation.leases = [] ∧ handoff.decided ≤ done.returned :=
  ⟨⟨⟨2, 13, []⟩, 23, 24⟩, ⟨⟨.noteActivity, 25, [], true, false⟩, 30⟩, List.mem_singleton.mpr rfl,
    List.mem_cons_self .., rfl, (handed_off_undisturbed 60 0 Sample.evening _ (List.mem_singleton.mpr rfl)).1,
    ((handed_off_undisturbed 60 0 Sample.evening _ (List.mem_singleton.mpr rfl)).2 _ (List.mem_cons_self ..) rfl
      (by decide)).2 rfl⟩

end Remagic.PowerPolicy
