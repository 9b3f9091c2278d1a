import Remagic.PowerManager

/-!
# Automatic sleep

The idle loop reserves a sleep by setting the phase to quiescing, and the event
loop's handler hands the device off to Home or gives the attempt up. While the
phase is quiescing no deadline is computed, so an attempt that is given up must
leave another phase behind.
-/

namespace Remagic.PowerPolicy
open Daemon

/-- What a task does to the power manager at an instant. -/
inductive Deed where
  | call (now : Nat) (operation : Operation)
  | plan (now : Nat) (owners : List String)
  | reserve (now : Nat) (owners : List String) (revision : Nat)

def PowerManager.after (p : PowerManager) : Deed → PowerManager
  | .call now operation => p.call now operation.sections
  | .plan now owners => (p.nextPolicyDeadline now owners).2
  | .reserve now owners revision => (p.reserveAutoSleep now owners revision).2

/-- What one call of the handler is given and what it meets: the other tasks' deeds
    during the 75 ms in which it yields and while it parks, and the results of what
    it calls outside the power manager. -/
structure Visit where
  activityRevision : Nat
  interactionEpoch : Nat
  waiting : List Deed := []
  launchInterruptEpoch : Nat
  domain : DomainState
  preparing : List Deed := []
  /-- `park` or `ensure_manager_surface` -/
  prepared : Except String Unit := .ok ()
  /-- `UnixDatagram::unbound` -/
  bound : Except String Unit := .ok ()
  /-- `send_to` -/
  sent : Except String Unit := .ok ()
  now : Nat

inductive Ending where
  | handedOff
  | abandoned (result : Except String Unit)

def PowerManager.cancelQuiescing (p : PowerManager) (now : Nat) : PowerManager :=
  p.call now Operation.cancelQuiescing.sections

/-- The part of `handle_auto_sleep` after `park` or `ensure_manager_surface`. -/
def PowerManager.handOff (p : PowerManager) (visit : Visit) : Ending × PowerManager :=
  match visit.prepared with
  | .error error => (.abandoned (.error error), p)
  | .ok () =>
    if !p.autoSleepIsCurrent visit.activityRevision then (.abandoned (.ok ()), p)
    else
      match visit.bound with
      | .error error => (.abandoned (.error s!"cannot create Home event socket: {error}"), p)
      | .ok () =>
        match visit.sent with
        | .error error =>
          (.abandoned (.error s!"cannot request Home lock rendering: {error}"), p.cancelQuiescing visit.now)
        | .ok () => (.handedOff, p)

/-- The part of `handle_auto_sleep` after the first check. -/
def PowerManager.leave (p : PowerManager) (visit : Visit) : Ending × PowerManager :=
  match visit.domain with
  | .foreground _ => (visit.preparing.foldl PowerManager.after p).handOff visit
  | .manager => (visit.preparing.foldl PowerManager.after p).handOff visit
  -- The source gives two reasons, one for the system and sleeping domains.
  | _ => (.abandoned (.ok ()), p.cancelQuiescing visit.now)

/-- `handle_auto_sleep`. -/
def PowerManager.handleAutoSleep (p : PowerManager) (visit : Visit) : Ending × PowerManager :=
  let waited := visit.waiting.foldl PowerManager.after p
  if visit.launchInterruptEpoch = visit.interactionEpoch ∧ waited.autoSleepIsCurrent visit.activityRevision = true then
    waited.leave visit
  else (.abandoned (.ok ()), waited)

/-- The reservation stands: nothing has lifted the phase. -/
def PowerManager.Standing (p : PowerManager) : Prop := p.runtime.phase = .quiescing

/-- Nothing has superseded the revision that was reserved. -/
def PowerManager.Fresh (p : PowerManager) (revision : Nat) : Prop := p.managed = true ∧ p.activityRevision = revision

/-- If the attempt was given up, another phase is left behind. -/
def Lifted (outcome : Ending × PowerManager) : Prop :=
  ∀ result, outcome.1 = .abandoned result → ¬ outcome.2.Standing

/-- The handler goes on to park the application or to show Home. -/
def Visit.Parks (visit : Visit) : Prop := (∃ app, visit.domain = .foreground app) ∨ visit.domain = .manager

/-- As long as the reservation stands, no request has moved the interrupt epoch and
    the revision is the one that was reserved; and where the handler goes on to
    park, parking succeeds and the socket for the message to Home can be made. -/
def Undisturbed (p : PowerManager) (visit : Visit) : Prop :=
  let waited := visit.waiting.foldl PowerManager.after p
  let prepared := visit.preparing.foldl PowerManager.after waited
  waited.Standing →
    visit.launchInterruptEpoch = visit.interactionEpoch ∧ waited.Fresh visit.activityRevision ∧
      (visit.Parks → prepared.Standing →
        visit.prepared = .ok () ∧ prepared.Fresh visit.activityRevision ∧ visit.bound = .ok ())

section
variable {p : PowerManager} {visit : Visit}

theorem current_iff (revision : Nat) : p.autoSleepIsCurrent revision = true ↔ p.Fresh revision ∧ p.Standing := by
  simp [PowerManager.autoSleepIsCurrent, PowerManager.Fresh, PowerManager.Standing]

theorem not_current {revision : Nat} (stops : ¬ (p.Fresh revision ∧ p.Standing)) :
    p.autoSleepIsCurrent revision = false := by
  rw [Bool.eq_false_iff]
  exact fun current => stops ((current_iff revision).mp current)

theorem cancelled_lifted (now : Nat) : ¬ (p.cancelQuiescing now).Standing := by
  intro standing
  by_cases quiescing : p.runtime.phase = .quiescing
  · simp [PowerManager.Standing, PowerManager.cancelQuiescing, Operation.sections, PowerManager.call,
      PowerManager.perform, Section.locked, quiescing] at standing
  · simp [PowerManager.Standing, PowerManager.cancelQuiescing, Operation.sections, PowerManager.call,
      PowerManager.perform, Section.locked, quiescing] at standing

theorem lifted_cancelled (result : Except String Unit) (now : Nat) : Lifted (.abandoned result, p.cancelQuiescing now) :=
  fun _ _ => cancelled_lifted now

theorem lifted_bare (result : Except String Unit) : Lifted (.abandoned result, p) ↔ ¬ p.Standing := by
  constructor
  · intro lifted
    exact lifted result rfl
  · intro fallen _ _
    exact fallen

theorem lifted_handedOff : Lifted (.handedOff, p) := by
  intro result ended
  cases ended

/-- The second half leaves the reservation standing at a failed parking, at a
    superseded revision and at a missing socket. -/
theorem handOff_lifted :
    Lifted (p.handOff visit) ↔ (p.Standing →
      visit.prepared = .ok () ∧ p.Fresh visit.activityRevision ∧ visit.bound = .ok ()) := by
  unfold PowerManager.handOff
  cases prepared : visit.prepared with
  | error error => simp [lifted_bare]
  | ok _ =>
    by_cases current : p.Fresh visit.activityRevision ∧ p.Standing
    · cases bound : visit.bound with
      | error error => simp [(current_iff _).mpr current, lifted_bare, current.2]
      | ok _ =>
        cases sent : visit.sent with
        | error error => simp [(current_iff _).mpr current, lifted_cancelled, current.1]
        | ok _ => simp [(current_iff _).mpr current, lifted_handedOff, current.1]
    · simp only [not_current current, Bool.not_false, if_true, lifted_bare, true_and]
      constructor
      · intro fallen stands
        exact absurd stands fallen
      · intro kept stands
        exact current ⟨(kept stands).1, stands⟩

theorem leave_lifted :
    Lifted (p.leave visit) ↔ (visit.Parks → (visit.preparing.foldl PowerManager.after p).Standing →
      visit.prepared = .ok () ∧ (visit.preparing.foldl PowerManager.after p).Fresh visit.activityRevision ∧
        visit.bound = .ok ()) := by
  unfold PowerManager.leave Visit.Parks
  cases visit.domain with
  | foreground app => simpa using handOff_lifted
  | manager => simpa using handOff_lifted
  | _ => simp [lifted_cancelled]

end

/-- An abandoned attempt leaves a phase in which the idle policy goes on exactly
    when nothing disturbs it while its reservation stands. -/
theorem abandoned_sleep_rearms_iff (p : PowerManager) (visit : Visit) :
    Lifted (p.handleAutoSleep visit) ↔ Undisturbed p visit := by
  unfold PowerManager.handleAutoSleep Undisturbed
  set waited := visit.waiting.foldl PowerManager.after p
  by_cases goes : visit.launchInterruptEpoch = visit.interactionEpoch ∧ waited.Fresh visit.activityRevision ∧ waited.Standing
  · have current : waited.autoSleepIsCurrent visit.activityRevision = true := (current_iff _).mpr goes.2
    simp only [goes.1, current, and_self, if_true, leave_lifted]
    constructor
    · intro kept _
      exact ⟨trivial, goes.2.1, kept⟩
    · intro kept
      exact (kept goes.2.2).2.2
  · have bare : ¬ (visit.launchInterruptEpoch = visit.interactionEpoch ∧
        waited.autoSleepIsCurrent visit.activityRevision = true) := by
      rintro ⟨same, current⟩
      exact goes ⟨same, (current_iff _).mp current⟩
    simp only [bare, if_false, lifted_bare]
    constructor
    · intro fallen stands
      exact absurd stands fallen
    · intro kept stands
      exact goes ⟨(kept stands).1, (kept stands).2.1, stands⟩

/-- A minute after the domain was entered the sleep is reserved, and parking the
    application fails: the handler returns the error, and no deadline is computed
    from then on. -/
theorem failed_parking_stays_quiescing :
    ∃ (deeds : List Deed) (visit : Visit) (error : String),
      let p := deeds.foldl PowerManager.after (.load 60 0)
      (p.handleAutoSleep visit).1 = .abandoned (.error error) ∧ (p.handleAutoSleep visit).2.Standing ∧
        ((p.handleAutoSleep visit).2.nextPolicyDeadline visit.now []).1 = none ∧ ¬ Lifted (p.handleAutoSleep visit) := by
  refine ⟨[.call 0 .enterManaged, .reserve (fromSecs 60) [] 2],
    { activityRevision := 2, interactionEpoch := 1, launchInterruptEpoch := 1, domain := .foreground ⟨"magicpaper", by decide⟩
      prepared := .error "application did not reach the background", now := fromSecs 60 },
    "application did not reach the background", rfl, rfl, rfl, ?_⟩
  intro lifted
  exact lifted _ rfl rfl

end Remagic.PowerPolicy
