import Remagic.InputLogs

/-!
# What becomes of a frame

A dispatched frame is dropped for a reason, or it passes every fence and its
packet is sent to the clients of the committed lease.
-/

namespace Remagic.Display
open Brackets
namespace HostState
variable {s : HostState}

/-- The frame's packet, as the clients hear it. -/
def deliveryOf (captured : CapturedInput) : Delivery :=
  let packet := match captured.frame with
    | .pen frame => penPacket frame
    | .touch frame => touchPacket frame
  ⟨packet, captured.contact⟩

theorem deliveryOf_part (captured : CapturedInput) : (deliveryOf captured).part = captured.frame.part := by
  obtain ⟨epoch, frame, contact⟩ := captured
  cases frame with
  | pen frame => cases phase : frame.phase <;> simp [deliveryOf, Delivery.part, penPacket, InputFrame.part, phase]
  | touch frame => cases phase : frame.phase <;> simp [deliveryOf, Delivery.part, touchPacket, InputFrame.part, phase]

/-- Nothing stands between the frame and the clients of the lease. -/
structure Passes (s : HostState) (committed : Option PanelLease) (captured : CapturedInput) (lease : PanelLease) :
    Prop where
  current : captured.epoch = s.inputEpoch
  unprepared : s.preparedForeground = none
  unlocked : s.lock = none
  requested : s.requested = some lease
  committed : committed = some lease

/-- The frame's contact is routed: `u` is the state before the packet is sent. -/
structure Routed (s : HostState) (captured : CapturedInput) (lease : PanelLease) (u : HostState) : Prop where
  surfaces : u.surfaces = s.surfaces
  queues : u.queues = s.queues
  inputEpoch : u.inputEpoch = s.inputEpoch
  opens : captured.frame.part = .opening → ¬ s.Active captured.frame.device ∧
    u.contacts = Function.update s.contacts captured.frame.device captured.contact
  goesOn : captured.frame.part ≠ .opening → s.Active captured.frame.device ∧ u.contacts = s.contacts
  active : ∀ device, u.Active device ↔
    if device = captured.frame.device then captured.frame.part ≠ .closing else s.Active device
  fewer : ∀ device, u.Suppressed device → s.Suppressed device
  unsuppressed : ¬ u.Suppressed captured.frame.device
  alone : s.activeTouches.Nodup → u.activeTouches.Nodup
  owner : ∀ owner last, u.activePen = some (owner, last) → owner = lease

/-- The panel hears of a pen frame before the clients do. -/
theorem Routed.told {captured : CapturedInput} {lease : PanelLease} {u : HostState} (routed : s.Routed captured lease u)
    (command : PanelCommand) : s.Routed captured lease (u.offerPanel command) := by
  rcases offerPanel_spec (s := u) command with refused | accepted
  · rw [refused]
    exact routed
  · rw [accepted]
    have active : ∀ device, (u.sent command).Active device ↔ u.Active device := by rintro (_ | id) <;> exact Iff.rfl
    have suppressed : ∀ device, (u.sent command).Suppressed device ↔ u.Suppressed device := by
      rintro (_ | id) <;> exact Iff.rfl
    exact ⟨routed.surfaces, routed.queues, routed.inputEpoch, routed.opens, routed.goesOn,
      fun device => (active device).trans (routed.active device),
      fun device held => routed.fewer device ((suppressed device).mp held),
      fun held => routed.unsuppressed ((suppressed _).mp held), routed.alone, routed.owner⟩

/-- Why a frame is dropped. -/
inductive Refused (s : HostState) (committed : Option PanelLease) (captured : CapturedInput) : Prop
  | stale (late : captured.epoch ≠ s.inputEpoch)
  | suppressed (fenced : s.Suppressed captured.frame.device)
  | prepared (pending : s.preparedForeground ≠ none)
  | locked (held : s.lock ≠ none)
  | uncommitted (differ : ∀ lease, s.requested = some lease → committed ≠ some lease)
  | inactive (goesOn : captured.frame.part ≠ .opening) (up : ¬ s.Active captured.frame.device)

inductive Dispatched (s : HostState) (committed : Option PanelLease) (captured : CapturedInput) : HostState → Prop
  | dropped (touches : List Int) (pen : Bool) (refused : Refused s committed captured)
      (fewer : ∀ device, ({ s with suppressedTouches := touches, suppressedPen := pen } : HostState).Suppressed device →
        s.Suppressed device) :
      Dispatched s committed captured { s with suppressedTouches := touches, suppressedPen := pen }
  | delivered (lease : PanelLease) (u : HostState) (passes : s.Passes committed captured lease)
      (unfenced : (s.suppressFencedContact captured.frame).1 = false) (routed : s.Routed captured lease u) :
      Dispatched s committed captured (u.sendToKey lease.key (deliveryOf captured)).2

/-- Suppression forgets the contact whose end, or whose successor, it sees. -/
theorem suppressFencedContact_spec (frame : InputFrame) :
    ∃ touches pen, (s.suppressFencedContact frame).2 = { s with suppressedTouches := touches, suppressedPen := pen } ∧
      (∀ device, ({ s with suppressedTouches := touches, suppressedPen := pen } : HostState).Suppressed device →
        s.Suppressed device) ∧
      ((s.suppressFencedContact frame).1 = true → s.Suppressed frame.device) ∧
      ((s.suppressFencedContact frame).1 = false →
        ¬ ({ s with suppressedTouches := touches, suppressedPen := pen } : HostState).Suppressed frame.device) := by
  cases frame with
  | touch touch =>
    unfold suppressFencedContact
    by_cases suppressed : touch.deviceId ∈ s.suppressedTouches
    · have forgets : ∀ device, ({ s with suppressedTouches := s.suppressedTouches.filter fun deviceId =>
          deviceId ≠ touch.deviceId } : HostState).Suppressed device → s.Suppressed device := by
        rintro (_ | id) held
        · exact held
        · exact (List.mem_filter.mp held).1
      simp only [suppressed, if_true]
      cases touch.phase with
      | down => exact ⟨_, _, rfl, fun _ held => held, fun _ => suppressed, nofun⟩
      | move => exact ⟨_, _, rfl, fun _ held => held, fun _ => suppressed, nofun⟩
      | up => exact ⟨_, _, rfl, forgets, fun _ => suppressed, nofun⟩
      | cancel => exact ⟨_, _, rfl, forgets, fun _ => suppressed, nofun⟩
    · simp only [suppressed, if_false]
      exact ⟨_, _, rfl, fun _ held => held, nofun, fun _ => suppressed⟩
  | pen pen =>
    unfold suppressFencedContact
    by_cases suppressed : s.suppressedPen = true
    · have forgets : ∀ device, ({ s with suppressedPen := false } : HostState).Suppressed device → s.Suppressed device := by
        rintro (_ | id) held
        · cases held
        · exact held
      simp only [suppressed, if_true]
      cases pen.phase with
      | down => exact ⟨_, _, rfl, forgets, nofun, fun _ held => by cases held⟩
      | move => exact ⟨_, _, rfl, fun _ held => held, fun _ => suppressed, nofun⟩
      | up => exact ⟨_, _, rfl, forgets, fun _ => suppressed, nofun⟩
      | cancel => exact ⟨_, _, rfl, forgets, fun _ => suppressed, nofun⟩
    · simp only [suppressed, Bool.false_eq_true, if_false]
      exact ⟨_, _, rfl, fun _ held => held, nofun, fun _ => suppressed⟩

section
variable {captured : CapturedInput} {lease : PanelLease}

theorem routeForegroundTouch_spec {touch : TouchFrame} (frame : captured.frame = .touch touch)
    (free : captured.frame.part = .opening → ¬ s.Active captured.frame.device)
    (owner : ∀ owner last, s.activePen = some (owner, last) → owner = lease)
    (unsuppressed : ¬ s.Suppressed captured.frame.device) :
    s.routeForegroundTouch captured = (false, s) ∧ captured.frame.part ≠ .opening ∧ ¬ s.Active captured.frame.device ∨
    ∃ u, s.routeForegroundTouch captured = (true, u) ∧ s.Routed captured lease u := by
  unfold routeForegroundTouch
  rw [frame] at free unsuppressed ⊢
  have ends : captured.frame.part = .closing →
      (s.activeTouches.contains touch.deviceId,
        ({ s with activeTouches := s.activeTouches.filter fun deviceId => deviceId ≠ touch.deviceId } : HostState)) =
          (false, s) ∧ (InputFrame.touch touch).part ≠ .opening ∧ ¬ s.Active (.touch touch.deviceId) ∨
      ∃ u, (s.activeTouches.contains touch.deviceId,
        ({ s with activeTouches := s.activeTouches.filter fun deviceId => deviceId ≠ touch.deviceId } : HostState)) =
          (true, u) ∧ s.Routed captured lease u := by
    intro part
    by_cases active : touch.deviceId ∈ s.activeTouches
    · right
      refine ⟨_, Prod.ext (List.contains_iff_mem.mpr active) rfl, rfl, rfl, rfl, fun opens => by simp [part] at opens,
        fun _ => ?_, ?_, fun _ held => held, by rw [frame]; exact unsuppressed, fun alone => alone.filter _, owner⟩
      · rw [frame]
        exact ⟨active, rfl⟩
      · intro device
        rw [part, frame]
        cases device with
        | pen => simp [Active, InputFrame.device]
        | touch id => by_cases same : id = touch.deviceId <;> simp [Active, InputFrame.device, same]
    · left
      have unchanged : (s.activeTouches.filter fun deviceId => deviceId ≠ touch.deviceId) = s.activeTouches := by
        refine List.filter_eq_self.mpr fun id member => ?_
        simp only [decide_eq_true_eq]
        rintro rfl
        exact active member
      exact ⟨by rw [unchanged]; simp [active], by rw [← frame, part]; simp, active⟩
  simp only
  cases phase : touch.phase with
  | down =>
    have part : captured.frame.part = .opening := by simp [frame, InputFrame.part, phase]
    have up := free (frame ▸ part)
    refine .inr ⟨_, rfl, rfl, rfl, rfl, fun _ => ?_, fun goesOn => absurd part goesOn, ?_, fun _ held => held,
      by rw [frame]; exact unsuppressed, fun alone => alone.insert, owner⟩
    · rw [frame]
      exact ⟨up, rfl⟩
    · intro device
      rw [part, frame]
      cases device with
      | pen => simp [Active, InputFrame.device, route]
      | touch id => by_cases same : id = touch.deviceId <;> simp [Active, InputFrame.device, same]
  | move =>
    have part : captured.frame.part = .inside := by simp [frame, InputFrame.part, phase]
    by_cases active : touch.deviceId ∈ s.activeTouches
    · right
      refine ⟨s, by simp [active], rfl, rfl, rfl, fun opens => by simp [part] at opens, fun _ => ?_, ?_,
        fun _ held => held, by rw [frame]; exact unsuppressed, fun alone => alone, owner⟩
      · rw [frame]
        exact ⟨active, rfl⟩
      · intro device
        rw [part, frame]
        cases device with
        | pen => simp [InputFrame.device]
        | touch id => by_cases same : id = touch.deviceId <;> simp [Active, InputFrame.device, same, active]
    · left
      refine ⟨by simp [active], by rw [← frame, part]; simp, active⟩
  | up => exact ends (by simp [frame, InputFrame.part, phase])
  | cancel => exact ends (by simp [frame, InputFrame.part, phase])

theorem trackPenContact_spec {pen : PenFrame} (frame : captured.frame = .pen pen)
    (free : captured.frame.part = .opening → ¬ s.Active captured.frame.device)
    (owner : ∀ owner last, s.activePen = some (owner, last) → owner = lease)
    (unsuppressed : ¬ s.Suppressed captured.frame.device) :
    s.trackPenContact captured lease = (false, s) ∧ captured.frame.part ≠ .opening ∧ ¬ s.Active captured.frame.device ∨
    ∃ u, s.trackPenContact captured lease = (true, u) ∧ s.Routed captured lease u := by
  unfold trackPenContact
  rw [frame] at free unsuppressed ⊢
  have ends : captured.frame.part = .closing →
      ((s.activePen.any fun active => active.1 = lease : Bool), ({ s with activePen := none } : HostState)) = (false, s) ∧
        (InputFrame.pen pen).part ≠ .opening ∧ ¬ s.Active .pen ∨
      ∃ u, ((s.activePen.any fun active => active.1 = lease : Bool), ({ s with activePen := none } : HostState)) =
        (true, u) ∧ s.Routed captured lease u := by
    intro part
    cases active : s.activePen with
    | none =>
      left
      exact ⟨Prod.ext rfl (by rw [← active]), by rw [← frame, part]; simp, fun up => up active⟩
    | some held =>
      right
      obtain ⟨holder, last⟩ := held
      have mine : holder = lease := owner holder last active
      refine ⟨_, Prod.ext (decide_eq_true mine) rfl, rfl, rfl, rfl, fun opens => by simp [part] at opens, fun _ => ?_,
        ?_, fun _ held => held, by rw [frame]; exact unsuppressed, fun alone => alone, nofun⟩
      · rw [frame]
        exact ⟨by simp [InputFrame.device, Active, active], rfl⟩
      · intro device
        rw [part, frame]
        cases device <;> simp [Active, InputFrame.device]
  simp only
  cases phase : pen.phase with
  | down =>
    have part : captured.frame.part = .opening := by simp [frame, InputFrame.part, phase]
    have up := free (frame ▸ part)
    have inactive : s.activePen = none := by simpa [InputFrame.device, Active] using up
    simp only [inactive]
    refine .inr ⟨_, rfl, rfl, rfl, rfl, fun _ => ?_, fun goesOn => absurd part goesOn, ?_, fun _ held => held,
      by rw [frame]; exact unsuppressed, fun alone => alone, ?_⟩
    · rw [frame]
      exact ⟨up, rfl⟩
    · intro device
      rw [part, frame]
      cases device <;> simp [Active, InputFrame.device, route]
    · rintro holder last held
      cases held
      rfl
  | move =>
    have part : captured.frame.part = .inside := by simp [frame, InputFrame.part, phase]
    cases active : s.activePen with
    | none => exact .inl ⟨rfl, by rw [← frame, part]; simp, by simp [InputFrame.device, Active, active]⟩
    | some held =>
      right
      obtain ⟨holder, last⟩ := held
      have mine : holder = lease := owner holder last active
      refine ⟨_, if_neg (not_not.mpr mine), rfl, rfl, rfl, fun opens => by simp [part] at opens, fun _ => ?_, ?_,
        fun _ held => held, by rw [frame]; exact unsuppressed, fun alone => alone, ?_⟩
      · rw [frame]
        exact ⟨by simp [InputFrame.device, Active, active], rfl⟩
      · intro device
        rw [part, frame]
        cases device <;> simp [Active, InputFrame.device]
      · rintro other later held
        cases held
        exact mine
  | up => exact ends (by simp [frame, InputFrame.part, phase])
  | cancel => exact ends (by simp [frame, InputFrame.part, phase])

end

/-- What becomes of a frame, as long as no contact begins twice. -/
theorem dispatch_spec (committed : Option PanelLease) (captured : CapturedInput)
    (owner : ∀ owner last, s.activePen = some (owner, last) → s.requested = some owner)
    (free : captured.frame.part = .opening → ∀ lease, s.Passes committed captured lease → ¬ s.Active captured.frame.device) :
    Dispatched s committed captured (s.dispatchCapturedInput committed captured).2 := by
  unfold dispatchCapturedInput
  by_cases stale : captured.epoch ≠ s.inputEpoch
  · simp only [stale, ne_eq, not_false_eq_true, if_true]
    exact .dropped s.suppressedTouches s.suppressedPen (.stale stale) fun _ held => held
  simp only [stale, if_false]
  obtain ⟨touches, pen, suppression, fewer, fenced, unfenced⟩ := suppressFencedContact_spec (s := s) captured.frame
  rcases suppressed : s.suppressFencedContact captured.frame with ⟨_ | _, t⟩
  · rw [suppressed] at suppression unfenced
    simp only at suppression ⊢
    have unsuppressed := unfenced rfl
    have dropped : Refused s committed captured → Dispatched s committed captured t := by
      rw [suppression]
      exact fun refused => .dropped touches pen refused fewer
    by_cases pending : t.preparedForeground.isSome = true
    · simp only [pending, if_true]
      refine dropped (.prepared ?_)
      rw [suppression] at pending
      exact Option.isSome_iff_ne_none.mp pending
    simp only [pending, Bool.false_eq_true, if_false]
    by_cases locked : t.lock.isSome = true
    · simp only [locked, if_true]
      refine dropped (.locked ?_)
      rw [suppression] at locked
      exact Option.isSome_iff_ne_none.mp locked
    simp only [locked, Bool.false_eq_true, if_false]
    cases committed with
    | none => exact dropped (.uncommitted nofun)
    | some lease =>
      simp only
      by_cases differ : t.requested ≠ some lease
      · simp only [differ, ne_eq, not_false_eq_true, if_true]
        refine dropped (.uncommitted ?_)
        rintro other requests same
        rw [suppression] at differ
        exact differ (requests.trans same.symm)
      simp only [differ, if_false]
      subst suppression
      have unfenced : (s.suppressFencedContact captured.frame).1 = false := by rw [suppressed]
      have passes : s.Passes (some lease) captured lease :=
        ⟨not_not.mp stale, by simpa using pending, by simpa using locked, not_not.mp differ, rfl⟩
      have free := fun opens => free opens lease passes
      have owner : ∀ holder last, s.activePen = some (holder, last) → holder = lease := fun holder last held =>
        Option.some.inj ((owner holder last held).symm.trans passes.requested)
      have whole : ∀ {u}, Routed { s with suppressedTouches := touches, suppressedPen := pen } captured lease u →
          s.Routed captured lease u := fun routed =>
        ⟨routed.surfaces, routed.queues, routed.inputEpoch, routed.opens, routed.goesOn, routed.active,
          fun device held => fewer device (routed.fewer device held), routed.unsuppressed, routed.alone, routed.owner⟩
      cases frame : captured.frame with
      | touch touch =>
        rcases routeForegroundTouch_spec (s := { s with suppressedTouches := touches, suppressedPen := pen }) frame free
          owner unsuppressed with ⟨stopped, goesOn, up⟩ | ⟨u, goesOn, routed⟩
        · rw [stopped]
          exact dropped (.inactive goesOn up)
        · have tracked : u.trackPenContact captured lease = (true, u) := by simp only [trackPenContact, frame]
          have delivery : deliveryOf captured = ⟨touchPacket touch, captured.contact⟩ := by simp only [deliveryOf, frame]
          simp only [goesOn, tracked, inputPacketFor, deliverInput_state]
          rw [← delivery]
          exact .delivered lease u passes unfenced (whole routed)
      | pen pen' =>
        have routedOn : routeForegroundTouch { s with suppressedTouches := touches, suppressedPen := pen } captured =
            (true, { s with suppressedTouches := touches, suppressedPen := pen }) := by
          simp only [routeForegroundTouch, frame]
        rw [routedOn]
        simp only
        rcases trackPenContact_spec (s := { s with suppressedTouches := touches, suppressedPen := pen }) frame free
          owner unsuppressed with ⟨stopped, goesOn, up⟩ | ⟨u, goesOn, routed⟩
        · rw [stopped]
          exact dropped (.inactive goesOn up)
        · have delivery : deliveryOf captured = ⟨penPacket pen', captured.contact⟩ := by simp only [deliveryOf, frame]
          simp only [goesOn, inputPacketFor, deliverInput_state]
          rw [← delivery]
          exact .delivered lease _ passes unfenced ((whole routed).told (.pen lease pen'))
  · rw [suppressed] at suppression fenced
    simp only at suppression ⊢
    rw [suppression]
    exact .dropped touches pen (.suppressed (fenced rfl)) fewer

end HostState
end Remagic.Display
