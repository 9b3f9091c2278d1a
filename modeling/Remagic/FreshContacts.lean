import Remagic.InputFence

/-!
# Fresh contacts

A fence suppresses the contacts that it ends until their release is seen. The
release of a touch that was captured before the fence is stale when it is
dispatched, and then the touch's id stays suppressed; the pen is free again with
its next contact. So a contact that is made after the fence goes through if its
id is free, or a release that frees it waits in the channel before it.
-/

namespace Remagic.Display
open Brackets

/-! ## What lifts a suppression -/

variable {captured : CapturedInput} {frame : InputFrame}

namespace HostState
variable {s t u : HostState}

/-- A step within an input epoch: it suppresses nothing more. -/
structure Eased (s t : HostState) : Prop where
  inputEpoch : t.inputEpoch = s.inputEpoch
  suppressed : ∀ device, t.Suppressed device → s.Suppressed device

theorem Eased.of_eq (inputEpoch : t.inputEpoch = s.inputEpoch) (touches : t.suppressedTouches = s.suppressedTouches)
    (pen : t.suppressedPen = s.suppressedPen) : s.Eased t := by
  refine ⟨inputEpoch, fun device held => ?_⟩
  cases device with
  | pen => exact pen.symm.trans held
  | touch id =>
    simp only [Suppressed, touches] at held
    exact held

theorem Eased.refl (s : HostState) : s.Eased s := ⟨rfl, fun _ held => held⟩

theorem Eased.trans (first : s.Eased t) (second : t.Eased u) : s.Eased u :=
  ⟨second.inputEpoch.trans first.inputEpoch, fun device held => first.suppressed device (second.suppressed device held)⟩

theorem fence_epoch (s : HostState) : s.fenceInputContacts.inputEpoch = s.inputEpoch + 1 := by
  obtain ⟨surfaces, queues, backpressure, commands, _, _, same⟩ := fence_frame s
  rw [same]
  rfl

theorem Operated.eased {cancelled : Nat} (operated : Operated cancelled s t) : s.Eased t ∨ s.inputEpoch < t.inputEpoch := by
  have raised : ∀ {before after : HostState}, after.inputEpoch = before.fenceInputContacts.inputEpoch →
      before.inputEpoch = s.inputEpoch → s.inputEpoch < after.inputEpoch := by
    intro before after fenced same
    have raises := fence_epoch before
    omega
  cases operated with
  | idle => exact .inl (.refl s)
  | shown lease command unlocked shows kind => exact .inl (.of_eq rfl rfl rfl)
  | inked foreground enabled region unlocked shows => exact .inl (.of_eq rfl rfl rfl)
  | held lock command locked kind => exact .inl (.of_eq rfl rfl rfl)
  | switched lease fullRefresh unlocked admits => exact .inr (raised rfl rfl)
  | prepared lease unlocked admits => exact .inr (raised rfl rfl)
  | activated lease inkEnabled fullRefresh unlocked prepared => exact .inl (.of_eq rfl rfl rfl)
  | withdrawn unlocked => exact .inl (.of_eq rfl rfl rfl)
  | cleared lease unlocked shows => exact .inr (raised rfl rfl)
  | locked lease sleepEpoch unlocked unprepared newer admits => exact .inr (raised rfl rfl)
  | finished lock locked acknowledged => exact .inr (raised rfl rfl)

theorem departed_eased (key : Int) (told : Bool) : s.Eased (s.departed key told) := by
  unfold departed
  cases told <;> exact .of_eq rfl rfl rfl

theorem Departs.eased {client : Nat} {key : Int} (departs : Departs s client key t) :
    s.Eased t ∨ s.inputEpoch < t.inputEpoch := by
  cases departs with
  | absent unregistered => exact .inl (.refl s)
  | shared entry clients registered others kept => exact .inl (.of_eq rfl rfl rfl)
  | hidden entry told registered last stays => exact .inl (departed_eased key told)
  | stuck entry told lease registered last clears =>
    right
    have raises := fence_epoch (s.departed key told)
    have same := (departed_eased (s := s) key told).inputEpoch
    show s.inputEpoch < (s.departed key told).fenceInputContacts.inputEpoch
    omega
  | cleared entry told lease registered last clears =>
    right
    have raises := fence_epoch (s.departed key told)
    have again := fence_epoch ((s.departed key told).fenceInputContacts.sent (.clearForeground lease))
    have same := (departed_eased (s := s) key told).inputEpoch
    have sent : ((s.departed key told).fenceInputContacts.sent (.clearForeground lease)).inputEpoch =
      (s.departed key told).fenceInputContacts.inputEpoch := rfl
    show s.inputEpoch <
      ((s.departed key told).fenceInputContacts.sent (.clearForeground lease)).fenceInputContacts.inputEpoch
    omega

/-! Routing and sending a frame leave the suppression alone. -/

theorem routeForegroundTouch_eased (captured : CapturedInput) : s.Eased (s.routeForegroundTouch captured).2 := by
  obtain ⟨touches, contacts, same⟩ := routeForegroundTouch_frame (s := s) captured
  rw [same]
  exact .of_eq rfl rfl rfl

theorem trackPenContact_eased (captured : CapturedInput) (lease : PanelLease) :
    s.Eased (s.trackPenContact captured lease).2 := by
  obtain ⟨surfaces, queues, backpressure, commands, active, contacts, _, _, same⟩ :=
    trackPenContact_frame (s := s) captured lease
  rw [same]
  exact .of_eq rfl rfl rfl

theorem inputPacketFor_eased (lease : PanelLease) (frame : InputFrame) : s.Eased (s.inputPacketFor lease frame).2 := by
  obtain ⟨commands, _, same⟩ := inputPacketFor_frame (s := s) lease frame
  rw [same]
  exact .of_eq rfl rfl rfl

theorem sendToKey_eased (key : Int) (delivery : Delivery) : s.Eased (s.sendToKey key delivery).2 := by
  obtain ⟨surfaces, queues, backpressure, _, same⟩ := sendToKey_frame s key delivery
  rw [same]
  exact .of_eq rfl rfl rfl

theorem dispatch_stale {committed : Option PanelLease} (stale : captured.epoch ≠ s.inputEpoch) :
    (s.dispatchCapturedInput committed captured).2 = s := by
  simp [dispatchCapturedInput, stale]

/-- Of a current frame only the check for suppressed contacts changes the suppression. -/
theorem dispatch_current (committed : Option PanelLease) (current : captured.epoch = s.inputEpoch) :
    (s.suppressFencedContact captured.frame).2.Eased (s.dispatchCapturedInput committed captured).2 := by
  unfold dispatchCapturedInput
  simp only [current, ne_eq, not_true_eq_false, if_false]
  rcases s.suppressFencedContact captured.frame with ⟨fenced, t⟩
  cases fenced with
  | true => exact .refl t
  | false =>
    simp only
    split
    · exact .refl t
    split
    · exact .refl t
    cases committed with
    | none => exact .refl t
    | some lease =>
      simp only
      split
      · exact .refl t
      have routed : t.Eased (t.routeForegroundTouch captured).2 := routeForegroundTouch_eased captured
      rcases routing : t.routeForegroundTouch captured with ⟨touched, u⟩
      rw [routing] at routed
      cases touched with
      | false => exact routed
      | true =>
        simp only
        have tracked : u.Eased (u.trackPenContact captured lease).2 := trackPenContact_eased captured lease
        rcases tracking : u.trackPenContact captured lease with ⟨valid, v⟩
        rw [tracking] at tracked
        cases valid with
        | false => exact routed.trans tracked
        | true =>
          simp only [deliverInput_state]
          exact (routed.trans tracked).trans ((inputPacketFor_eased lease captured.frame).trans (sendToKey_eased lease.key _))

theorem dispatch_eased (committed : Option PanelLease) (captured : CapturedInput) :
    s.Eased (s.dispatchCapturedInput committed captured).2 := by
  by_cases stale : captured.epoch ≠ s.inputEpoch
  · rw [dispatch_stale stale]
    exact .refl s
  · have current := not_not.mp stale
    refine .trans ?_ (dispatch_current committed current)
    obtain ⟨touches, pen, same, fewer, _, _⟩ := suppressFencedContact_spec (s := s) captured.frame
    rw [same]
    exact ⟨rfl, fewer⟩

end HostState

/-- The frame ends its device's suppression: the release does, and a new contact of the pen. -/
def InputFrame.Lifts (frame : InputFrame) : Prop :=
  frame.part = .closing ∨ frame.device = .pen ∧ frame.part = .opening

namespace HostState
variable {s : HostState}

theorem suppressFencedContact_lifts (lifts : frame.Lifts) :
    ¬ (s.suppressFencedContact frame).2.Suppressed frame.device := by
  cases frame with
  | touch touch =>
    unfold suppressFencedContact
    by_cases suppressed : touch.deviceId ∈ s.suppressedTouches
    · simp only [suppressed, if_true]
      rcases lifts with closes | ⟨pen, _⟩
      · cases phase : touch.phase <;> simp [InputFrame.part, phase] at closes <;>
          simp [Suppressed, InputFrame.device]
      · cases pen
    · simp only [suppressed, if_false]
      exact suppressed
  | pen pen =>
    unfold suppressFencedContact
    by_cases suppressed : s.suppressedPen = true
    · simp only [suppressed, if_true]
      cases phase : pen.phase with
      | move =>
        rcases lifts with closes | ⟨_, opens⟩
        · simp [InputFrame.part, phase] at closes
        · simp [InputFrame.part, phase] at opens
      | down | up | cancel => simp [Suppressed, InputFrame.device]
    · simp only [suppressed, Bool.false_eq_true, if_false]
      exact suppressed

/-- What is dropped by the suppression is suppressed, and no contact of the pen's beginning. -/
theorem suppressFencedContact_drops (drops : (s.suppressFencedContact frame).1 = true) :
    s.Suppressed frame.device ∧ ¬ (frame.device = .pen ∧ frame.part = .opening) := by
  obtain ⟨_, _, _, _, fenced, _⟩ := suppressFencedContact_spec (s := s) frame
  refine ⟨fenced drops, ?_⟩
  rintro ⟨isPen, opens⟩
  cases frame with
  | touch touch => cases isPen
  | pen pen =>
    cases phase : pen.phase <;> simp [InputFrame.part, phase] at opens
    simp only [suppressFencedContact, phase] at drops
    split at drops <;> cases drops

end HostState

/-! ## What waits before a fresh frame -/

namespace InputState
variable {s t : InputState} {reached : Device → Option Nat} {owner : Nat → Device} {fresh fresh' : Nat → Option Nat}
  {device : Device}

/-- When the frame is dispatched the device is free, unless a fence comes first. -/
structure Frees (s : InputState) (device : Device) (captured : CapturedInput) : Prop where
  device : captured.frame.device = device
  current : captured.epoch = s.host.inputEpoch
  lifts : captured.frame.Lifts

/-- The contact began in this input epoch. -/
def IsFresh (s : InputState) (fresh : Nat → Option Nat) (contact : Nat) : Prop :=
  fresh contact = some s.host.inputEpoch

/-- Before each frame that the suppression could take from a fresh contact of the
    device, another waits that frees the device; `down` is the frame to come. -/
structure Cleared (s : InputState) (fresh : Nat → Option Nat) (device : Device) : Prop where
  waiting : ∀ before captured after, s.channel device = before ++ captured :: after → captured.frame.device = device →
    s.IsFresh fresh captured.contact → ¬ (device = .pen ∧ captured.frame.part = .opening) → s.host.Suppressed device →
    ∃ other ∈ before, s.Frees device other
  down : ∀ contact, s.down device = some contact → s.IsFresh fresh contact → s.host.Suppressed device →
    ∃ other ∈ s.channel device, s.Frees device other

structure FreshSound (s : InputState) (fresh : Nat → Option Nat) : Prop where
  streams : ∃ reached owner, s.StreamsSound reached owner
  marked : ∀ contact epoch, fresh contact = some epoch → contact < s.contacts ∧ epoch ≤ s.host.inputEpoch
  cleared : ∀ device, s.Cleared fresh device

/-- The head of the channel of a fresh contact is not suppressed. -/
theorem FreshSound.head_passes (sound : s.FreshSound fresh) {rest : List CapturedInput}
    (queue : s.channel captured.frame.device = captured :: rest) (isFresh : s.IsFresh fresh captured.contact) :
    (s.host.suppressFencedContact captured.frame).1 = false := by
  by_contra drops
  obtain ⟨suppressed, notPen⟩ := HostState.suppressFencedContact_drops (Bool.not_eq_false _ ▸ drops)
  obtain ⟨other, member, _⟩ :=
    (sound.cleared captured.frame.device).waiting [] captured rest queue rfl isFresh notPen suppressed
  cases member

/-! ## Steps beside the channels -/

theorem FreshSound.eased (sound : s.FreshSound fresh) (eased : s.host.Eased t.host) (penInput : t.penInput = s.penInput)
    (touchInput : t.touchInput = s.touchInput) (down : t.down = s.down) (contacts : t.contacts = s.contacts) :
    t.FreshSound fresh := by
  have channel := channel_eq penInput touchInput
  have isFresh : ∀ contact, t.IsFresh fresh contact → s.IsFresh fresh contact := fun contact is =>
    is.trans (congrArg some eased.inputEpoch)
  have frees : ∀ {device captured}, s.Frees device captured → t.Frees device captured := fun frees =>
    ⟨frees.device, frees.current.trans eased.inputEpoch.symm, frees.lifts⟩
  obtain ⟨reached, owner, streams⟩ := sound.streams
  refine ⟨⟨reached, owner, streams.still penInput touchInput down contacts eased.inputEpoch.ge⟩, ?_, fun device => ⟨?_, ?_⟩⟩
  · intro contact epoch marked
    rw [contacts, eased.inputEpoch]
    exact sound.marked contact epoch marked
  · intro before captured after split mine is notPen suppressed
    rw [channel] at split
    obtain ⟨other, member, lifts⟩ := (sound.cleared device).waiting before captured after split mine
      (isFresh _ is) notPen (eased.suppressed device suppressed)
    exact ⟨other, member, frees lifts⟩
  · intro contact holds is suppressed
    rw [down] at holds
    obtain ⟨other, member, lifts⟩ := (sound.cleared device).down contact holds (isFresh _ is)
      (eased.suppressed device suppressed)
    exact ⟨other, channel ▸ member, frees lifts⟩

/-- After a fence no contact is fresh. -/
theorem FreshSound.fenced (sound : s.FreshSound fresh) (raised : s.host.inputEpoch < t.host.inputEpoch)
    (penInput : t.penInput = s.penInput) (touchInput : t.touchInput = s.touchInput) (down : t.down = s.down)
    (contacts : t.contacts = s.contacts) : t.FreshSound fresh := by
  have stale : ∀ contact, ¬ t.IsFresh fresh contact := by
    intro contact is
    have old := (sound.marked contact _ is).2
    omega
  obtain ⟨reached, owner, streams⟩ := sound.streams
  refine ⟨⟨reached, owner, streams.still penInput touchInput down contacts raised.le⟩, ?_, fun device => ⟨?_, ?_⟩⟩
  · intro contact epoch marked
    obtain ⟨old, late⟩ := sound.marked contact epoch marked
    exact ⟨contacts ▸ old, late.trans raised.le⟩
  · exact fun before captured after split mine is => absurd is (stale _)
  · exact fun contact holds is => absurd is (stale _)

/-! ## Capture -/

theorem split_snoc {α : Type} {items before after : List α} {last item : α}
    (split : items ++ [last] = before ++ item :: after) :
    item = last ∧ items = before ∨ ∃ rest, items = before ++ item :: rest := by
  rcases List.eq_nil_or_concat after with rfl | ⟨rest, final, rfl⟩
  · obtain ⟨same, heads⟩ := List.append_inj' split rfl
    exact .inl ⟨(List.cons.inj heads).1.symm, same⟩
  · right
    rw [List.concat_eq_append, ← List.cons_append, ← List.append_assoc] at split
    exact ⟨rest, (List.append_inj' split rfl).1⟩

/-- A captured frame joins the channel. If it begins a fresh contact of a suppressed
    touch, then a release is to wait before it. -/
theorem FreshSound.queued (sound : s.FreshSound fresh) {contact count : Nat} {owner' : Nat → Device}
    {reached : Device → Option Nat} (streams : s.StreamsSound reached owner')
    (continues : Continues (s.down frame.device) ⟨s.host.inputEpoch, frame, contact⟩)
    (owns : owner' contact = frame.device) (counted : s.contacts ≤ count) (known : contact < count)
    (begins : frame.part = .opening → contact = s.contacts) (agrees : ∀ contact < s.contacts, fresh' contact = fresh contact)
    (marked : ∀ contact epoch, fresh' contact = some epoch → contact < count ∧ epoch ≤ s.host.inputEpoch)
    (released : frame.part = .opening → s.IsFresh fresh' contact → frame.device ≠ .pen → s.host.Suppressed frame.device →
      ∃ other ∈ s.channel frame.device, s.Frees frame.device other) :
    ({ s.queued frame contact with contacts := count } : InputState).FreshSound fresh' := by
  have old : ∀ contact < s.contacts, s.IsFresh fresh' contact → s.IsFresh fresh contact := fun contact older is =>
    (agrees contact older).symm.trans is
  -- A frame that goes on with its contact finds before it what the contact's frame to come was promised.
  have goesOn : frame.part ≠ .opening → s.IsFresh fresh' contact → s.host.Suppressed frame.device →
      ∃ other ∈ s.channel frame.device, s.Frees frame.device other := by
    intro goesOn is suppressed
    cases down : s.down frame.device with
    | none =>
      rw [down] at continues
      exact absurd continues goesOn
    | some held =>
      rw [down] at continues
      have same : contact = held := continues.2
      subst same
      exact (sound.cleared frame.device).down contact down (old contact (streams.downOwned _ _ down).2 is) suppressed
  have member : ∀ {device other}, other ∈ s.channel device → other ∈ (s.queued frame contact).channel device := by
    intro device other member
    rw [channel_queued]
    split
    · exact List.mem_append_left _ member
    · exact member
  refine ⟨⟨_, _, streams.queued continues owns counted known begins⟩, marked, fun device => ⟨?_, ?_⟩⟩
  · intro before captured after split mine is notPen suppressed
    change (s.queued frame contact).channel device = _ at split
    rw [channel_queued] at split
    have earlier : ∀ rest, s.channel device = before ++ captured :: rest → ∃ other ∈ before, s.Frees device other := by
      intro rest split
      have older := (streams.owned device captured (by rw [split]; simp)).2.1
      exact (sound.cleared device).waiting before captured rest split mine (old _ older is) notPen suppressed
    have before' : ∃ other ∈ before, s.Frees device other := by
      split at split
      · rcases split_snoc split with ⟨rfl, rfl⟩ | ⟨rest, split⟩
        · simp only at mine is notPen
          subst mine
          by_cases opens : frame.part = .opening
          · exact released opens is (fun pen => notPen ⟨pen, opens⟩) suppressed
          · exact goesOn opens is suppressed
        · exact earlier rest split
      · exact earlier after split
    obtain ⟨other, inside, frees⟩ := before'
    exact ⟨other, inside, frees.device, frees.current, frees.lifts⟩
  · intro held down is suppressed
    change (s.queued frame contact).down device = _ at down
    have kept : (∃ other ∈ s.channel device, s.Frees device other) →
        ∃ other ∈ (s.queued frame contact).channel device, ({ s.queued frame contact with contacts := count } :
          InputState).Frees device other := by
      rintro ⟨other, inside, frees⟩
      exact ⟨other, member inside, frees.device, frees.current, frees.lifts⟩
    by_cases mine : device = frame.device
    · subst mine
      have same : held = contact := by
        change Function.update s.down frame.device _ frame.device = _ at down
        rw [Function.update_self] at down
        split at down
        · cases down
        · exact (Option.some.inj down).symm
      subst same
      by_cases opens : frame.part = .opening
      · by_cases pen : frame.device = .pen
        · refine ⟨⟨s.host.inputEpoch, frame, held⟩, ?_, rfl, rfl, .inr ⟨pen, opens⟩⟩
          show _ ∈ (s.queued frame held).channel frame.device
          rw [channel_queued, if_pos Iff.rfl]
          exact List.mem_append_right _ (List.mem_singleton_self _)
        · exact kept (released opens is pen suppressed)
      · exact kept (goesOn opens is suppressed)
    · change Function.update s.down frame.device _ device = _ at down
      rw [Function.update_of_ne mine] at down
      exact kept ((sound.cleared device).down held down (old held (streams.downOwned _ _ down).2 is) suppressed)

/-! ## Dispatch -/

/-- The frame that is dispatched frees its device if it was to. -/
theorem dispatch_frees (frees : s.Frees device captured) (committed : Option PanelLease) :
    ¬ (s.host.dispatchCapturedInput committed captured).2.Suppressed device := by
  intro suppressed
  have before := (HostState.dispatch_current committed frees.current).suppressed device suppressed
  exact HostState.suppressFencedContact_lifts frees.lifts (frees.device ▸ before)

theorem FreshSound.popped (sound : s.FreshSound fresh) (popped : Popped s t captured)
    (host : t.host = (s.host.dispatchCapturedInput s.committed captured).2) : t.FreshSound fresh := by
  have eased : s.host.Eased t.host := host ▸ HostState.dispatch_eased s.committed captured
  have isFresh : ∀ contact, t.IsFresh fresh contact → s.IsFresh fresh contact := fun contact is =>
    is.trans (congrArg some eased.inputEpoch)
  have frees : ∀ {device other}, s.Frees device other → t.Frees device other := fun frees =>
    ⟨frees.device, frees.current.trans eased.inputEpoch.symm, frees.lifts⟩
  -- The frame that frees a device that stays suppressed is not the one dispatched.
  have later : ∀ {device rest}, t.host.Suppressed device → (∃ other ∈ captured :: rest, s.Frees device other) →
      ∃ other ∈ rest, t.Frees device other := by
    rintro device rest suppressed ⟨other, member, lifts⟩
    rcases List.mem_cons.mp member with rfl | member
    · rw [host] at suppressed
      exact absurd suppressed (dispatch_frees lifts s.committed)
    · exact ⟨other, member, frees lifts⟩
  obtain ⟨reached, owner, streams⟩ := sound.streams
  refine ⟨⟨_, _, streams.popped popped eased.inputEpoch.ge⟩, ?_, fun device => ⟨?_, ?_⟩⟩
  · intro contact epoch marked
    rw [popped.contacts, eased.inputEpoch]
    exact sound.marked contact epoch marked
  · intro before next after split mine is notPen suppressed
    have held := eased.suppressed device suppressed
    rcases popped.channel device with ⟨same, _⟩ | same
    · obtain ⟨other, member, lifts⟩ := (sound.cleared device).waiting before next after (same.trans split) mine
        (isFresh _ is) notPen held
      exact ⟨other, member, frees lifts⟩
    · exact later suppressed ((sound.cleared device).waiting (captured :: before) next after (by rw [same, split]; rfl) mine
        (isFresh _ is) notPen held)
  · intro contact down is suppressed
    rw [popped.down] at down
    have waits := (sound.cleared device).down contact down (isFresh _ is) (eased.suppressed device suppressed)
    rcases popped.channel device with ⟨same, _⟩ | same
    · obtain ⟨other, member, lifts⟩ := waits
      exact ⟨other, same ▸ member, frees lifts⟩
    · rw [same] at waits
      exact later suppressed waits

/-! ## Every step -/

/-- Whatever happens, a contact that is not marked needs nothing. -/
theorem FreshSound.stepped (sound : s.FreshSound fresh) {event : HostEvent} (stepped : Stepped s event t) :
    t.FreshSound fresh := by
  have beside : ∀ {host : HostState} {connections : List Connection} {committed : Option PanelLease},
      s.host.Eased host ∨ s.host.inputEpoch < host.inputEpoch →
      ({ s with host := host, connections := connections, committed := committed } : InputState).FreshSound fresh := by
    rintro host connections committed (eased | raised)
    · exact sound.eased eased rfl rfl rfl rfl
    · exact sound.fenced raised rfl rfl rfl rfl
  obtain ⟨reached, owner, streams⟩ := sound.streams
  cases stepped with
  | idle => exact sound
  | connected => exact beside (.inl (.refl _))
  | registered client key shmKey next unused vacant => exact beside (.inl (.of_eq rfl rfl rfl))
  | refused client next unused => exact beside (.inl (.of_eq rfl rfl rfl))
  | activated client key entry registering held => exact beside (.inl (.of_eq rfl rfl rfl))
  | aborted client key registering =>
    have aborted : s.host.Eased (s.host.abortRegistration key) := by
      rcases HostState.abortRegistration_spec (s := s.host) key with same | ⟨_, _, _, same | same⟩
      all_goals rw [same]; exact .of_eq rfl rfl rfl
    exact beside (.inl (aborted.trans (.of_eq rfl rfl rfl)))
  | left client key host active departs =>
    refine beside ?_
    rcases departs.eased with eased | raised
    · exact .inl (eased.trans (.of_eq rfl rfl rfl))
    · exact .inr raised
  | received client => exact beside (.inl (.of_eq rfl rfl rfl))
  | operated cancelled host operated => exact beside operated.eased
  | finished sleepEpoch =>
    refine beside (.inr ?_)
    have raises := HostState.fence_epoch s.host
    show s.host.inputEpoch < s.host.fenceInputContacts.inputEpoch
    omega
  | stopping commands only => exact beside (.inl (.of_eq rfl rfl rfl))
  | began frame opens up =>
    have unmarked : ¬ s.IsFresh fresh s.contacts := fun is => absurd (sound.marked _ _ is).1 (Nat.lt_irrefl _)
    have continues : Continues (s.down frame.device) ⟨s.host.inputEpoch, frame, s.contacts⟩ := by
      rw [up]
      exact opens
    have streams : s.StreamsSound reached (Function.update owner s.contacts frame.device) :=
      streams.owners fun contact old => Function.update_of_ne old.ne _ _
    refine sound.queued streams continues (Function.update_self ..) (Nat.le_succ _) (Nat.lt_succ_self _) (fun _ => rfl)
      (fun _ _ => rfl) ?_ (fun _ is => absurd is unmarked)
    · intro contact epoch marked
      obtain ⟨old, late⟩ := sound.marked contact epoch marked
      exact ⟨old.trans (Nat.lt_succ_self _), late⟩
  | continued frame contact goesOn down =>
    obtain ⟨owns, known⟩ := streams.downOwned frame.device contact down
    have continues : Continues (s.down frame.device) ⟨s.host.inputEpoch, frame, contact⟩ := by
      rw [down]
      exact ⟨goesOn, rfl⟩
    exact sound.queued streams continues owns le_rfl known (fun opens => absurd opens goesOn) (fun _ _ => rfl) sound.marked
      (fun opens => absurd opens goesOn)
  | dispatchedPen captured rest queue => exact sound.popped (popped_pen streams queue _) rfl
  | dispatchedTouch captured rest queue => exact sound.popped (popped_touch streams queue _) rfl
  | injected epoch frame => exact beside (.inl (HostState.dispatch_eased _ _))
  | worked command rest commands connected committed queue taken announces => exact beside (.inl (.of_eq rfl rfl rfl))
  | flushed commands connected committed taken announces => exact beside (.inl (.of_eq rfl rfl rfl))

end InputState

/-! ## Runs -/

/-- A run, with the input epoch at which each contact was put down on an unlocked
    committed foreground. -/
structure FreshRun where
  host : DisplayHost
  fresh : Nat → Option Nat

namespace FreshRun
variable {r : FreshRun}

def start (shm : Nat → SharedSurface) (backend : PanelBackend) : FreshRun := ⟨.start shm backend, fun _ => none⟩

/-- The captured frame begins a contact while an unlocked committed foreground exists. -/
def Begins (s : DisplayHost) (frame : InputFrame) : Prop :=
  frame.part = .opening ∧ s.down frame.device = none ∧ s.host.lock = none ∧
    s.worker.telemetry.committedForeground.isSome = true

instance (s : DisplayHost) (frame : InputFrame) : Decidable (Begins s frame) :=
  inferInstanceAs (Decidable (_ ∧ _ ∧ _ ∧ _))

def next (r : FreshRun) (event : HostEvent) : FreshRun where
  host := r.host.next event
  fresh :=
    match event with
    | .capture frame =>
      if Begins r.host frame then Function.update r.fresh r.host.contacts (some r.host.host.inputEpoch) else r.fresh
    | _ => r.fresh

/-- If the step dispatches a frame of a contact that was put down since the last fence,
    then the frame is not dropped as one of a contact from before a fence. -/
def KeepsFresh (r : FreshRun) (event : HostEvent) : Prop :=
  ∀ captured ∈ r.host.input.head event, r.fresh captured.contact = some r.host.host.inputEpoch →
    (r.host.host.suppressFencedContact captured.frame).1 = false

/-- A touch that is put down on an unlocked committed foreground has an id that is not
    suppressed, or a release of the id captured since the last fence waits before it. -/
def ReleasesFirst (r : FreshRun) : HostEvent → Prop
  | .capture frame =>
    Begins r.host frame → frame.device ≠ .pen → r.host.host.Suppressed frame.device →
      ∃ captured ∈ r.host.touchInput, captured.frame.device = frame.device ∧
        captured.epoch = r.host.host.inputEpoch ∧ captured.frame.part = .closing
  | _ => True

theorem start_sound (shm : Nat → SharedSurface) (backend : PanelBackend) :
    (start shm backend).host.input.FreshSound (start shm backend).fresh := by
  obtain ⟨reached, owner, streams, _⟩ := (DisplayHost.start_inputSound shm backend).contacts
  refine ⟨⟨reached, owner, streams⟩, nofun, fun device => ⟨?_, nofun⟩⟩
  intro before captured after split
  have empty : (DisplayHost.start shm backend).input.channel device = [] := by cases device <;> rfl
  change (DisplayHost.start shm backend).input.channel device = _ at split
  simp [empty] at split

/-- A captured frame that begins a contact, marked or not. -/
theorem capture_sound (sound : r.host.input.FreshSound r.fresh) (releases : r.ReleasesFirst (.capture frame))
    (opens : frame.part = .opening) (up : r.host.down frame.device = none) :
    (r.next (.capture frame)).host.input.FreshSound (r.next (.capture frame)).fresh := by
  obtain ⟨reached, owner, streams⟩ := sound.streams
  have after : (r.next (.capture frame)).host.input =
      { r.host.input.queued frame r.host.contacts with contacts := r.host.contacts + 1 } := by
    simp [next, DisplayHost.next, DisplayHost.capture, DisplayHost.contactOf, up, opens, DisplayHost.input,
      InputState.queued]
  have continues : Continues (r.host.down frame.device) ⟨r.host.host.inputEpoch, frame, r.host.contacts⟩ := by
    rw [up]
    exact opens
  have streams : r.host.input.StreamsSound reached (Function.update owner r.host.contacts frame.device) :=
    streams.owners fun contact old => Function.update_of_ne (Nat.ne_of_lt old) _ _
  rw [after]
  refine sound.queued streams continues (Function.update_self ..) (Nat.le_succ _) (Nat.lt_succ_self _) (fun _ => rfl) ?_ ?_ ?_
  · intro contact old
    simp only [next]
    split
    · exact Function.update_of_ne (Nat.ne_of_lt old) _ _
    · rfl
  · intro contact epoch marked
    simp only [next] at marked
    split at marked
    · by_cases new : contact = r.host.contacts
      · rw [new, Function.update_self] at marked
        exact ⟨new ▸ Nat.lt_succ_self _, (Option.some.inj marked).ge⟩
      · rw [Function.update_of_ne new] at marked
        obtain ⟨old, late⟩ := sound.marked contact epoch marked
        exact ⟨old.trans (Nat.lt_succ_self _), late⟩
    · obtain ⟨old, late⟩ := sound.marked contact epoch marked
      exact ⟨old.trans (Nat.lt_succ_self _), late⟩
  · intro _ is notPen suppressed
    have begins : Begins r.host frame := by
      by_contra unmarked
      simp only [InputState.IsFresh, next, if_neg unmarked] at is
      exact absurd (sound.marked _ _ is).1 (Nat.lt_irrefl _)
    obtain ⟨captured, member, device, current, closes⟩ := releases begins notPen suppressed
    have channel : r.host.input.channel frame.device = r.host.touchInput := by
      cases kind : frame.device with
      | pen => exact absurd kind notPen
      | touch id => rfl
    exact ⟨captured, channel ▸ member, device, current, .inl closes⟩

theorem next_sound (sound : r.host.input.FreshSound r.fresh) {event : HostEvent} (releases : r.ReleasesFirst event) :
    (r.next event).host.input.FreshSound (r.next event).fresh := by
  have stepped : (r.host.next event).input.FreshSound r.fresh := sound.stepped (DisplayHost.next_stepped r.host event)
  cases event with
  | capture frame =>
    by_cases begins : frame.part = .opening ∧ r.host.down frame.device = none
    · exact capture_sound sound releases begins.1 begins.2
    · have unmarked : ¬ Begins r.host frame := fun marked => begins ⟨marked.1, marked.2.1⟩
      simp only [next, if_neg unmarked]
      exact stepped
  | _ => exact stepped

theorem FreshSound.keeps (sound : r.host.input.FreshSound r.fresh) (event : HostEvent) : r.KeepsFresh event := by
  intro captured head isFresh
  obtain ⟨reached, owner, streams⟩ := sound.streams
  have queued : ∃ rest, r.host.input.channel captured.frame.device = captured :: rest := by
    cases event with
    | dispatchPen =>
      obtain ⟨rest, queue⟩ := List.head?_eq_some_iff.mp head
      have pen := (streams.sorted .pen captured (by simp [InputState.channel, queue])).mpr rfl
      exact ⟨rest, by rw [pen]; exact queue⟩
    | dispatchTouch =>
      obtain ⟨rest, queue⟩ := List.head?_eq_some_iff.mp head
      have touch := streams.sorted (.touch 0) captured (by simp [InputState.channel, queue])
      cases kind : captured.frame.device with
      | pen => cases touch.mp kind
      | touch id => exact ⟨rest, queue⟩
    | _ => cases head
  obtain ⟨rest, queue⟩ := queued
  exact sound.head_passes queue isFresh

end FreshRun

open FreshRun in
/-- In a run in which no touch is put down under an id that stays suppressed, no frame of
    a fresh contact is dropped by the suppression, whichever is dispatched next. -/
theorem fresh_contacts_pass (shm : Nat → SharedSurface) (backend : PanelBackend) (events : List HostEvent)
    (releases : Runs.Along FreshRun.next ReleasesFirst (.start shm backend) events) (event : HostEvent) :
    (events.foldl FreshRun.next (.start shm backend)).KeepsFresh event :=
  FreshSound.keeps (releases.invariant (fun r => r.host.input.FreshSound r.fresh)
    (fun _ _ sound releases => next_sound sound releases) (start_sound shm backend)) event

/-! ## A release that is lost -/

namespace Sample

/-- A finger is lifted, and its release is dispatched only after `between`; then the
    finger is put down again. -/
def lifted (before between : List HostEvent) : List HostEvent :=
  touched ++ before ++ .capture (finger .up) :: between ++
    [.dispatchTouch, .work 0 none, .work 1 (some 1), .capture (finger .down)]

/-- The next foreground is requested. -/
def refocus : HostEvent := .setForeground 1 1 2 false

end Sample

instance (r : FreshRun) (event : HostEvent) : Decidable (r.KeepsFresh event) :=
  inferInstanceAs (Decidable (∀ captured ∈ r.host.input.head event, _ → _))

instance (s : HostState) : (device : Device) → Decidable (s.Suppressed device)
  | .pen => inferInstanceAs (Decidable (s.suppressedPen = true))
  | .touch deviceId => inferInstanceAs (Decidable (deviceId ∈ s.suppressedTouches))

instance (r : FreshRun) (event : HostEvent) : Decidable (r.ReleasesFirst event) := by
  cases event <;> unfold FreshRun.ReleasesFirst <;> infer_instance

open Sample in
theorem fresh_contacts_pass_finger :
    ((lifted [refocus] []).foldl FreshRun.next (.start (fun _ => tile) glass)).KeepsFresh .dispatchTouch :=
  fresh_contacts_pass (fun _ => tile) glass (lifted [refocus] []) (by decide) .dispatchTouch

open Sample in
/-- The foreground is requested between a release's capture and its dispatch: the stale
    release frees nothing, and the finger that is put down next is not heard. -/
theorem stale_release_swallows_finger :
    ¬ ((lifted [] [refocus]).foldl FreshRun.next (.start (fun _ => tile) glass)).KeepsFresh .dispatchTouch := by decide

end Remagic.Display
