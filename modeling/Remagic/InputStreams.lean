import Remagic.InputRouting

/-!
# The channels of captured frames

The frames of one device in its channel continue the contact that the dispatcher
has reached, contact by contact, up to the one that the device makes. A contact
belongs to one device, and a press stands after every frame of older contacts.
-/

namespace Remagic.Display
open Brackets

/-- The frame is the next one of a device whose contact is `reached`. -/
def Continues (reached : Option Nat) (captured : CapturedInput) : Prop :=
  match reached with
  | none => captured.frame.part = .opening
  | some contact => captured.frame.part ≠ .opening ∧ captured.contact = contact

/-- The contact that the device makes after the frame. -/
def CapturedInput.after (captured : CapturedInput) : Option Nat :=
  if captured.frame.part = .closing then none else some captured.contact

/-- The frames lead from one contact of their device to another. -/
def Follows : Option Nat → List CapturedInput → Option Nat → Prop
  | reached, [], down => reached = down
  | reached, captured :: rest, down => Continues reached captured ∧ Follows captured.after rest down

theorem Follows.append {frames : List CapturedInput} {reached down : Option Nat} (follows : Follows reached frames down)
    {captured : CapturedInput} (continues : Continues down captured) :
    Follows reached (frames ++ [captured]) captured.after := by
  induction frames generalizing reached with
  | nil =>
    subst follows
    exact ⟨continues, rfl⟩
  | cons first rest ih => exact ⟨follows.1, ih follows.2⟩

namespace InputState
variable {s t : InputState} {reached : Device → Option Nat} {owner : Nat → Device}

/-- The channel that the device's frames go through. -/
def channel (s : InputState) : Device → List CapturedInput
  | .pen => s.penInput
  | .touch _ => s.touchInput

def pending (s : InputState) (device : Device) : List CapturedInput :=
  (s.channel device).filter fun captured => captured.frame.device = device

/-- The contact's press waits in a channel. -/
def Pressed (s : InputState) (contact : Nat) : Prop :=
  ∃ device, ∃ captured ∈ s.channel device, captured.frame.part = .opening ∧ captured.contact = contact

/-- The order of two frames in a channel. -/
def Before (first second : CapturedInput) : Prop :=
  first.epoch ≤ second.epoch ∧ (second.frame.part = .opening → first.contact ≠ second.contact)

/-- `reached` gives the contact up to which each device's frames were dispatched, and
    `owner` the device of each contact. -/
structure StreamsSound (s : InputState) (reached : Device → Option Nat) (owner : Nat → Device) : Prop where
  sorted : ∀ device, ∀ captured ∈ s.channel device, (captured.frame.device = .pen ↔ device = .pen)
  streams : ∀ device, Follows (reached device) (s.pending device) (s.down device)
  owned : ∀ device, ∀ captured ∈ s.channel device, owner captured.contact = captured.frame.device ∧
    captured.contact < s.contacts ∧ captured.epoch ≤ s.host.inputEpoch
  reachedOwned : ∀ device contact, reached device = some contact → owner contact = device ∧ contact < s.contacts
  downOwned : ∀ device contact, s.down device = some contact → owner contact = device ∧ contact < s.contacts
  ordered : ∀ device, (s.channel device).Pairwise Before

theorem channel_eq (penInput : t.penInput = s.penInput) (touchInput : t.touchInput = s.touchInput) :
    t.channel = s.channel := by
  funext device
  cases device with
  | pen => exact penInput
  | touch id => exact touchInput

/-- A step that leaves the channels alone. -/
theorem StreamsSound.still (sound : s.StreamsSound reached owner) (penInput : t.penInput = s.penInput)
    (touchInput : t.touchInput = s.touchInput) (down : t.down = s.down) (contacts : t.contacts = s.contacts)
    (epoch : s.host.inputEpoch ≤ t.host.inputEpoch) : t.StreamsSound reached owner := by
  have channel := channel_eq penInput touchInput
  refine ⟨?_, ?_, fun device captured member => ?_, ?_, ?_, ?_⟩
  · rw [channel]
    exact sound.sorted
  · rw [down]
    simpa only [pending, channel] using sound.streams
  · rw [channel] at member
    obtain ⟨owns, old, late⟩ := sound.owned device captured member
    exact ⟨owns, contacts ▸ old, late.trans epoch⟩
  · rw [contacts]
    exact sound.reachedOwned
  · rw [contacts, down]
    exact sound.downOwned
  · rw [channel]
    exact sound.ordered

theorem Pressed.still (penInput : t.penInput = s.penInput) (touchInput : t.touchInput = s.touchInput) {contact : Nat}
    (pressed : t.Pressed contact) : s.Pressed contact := by
  obtain ⟨device, captured, member, opens, same⟩ := pressed
  rw [channel_eq penInput touchInput] at member
  exact ⟨device, captured, member, opens, same⟩

/-! ## Capture -/

theorem channel_queued (frame : InputFrame) (contact : Nat) (device : Device) :
    (s.queued frame contact).channel device =
      if device = .pen ↔ frame.device = .pen then s.channel device ++ [⟨s.host.inputEpoch, frame, contact⟩]
      else s.channel device := by
  unfold queued channel
  cases device with
  | pen => by_cases pen : frame.device = .pen <;> simp [pen]
  | touch id => by_cases pen : frame.device = .pen <;> simp [pen]

theorem pending_queued (frame : InputFrame) (contact : Nat) (device : Device) :
    (s.queued frame contact).pending device =
      if device = frame.device then s.pending device ++ [⟨s.host.inputEpoch, frame, contact⟩] else s.pending device := by
  unfold pending
  rw [channel_queued]
  by_cases mine : device = frame.device
  · subst mine
    rw [if_pos Iff.rfl, if_pos rfl, List.filter_append]
    simp
  · rw [if_neg mine]
    split
    · rw [List.filter_append]
      simp [Ne.symm mine]
    · rfl

/-- A captured frame continues its device's contact, which may have begun with it. -/
theorem StreamsSound.queued (sound : s.StreamsSound reached owner) {frame : InputFrame} {contact count : Nat}
    (continues : Continues (s.down frame.device) ⟨s.host.inputEpoch, frame, contact⟩)
    (owns : owner contact = frame.device) (counted : s.contacts ≤ count) (known : contact < count)
    (fresh : frame.part = .opening → contact = s.contacts) :
    ({ s.queued frame contact with contacts := count } : InputState).StreamsSound reached owner := by
  have after : (s.queued frame contact).down = Function.update s.down frame.device
      (CapturedInput.after ⟨s.host.inputEpoch, frame, contact⟩) := rfl
  refine ⟨fun device captured member => ?_, fun device => ?_, fun device captured member => ?_, ?_, ?_, fun device => ?_⟩
  · change captured ∈ (s.queued frame contact).channel device at member
    rw [channel_queued] at member
    split at member
    · rename_i same
      rcases List.mem_append.mp member with old | new
      · exact sound.sorted device captured old
      · rw [List.mem_singleton.mp new]
        exact same.symm
    · exact sound.sorted device captured member
  · show Follows _ ((s.queued frame contact).pending device) ((s.queued frame contact).down device)
    rw [pending_queued, after]
    by_cases mine : device = frame.device
    · subst mine
      rw [if_pos rfl, Function.update_self]
      exact (sound.streams frame.device).append continues
    · rw [if_neg mine, Function.update_of_ne mine]
      exact sound.streams device
  · change captured ∈ (s.queued frame contact).channel device at member
    rw [channel_queued] at member
    have old : captured ∈ s.channel device → owner captured.contact = captured.frame.device ∧
        captured.contact < count ∧ captured.epoch ≤ s.host.inputEpoch := by
      intro member
      obtain ⟨owns, old, late⟩ := sound.owned device captured member
      exact ⟨owns, by omega, late⟩
    split at member
    · rcases List.mem_append.mp member with member | new
      · exact old member
      · rw [List.mem_singleton.mp new]
        exact ⟨owns, known, le_rfl⟩
    · exact old member
  · intro device contact reaches
    obtain ⟨owns, old⟩ := sound.reachedOwned device contact reaches
    exact ⟨owns, by show contact < count; omega⟩
  · intro device other down
    change (s.queued frame contact).down device = some other at down
    rw [after] at down
    by_cases mine : device = frame.device
    · subst mine
      rw [Function.update_self] at down
      unfold CapturedInput.after at down
      split at down
      · cases down
      · cases down
        exact ⟨owns, known⟩
    · rw [Function.update_of_ne mine] at down
      obtain ⟨owns, old⟩ := sound.downOwned device other down
      exact ⟨owns, by show other < count; omega⟩
  · show ((s.queued frame contact).channel device).Pairwise Before
    rw [channel_queued]
    split
    · refine List.pairwise_append.mpr ⟨sound.ordered device, List.pairwise_singleton .., fun first member second new => ?_⟩
      obtain ⟨_, old, late⟩ := sound.owned device first member
      rw [List.mem_singleton.mp new]
      refine ⟨late, fun opens same => ?_⟩
      have number := fresh opens
      simp only at same
      omega
    · exact sound.ordered device

/-! ## Dispatch -/

/-- The frame has left the head of its channel. -/
structure Popped (s t : InputState) (captured : CapturedInput) : Prop where
  channel : ∀ device, s.channel device = t.channel device ∧ device ≠ captured.frame.device ∨
    s.channel device = captured :: t.channel device
  down : t.down = s.down
  contacts : t.contacts = s.contacts

theorem popped_pen (sound : s.StreamsSound reached owner) {captured : CapturedInput} {rest : List CapturedInput}
    (queue : s.penInput = captured :: rest) (host : HostState) :
    Popped s { s with penInput := rest, host := host } captured := by
  refine ⟨fun device => ?_, rfl, rfl⟩
  cases device with
  | pen => exact .inr queue
  | touch id =>
    have pen := (sound.sorted .pen captured (by simp [channel, queue])).mpr rfl
    exact .inl ⟨rfl, by simp [pen]⟩

theorem popped_touch (sound : s.StreamsSound reached owner) {captured : CapturedInput} {rest : List CapturedInput}
    (queue : s.touchInput = captured :: rest) (host : HostState) :
    Popped s { s with touchInput := rest, host := host } captured := by
  refine ⟨fun device => ?_, rfl, rfl⟩
  cases device with
  | pen =>
    refine .inl ⟨rfl, fun pen => ?_⟩
    have finger := (sound.sorted (.touch 0) captured (by simp [channel, queue])).mp pen.symm
    cases finger
  | touch id => exact .inr queue

section
variable {captured : CapturedInput}

theorem Popped.member (popped : Popped s t captured) {device : Device} {other : CapturedInput}
    (member : other ∈ t.channel device) : other ∈ s.channel device := by
  rcases popped.channel device with ⟨same, _⟩ | same
  · exact same ▸ member
  · exact same ▸ List.mem_cons_of_mem _ member

theorem Popped.head (popped : Popped s t captured) :
    s.channel captured.frame.device = captured :: t.channel captured.frame.device :=
  (popped.channel captured.frame.device).elim (fun other => absurd rfl other.2) id

theorem Popped.pressed (popped : Popped s t captured) {contact : Nat} (pressed : t.Pressed contact) :
    s.Pressed contact := by
  obtain ⟨device, other, member, opens, same⟩ := pressed
  exact ⟨device, other, popped.member member, opens, same⟩

/-- The frame continues what was dispatched of its device's contact. -/
theorem StreamsSound.continues (sound : s.StreamsSound reached owner) (popped : Popped s t captured) :
    Continues (reached captured.frame.device) captured := by
  have streams := sound.streams captured.frame.device
  unfold pending at streams
  rw [popped.head, List.filter_cons_of_pos (by simp)] at streams
  exact streams.1

theorem StreamsSound.popped (sound : s.StreamsSound reached owner) (popped : Popped s t captured)
    (epoch : s.host.inputEpoch ≤ t.host.inputEpoch) :
    t.StreamsSound (Function.update reached captured.frame.device captured.after) owner := by
  have owns := sound.owned captured.frame.device captured (popped.head ▸ List.mem_cons_self ..)
  refine ⟨fun device other member => sound.sorted device other (popped.member member), fun device => ?_, ?_, ?_, ?_,
    fun device => ?_⟩
  · have streams := sound.streams device
    unfold pending at streams ⊢
    rw [popped.down]
    rcases popped.channel device with ⟨same, elsewhere⟩ | same
    · rw [Function.update_of_ne elsewhere, ← same]
      exact streams
    · rw [same] at streams
      by_cases mine : device = captured.frame.device
      · subst mine
        rw [List.filter_cons_of_pos (by simp)] at streams
        rw [Function.update_self]
        exact streams.2
      · rw [List.filter_cons_of_neg (by simp [Ne.symm mine])] at streams
        rw [Function.update_of_ne mine]
        exact streams
  · intro device other member
    obtain ⟨owns, old, late⟩ := sound.owned device other (popped.member member)
    exact ⟨owns, popped.contacts ▸ old, late.trans epoch⟩
  · intro device contact reaches
    rw [popped.contacts]
    by_cases mine : device = captured.frame.device
    · subst mine
      rw [Function.update_self] at reaches
      unfold CapturedInput.after at reaches
      split at reaches
      · cases reaches
      · cases reaches
        exact ⟨owns.1, owns.2.1⟩
    · rw [Function.update_of_ne mine] at reaches
      exact sound.reachedOwned device contact reaches
  · rw [popped.down, popped.contacts]
    exact sound.downOwned
  · have ordered := sound.ordered device
    rcases popped.channel device with ⟨same, _⟩ | same
    · exact same ▸ ordered
    · rw [same] at ordered
      exact (List.pairwise_cons.mp ordered).2

/-- Once a contact's frame was dispatched, its press does not wait any more. -/
theorem StreamsSound.not_pressed (sound : s.StreamsSound reached owner) (popped : Popped s t captured) :
    ¬ t.Pressed captured.contact := by
  rintro ⟨device, other, member, opens, same⟩
  have mine := (sound.owned captured.frame.device captured (popped.head ▸ List.mem_cons_self ..)).1
  have theirs := (sound.owned device other (popped.member member)).1
  rw [same, mine] at theirs
  have channels : t.channel device = t.channel captured.frame.device := by
    have kind := sound.sorted device other (popped.member member)
    rw [← theirs] at kind
    cases device with
    | pen => rw [kind.mpr rfl]
    | touch id =>
      cases origin : captured.frame.device with
      | pen => simpa using kind.mp origin
      | touch other => rfl
  rw [channels] at member
  have ordered := sound.ordered captured.frame.device
  rw [popped.head] at ordered
  exact ((List.pairwise_cons.mp ordered).1 other member).2 opens same.symm

end

end InputState
end Remagic.Display
