import Remagic.InputFence
import Remagic.InputTouches
import Remagic.WireAgreement

/-!
# Home's one finger

Home follows one finger at a time: from a press it ignores all others until
that finger's release. Here Home reads what its connection's writer sends while
the host goes through any run.
-/

namespace Remagic.Display
open Home (TouchEvent)

/-! ## The packets as they are sent -/

def InputType.code : InputType → Int32
  | .touchPress => Wire.inputTouchPress
  | .touchRelease => Wire.inputTouchRelease
  | .touchUpdate => Wire.inputTouchUpdate
  | .penPress => Wire.inputPenPress
  | .penRelease => Wire.inputPenRelease
  | .penUpdate => Wire.inputPenUpdate

def InputPacket.input (packet : InputPacket) : Input :=
  ⟨packet.inputType.code, onWire packet.deviceId, Int32.ofInt packet.x, Int32.ofInt packet.y, Int32.ofInt packet.detail⟩

def InputPacket.bytes (packet : InputPacket) : Vector UInt8 32 := packet.input.packet

theorem InputType.code_press (kind : InputType) : kind.code = Wire.inputTouchPress ↔ kind = .touchPress := by
  cases kind <;> decide

theorem InputType.code_release (kind : InputType) : kind.code = Wire.inputTouchRelease ↔ kind = .touchRelease := by
  cases kind <;> decide

/-- The finger that Home follows is down for who has heard the same packets. -/
theorem primary_follows (packet : InputPacket) {touch : Option Int32} {down : Int32 → Bool}
    (follows : ∀ finger, touch = some finger → down finger = true) (finger : Int32)
    (primary : (packet.input.primary touch).2 = some finger) : packet.follow finger (down finger) = true := by
  unfold Input.primary at primary
  simp only [InputPacket.input, InputType.code_press, InputType.code_release] at primary
  split at primary
  · rename_i pressed
    cases primary
    simp [InputPacket.follow, pressed.1]
  split at primary
  · cases primary
  rename_i other
  have primary : touch = some finger := primary
  have before := follows finger primary
  by_cases its : onWire packet.deviceId = finger
  · unfold InputPacket.follow
    rw [if_neg (not_not.mpr its), before]
    cases kind : packet.inputType <;> simp [kind, its, primary] at other ⊢
  · rw [InputPacket.follow_elsewhere its, before]

/-! ## What Home emits -/

def isPress : TouchEvent → Bool
  | .press _ _ => true
  | .release _ _ => false

/-- Presses and releases take turns, and a press comes first. -/
def Alternates (events : List TouchEvent) : Prop :=
  ∀ index event, events[index]? = some event → (isPress event = true ↔ index % 2 = 0)

theorem Alternates.append {events : List TouchEvent} (alternates : Alternates events) {event : TouchEvent}
    (turn : isPress event = true ↔ events.length % 2 = 0) : Alternates (events ++ [event]) := by
  intro index other found
  rcases Nat.lt_trichotomy index events.length with inside | rfl | outside
  · rw [List.getElem?_append_left inside] at found
    exact alternates index other found
  · rw [List.getElem?_concat_length, Option.some.injEq] at found
    exact found ▸ turn
  · rw [List.getElem?_eq_none (by simpa using Nat.succ_le_of_lt outside)] at found
    cases found

/-- What Home has emitted ends with a press as long as it follows a finger. -/
structure Emitted (touch : Option Int32) (events : List TouchEvent) : Prop where
  alternates : Alternates events
  turn : touch = none ↔ events.length % 2 = 0

theorem Emitted.primary {touch : Option Int32} {events : List TouchEvent} (emitted : Emitted touch events) (input : Input) :
    Emitted (input.primary touch).2 (events ++ (input.primary touch).1.toList) := by
  unfold Input.primary
  split
  · rename_i pressed
    have idle : events.length % 2 = 0 := emitted.turn.mp pressed.2
    refine ⟨emitted.alternates.append (by simpa [isPress] using idle), ?_⟩
    simp only [Option.toList_some, List.length_append, List.length_singleton, reduceCtorEq, false_iff]
    omega
  split
  · rename_i released
    have busy : ¬ events.length % 2 = 0 := fun even => by simp [emitted.turn.mpr even] at released
    refine ⟨emitted.alternates.append (by simpa [isPress] using busy), ?_⟩
    simp only [Option.toList_some, List.length_append, List.length_singleton, true_iff]
    omega
  · rw [Option.toList_none, List.append_nil]
    exact emitted

/-! ## Home beside the host -/

/-- Home polls while these packets, and no more, have arrived. -/
def polled (client : Home.Client) (packets : List InputPacket) : List TouchEvent × Home.Client :=
  client.pollTouchEvents (packets.map fun packet => (packet.bytes, 32))

/-- `wire` is what the connection's writer has sent and Home has not read. -/
structure TouchedHome where
  display : DisplayHost
  client : Home.Client
  wire : List InputPacket
  emitted : List TouchEvent

inductive TouchAction where
  | display (event : HostEvent)
  -- Home polls when this many packets have arrived.
  | poll (arrived : Nat)

namespace TouchedHome

def start (shm : Nat → SharedSurface) (backend : PanelBackend) : TouchedHome :=
  ⟨.start shm backend, ⟨none, (0, 0)⟩, [], []⟩

/-- The packets that the writer of a connection has taken from its queue. -/
def taken (display : DisplayHost) (home : Nat) : List InputPacket :=
  (display.host.queues home).received.map Delivery.packet

/-- `home` is the number of Home's connection. -/
def next (home : Nat) (s : TouchedHome) : TouchAction → TouchedHome
  | .display event =>
    let after := s.display.next event
    { s with display := after, wire := s.wire ++ (taken after home).drop (taken s.display home).length }
  | .poll arrived =>
    let (events, client) := polled s.client (s.wire.take arrived)
    { s with client := client, wire := s.wire.drop arrived, emitted := s.emitted ++ events }

/-- Home has read, in their order, the packets that its writer has sent and that are
    not under way. -/
structure Sound (home : Nat) (s : TouchedHome) : Prop where
  touches : s.display.input.TouchesSound
  clients : s.display.input.ClientsSound
  emitted : Emitted s.client.primaryTouch s.emitted
  follows : (s.display.host.queues home).closed = false → ∃ read, read ++ s.wire = taken s.display home ∧
    ∀ finger, s.client.primaryTouch = some finger →
      read.foldl (fun down packet => packet.follow finger down) false = true

end TouchedHome

theorem pollTouchEvent_bytes (client : Home.Client) (packet : InputPacket) :
    (client.pollTouchEvent packet.bytes 32).1 = (packet.input.primary client.primaryTouch).1 ∧
      (client.pollTouchEvent packet.bytes 32).2.primaryTouch = (packet.input.primary client.primaryTouch).2 := by
  have read := pollTouchEvent_packet packet.input client
  unfold InputPacket.bytes
  generalize client.pollTouchEvent packet.input.packet 32 = turn at read ⊢
  exact ⟨congrArg Prod.fst read, congrArg Prod.snd read⟩

theorem polled_cons (client : Home.Client) (packet : InputPacket) (rest : List InputPacket) :
    polled client (packet :: rest) =
      ((client.pollTouchEvent packet.bytes 32).1.toList ++ (polled (client.pollTouchEvent packet.bytes 32).2 rest).1,
        (polled (client.pollTouchEvent packet.bytes 32).2 rest).2) := by
  simp only [polled, List.map_cons, Home.Client.pollTouchEvents]

/-- Polling follows the packets one by one. -/
theorem polled_follows (client : Home.Client) (packets : List InputPacket) (down : Int32 → Bool)
    {emitted : List TouchEvent} (sound : Emitted client.primaryTouch emitted)
    (follows : ∀ finger, client.primaryTouch = some finger → down finger = true) :
    Emitted (polled client packets).2.primaryTouch (emitted ++ (polled client packets).1) ∧
      ∀ finger, (polled client packets).2.primaryTouch = some finger →
        packets.foldl (fun down packet => packet.follow finger down) (down finger) = true := by
  induction packets generalizing client down emitted with
  | nil =>
    refine ⟨?_, follows⟩
    rw [polled, List.map_nil, Home.Client.pollTouchEvents, List.append_nil]
    exact sound
  | cons packet rest ih =>
    obtain ⟨event, primary⟩ := pollTouchEvent_bytes client packet
    have sound' := sound.primary packet.input
    have follows' := primary_follows packet follows
    rw [← event, ← primary] at sound'
    rw [← primary] at follows'
    rw [polled_cons]
    generalize client.pollTouchEvent packet.bytes 32 = turn at sound' follows'
    obtain ⟨emits, tracks⟩ := ih turn.2 (fun finger => packet.follow finger (down finger)) sound' follows'
    rw [List.append_assoc] at emits
    exact ⟨emits, tracks⟩

namespace TouchedHome

theorem start_sound (home : Nat) (shm : Nat → SharedSurface) (backend : PanelBackend) : (start shm backend).Sound home := by
  have silent : (start shm backend).display.input.TouchesSound := by
    refine ⟨fun client finger opened down => ?_, fun client key opened active => ?_, fun pending => ?_⟩
    · cases down
    · cases active
    · exact absurd rfl pending
  refine ⟨silent, (DisplayHost.start_inputSound shm backend).clients, ⟨nofun, ?_⟩, fun opened => ⟨[], rfl, ?_⟩⟩
  · exact ⟨fun _ => rfl, fun _ => rfl⟩
  · intro finger primary
    cases primary

theorem next_sound {home : Nat} {s : TouchedHome} (action : TouchAction) (sound : s.Sound home) :
    (s.next home action).Sound home := by
  cases action with
  | display event =>
    have stepped := DisplayHost.next_stepped s.display event
    have step := InputState.stepped_touches sound.touches sound.clients stepped
    refine ⟨step.sound, InputState.stepped_clientsSound sound.clients stepped, sound.emitted, fun opened => ?_⟩
    obtain ⟨was, prefixed⟩ := step.received home opened
    obtain ⟨read, sent, follows⟩ := sound.follows was
    obtain ⟨more, received⟩ : taken s.display home <+: taken (s.display.next event) home := prefixed.map _
    refine ⟨read, ?_, follows⟩
    simp only [next]
    rw [← List.append_assoc, sent, ← received, List.drop_left]
  | poll arrived =>
    refine ⟨sound.touches, sound.clients, ?_, fun opened => ?_⟩
    · exact (polled_follows s.client (s.wire.take arrived) (fun _ => true) sound.emitted fun _ _ => rfl).1
    · obtain ⟨read, sent, follows⟩ := sound.follows opened
      refine ⟨read ++ s.wire.take arrived, ?_, fun finger primary => ?_⟩
      · simp only [next]
        rw [List.append_assoc, List.take_append_drop, sent]
      · rw [List.foldl_append]
        exact (polled_follows s.client (s.wire.take arrived)
          (fun finger => read.foldl (fun down packet => packet.follow finger down) false) sound.emitted follows).2
          finger primary

/-- The finger that Home follows once it has read everything is one that the host routes to it. -/
theorem Sound.routed {home : Nat} {s : TouchedHome} (sound : s.Sound home)
    (opened : (s.display.host.queues home).closed = false) (drained : (s.display.host.queues home).packets = [])
    (read : s.wire = []) {finger : Int32} (primary : s.client.primaryTouch = some finger) :
    ∃ key foreground, s.display.connections[home]? = some (.active key) ∧ s.display.host.foreground = some foreground ∧
      foreground.key = key ∧ ∃ deviceId ∈ s.display.host.activeTouches, onWire deviceId = finger := by
  obtain ⟨heard, sent, follows⟩ := sound.follows opened
  refine sound.touches.routed home finger opened ?_
  have down := follows finger primary
  rw [read, List.append_nil] at sent
  rw [sent, taken, List.foldl_map] at down
  have whole : (s.display.host.queues home).presses finger =
      (s.display.host.queues home).received.foldl (fun down delivery => delivery.packet.follow finger down) false := by
    unfold InputQueue.presses
    rw [drained, List.append_nil]
    rfl
  exact whole.trans down

end TouchedHome

/-- However the host runs, what Home emits alternates from a press on, and while Home's
    queue is open and everything sent to it is read, Home follows a finger only if the
    host still routes it to Home's surface. -/
theorem home_finger_routed (shm : Nat → SharedSurface) (backend : PanelBackend) (home : Nat) (actions : List TouchAction)
    (opened : ((actions.foldl (TouchedHome.next home) (.start shm backend)).display.host.queues home).closed = false) :
    let s := actions.foldl (TouchedHome.next home) (.start shm backend)
    Alternates s.emitted ∧
    ((s.display.host.queues home).packets = [] → s.wire = [] → ∀ finger, s.client.primaryTouch = some finger →
      ∃ key foreground, s.display.connections[home]? = some (.active key) ∧ s.display.host.foreground = some foreground ∧
        foreground.key = key ∧ ∃ deviceId ∈ s.display.host.activeTouches, onWire deviceId = finger) := by
  have sound : (actions.foldl (TouchedHome.next home) (.start shm backend)).Sound home :=
    Runs.run_invariant (fun _ action sound => TouchedHome.next_sound action sound) actions
      (TouchedHome.start_sound home shm backend)
  exact ⟨sound.emitted.alternates, fun drained read _ primary => sound.routed opened drained read primary⟩

namespace Sample

/-- A finger is put down on Home, and Home reads the press. -/
def pressed : List TouchAction := (touched ++ [HostEvent.receive 0]).map .display ++ [.poll 1]

end Sample

open Sample in
theorem home_finger_routed_pressed :
    let s := pressed.foldl (TouchedHome.next 0) (.start (fun _ => tile) glass)
    s.client.primaryTouch = some 5 ∧ Alternates s.emitted ∧
    ((s.display.host.queues 0).packets = [] → s.wire = [] → ∀ finger, s.client.primaryTouch = some finger →
      ∃ key foreground, s.display.connections[0]? = some (.active key) ∧ s.display.host.foreground = some foreground ∧
        foreground.key = key ∧ ∃ deviceId ∈ s.display.host.activeTouches, onWire deviceId = finger) :=
  ⟨by decide +kernel, home_finger_routed (fun _ => tile) glass 0 pressed (by decide +kernel)⟩

end Remagic.Display
